/-
Graft/Proofs/Relation/Singular.lean

The singular of a name, by slices.

Most of the rules for the singular take away an ending that they have looked for.
One cuts at an offset: a word that ends like the plural of a sibilant is left
without its last two bytes.  All of these endings go on `es`, so the offset lies
between two characters (`singularBySlices_eq`).
-/
import Graft.Proofs.Text.Slice
import Graft.Relation.Singular

namespace Graft

open Text

/-- The singular of a word, by slices. -/
def singularBySlices (word : List Char) : Option (List Char) :=
  match stripSuffix? ['i', 'e', 's'] word with
  | some (c :: stem) => some (c :: stem ++ ['y'])
  | _ =>
    if sibilantPlurals.any (·.isSuffixOf word) then slice? word 0 (byteLength word - 2)
    else if ['s', 's'].isSuffixOf word then some word
    else
      match stripSuffix? ['s'] word with
      | some (c :: stem) => some (c :: stem)
      | _ => some word

/-- The plural of a sibilant ends in `es`. -/
theorem exists_stem_of_sibilant {word : List Char}
    (h : sibilantPlurals.any (·.isSuffixOf word) = true) : ∃ stem, word = stem ++ ['e', 's'] := by
  obtain ⟨ending, hending, hword⟩ := List.any_eq_true.1 h
  obtain ⟨start, rfl⟩ := List.isSuffixOf_iff_suffix.1 hword
  have hes : ∀ ending ∈ sibilantPlurals, ['e', 's'] <:+ ending := by decide
  obtain ⟨middle, rfl⟩ := hes ending hending
  exact ⟨start ++ middle, (List.append_assoc ..).symm⟩

theorem slice?_of_sibilant {word : List Char}
    (h : sibilantPlurals.any (·.isSuffixOf word) = true) :
    slice? word 0 (byteLength word - 2) = some (word.take (word.length - 2)) := by
  obtain ⟨stem, rfl⟩ := exists_stem_of_sibilant h
  have hbytes : byteLength (stem ++ ['e', 's']) - 2 = byteLength stem := by
    rw [byteLength_append]
    rfl
  have hlength : (stem ++ ['e', 's']).length - 2 = stem.length := by
    rw [List.length_append]
    rfl
  rw [hbytes, hlength, List.take_left]
  exact slice?_append [] stem ['e', 's']

/-- **No slice is out of bounds** when a word is put in the singular. -/
theorem singularBySlices_eq (word : List Char) :
    singularBySlices word = some (singularChars word) := by
  rw [singularBySlices, singularChars]
  by_cases hsibilant : sibilantPlurals.any (·.isSuffixOf word) = true
  · simp only [if_pos hsibilant, slice?_of_sibilant hsibilant]
    rcases stripSuffix? ['i', 'e', 's'] word with _ | _ | ⟨c, stem⟩ <;> rfl
  · -- none of the other rules cuts at an offset
    simp only [if_neg hsibilant]
    by_cases hss : ['s', 's'].isSuffixOf word = true
    · simp only [if_pos hss]
      rcases stripSuffix? ['i', 'e', 's'] word with _ | _ | ⟨c, stem⟩ <;> rfl
    · simp only [if_neg hss]
      rcases stripSuffix? ['i', 'e', 's'] word with _ | _ | ⟨c, stem⟩ <;>
        rcases stripSuffix? ['s'] word with _ | _ | ⟨d, stem'⟩ <;> rfl

end Graft
