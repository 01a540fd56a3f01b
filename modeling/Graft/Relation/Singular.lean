/-
Graft/Relation/Singular.lean

The singular of a table's name.

Tables are named in the plural and foreign keys in the singular: `invoices`,
`invoice_id`.  The rules are those of English spelling, tried in order; they
look at the end of the name only, so of several words the last one changes.
-/
namespace Graft

/-- The text before a suffix, if it ends in that suffix. -/
def stripSuffix? (suffix s : List Char) : Option (List Char) :=
  if suffix.isSuffixOf s then some (s.take (s.length - suffix.length)) else none

theorem stripSuffix?_eq_some_iff {suffix s stem : List Char} :
    stripSuffix? suffix s = some stem ↔ s = stem ++ suffix := by
  unfold stripSuffix?
  split
  · next h =>
    obtain ⟨t, rfl⟩ := List.isSuffixOf_iff_suffix.1 h
    simp [eq_comm]
  · next h =>
    simp only [reduceCtorEq, false_iff]
    rintro rfl
    exact h (List.isSuffixOf_iff_suffix.2 ⟨stem, rfl⟩)

/-- The endings after which a plural has `es`. -/
def sibilantPlurals : List (List Char) :=
  ["sses", "xes", "ches", "shes", "zzes"].map String.toList

/-- The singular of a word: `-ies` becomes `-y`, `-es` goes after a sibilant, `-ss` stays, and any
other `-s` goes, unless nothing would be left. -/
def singularChars (word : List Char) : List Char :=
  match stripSuffix? ['i', 'e', 's'] word with
  | some (c :: stem) => c :: stem ++ ['y']
  | _ =>
    if sibilantPlurals.any (·.isSuffixOf word) then word.take (word.length - 2)
    else if ['s', 's'].isSuffixOf word then word
    else
      match stripSuffix? ['s'] word with
      | some (c :: stem) => c :: stem
      | _ => word

/-- The singular of a table's name. -/
def singularize (word : String) : String :=
  String.ofList (singularChars word.toList)

end Graft
