/-
Graft/Proofs/Text/Words.lean

Texts made of words.

A word leaves no double quote open and has spaces only between double quotes.
A text of words with spaces between them can be cut at those spaces in one way
only: a word that goes on with a space is no word any more
(`not_isWord_append_space`).  So two lists of words make up the same text only
if they are the same list (`IsWord.eq_of_intercalate_eq`), whatever the words
are; a word may well look like several.
-/
import Graft.Proofs.Text.Quotes

namespace Graft

/-- A text that leaves no double quote open and has no space outside of them. -/
def IsWord (s : List Char) : Prop :=
  ∃ out, outside? false s = some out ∧ ' ' ∉ out

theorem isWord_of_all {s : String} (h : (s.toList.all fun c => c != ' ' && c != '"') = true) :
    IsWord s.toList := by
  simp only [List.all_eq_true, Bool.and_eq_true, bne_iff_ne] at h
  exact ⟨s.toList, outside?_of_not_mem fun hquote => (h _ hquote).2 rfl,
    fun hspace => (h _ hspace).1 rfl⟩

/-- Where a word goes on with a space, there are two. -/
theorem not_isWord_append_space {s : List Char} (h : IsWord s) (rest : List Char) :
    ¬ IsWord (s ++ ' ' :: rest) := by
  rintro ⟨all, hall, hspace⟩
  obtain ⟨out, hout, -⟩ := h
  have hquote : (' ' : Char) ≠ '"' := by decide
  rw [outside?_append hout, outside?_cons hquote, Option.map_map] at hall
  obtain ⟨after, -, rfl⟩ := Option.map_eq_some_iff.1 hall
  exact hspace (List.mem_append_right out List.mem_cons_self)

namespace IsWord

variable {v w : List Char}

theorem append (hv : IsWord v) (hw : IsWord w) : IsWord (v ++ w) := by
  obtain ⟨a, ha, hspace⟩ := hv
  obtain ⟨b, hb, hspace'⟩ := hw
  refine ⟨a ++ b, by rw [outside?_append ha, hb, Option.map_some], fun hmem => ?_⟩
  exact (List.mem_append.1 hmem).elim hspace hspace'

/-- The first space outside double quotes ends the first word. -/
theorem append_space_inj (hv : IsWord v) (hw : IsWord w) {s t : List Char}
    (h : v ++ ' ' :: s = w ++ ' ' :: t) : v = w ∧ s = t := by
  obtain ⟨more, rfl, hrest⟩ | ⟨more, rfl, hrest⟩ := List.append_eq_append_iff.1 h
  · cases more with
    | nil => exact ⟨(List.append_nil v).symm, (List.cons.inj hrest).2⟩
    | cons c more =>
      obtain ⟨rfl, -⟩ := List.cons.inj hrest
      exact absurd hw (not_isWord_append_space hv more)
  · cases more with
    | nil => exact ⟨List.append_nil w, (List.cons.inj hrest).2.symm⟩
    | cons c more =>
      obtain ⟨rfl, -⟩ := List.cons.inj hrest
      exact absurd hv (not_isWord_append_space hw more)

/-- **Words are read in one way.**  Lists of words that make up the same text are the same. -/
theorem eq_of_intercalate_eq {vs ws : List (List Char)} (hvs : ∀ v ∈ vs, IsWord v)
    (hws : ∀ w ∈ ws, IsWord w) (hv : vs ≠ []) (hw : ws ≠ [])
    (h : [' '].intercalate vs = [' '].intercalate ws) : vs = ws := by
  have hcons : ∀ (v w : List Char) (rest : List (List Char)),
      [' '].intercalate (v :: w :: rest) = v ++ ' ' :: [' '].intercalate (w :: rest) := by
    intro v w rest
    rw [List.intercalate_cons_cons, List.append_assoc, List.singleton_append]
  induction vs generalizing ws with
  | nil => exact absurd rfl hv
  | cons v vs ih =>
    obtain ⟨w, ws, rfl⟩ := List.exists_cons_of_ne_nil hw
    obtain ⟨hfirst, hlater⟩ := List.forall_mem_cons.1 hvs
    obtain ⟨hfirst', hlater'⟩ := List.forall_mem_cons.1 hws
    -- A word alone is not several words in a row, so both lists end together.
    cases vs with
    | nil =>
      cases ws with
      | nil => simpa using h
      | cons w' ws =>
        rw [List.intercalate_singleton, hcons] at h
        exact absurd (h ▸ hfirst) (not_isWord_append_space hfirst' _)
    | cons v' vs =>
      cases ws with
      | nil =>
        rw [List.intercalate_singleton, hcons] at h
        exact absurd (h ▸ hfirst') (not_isWord_append_space hfirst _)
      | cons w' ws =>
        rw [hcons, hcons] at h
        obtain ⟨rfl, hrest⟩ := hfirst.append_space_inj hfirst' h
        rw [ih hlater hlater' (List.cons_ne_nil _ _) (List.cons_ne_nil _ _) hrest]

end IsWord

end Graft
