/-
Graft/Text/Cut.lean

Cutting a text at the first occurrence of a character.

`alias:column`, `table!hint` and `table(columns)` are all read this way.  A
cut is unique: the left part is the longest one free of the separator
(`cut_eq_some_iff`), and there is none exactly when the separator does not
occur (`cut_eq_none_iff`).
-/
namespace Graft.Text

/-- The parts before and after the first `sep`. -/
def cut (sep : Char) : List Char → Option (List Char × List Char)
  | [] => none
  | c :: rest =>
    if c = sep then some ([], rest)
    else (cut sep rest).map fun (l, r) => (c :: l, r)

theorem cut_eq_some_iff {sep : Char} {s l r : List Char} :
    cut sep s = some (l, r) ↔ s = l ++ sep :: r ∧ sep ∉ l := by
  induction s generalizing l with
  | nil => simp [cut]
  | cons c rest ih =>
    -- The cut is at the first separator, so there is none in the part before it.
    by_cases hc : c = sep
    · subst hc
      cases l with
      | nil => simp [cut, eq_comm]
      | cons d t =>
        simp only [cut, if_true, Option.some.injEq, List.cons_append]
        grind
    · cases l with
      | nil => simp [cut, hc]
      | cons d t =>
        simp only [cut, hc, if_false, Option.map_eq_some_iff, Prod.mk.injEq, List.cons.injEq,
          Prod.exists, List.cons_append, List.mem_cons, not_or]
        constructor
        · rintro ⟨l', r', h, ⟨rfl, rfl⟩, rfl⟩
          obtain ⟨h₁, h₂⟩ := ih.1 h
          exact ⟨⟨rfl, h₁⟩, Ne.symm hc, h₂⟩
        · rintro ⟨⟨rfl, h₁⟩, _, h₂⟩
          exact ⟨t, r, ih.2 ⟨h₁, h₂⟩, ⟨rfl, rfl⟩, rfl⟩

theorem cut_eq_none_iff {sep : Char} {s : List Char} : cut sep s = none ↔ sep ∉ s := by
  induction s with
  | nil => simp [cut]
  | cons c rest ih =>
    by_cases hc : c = sep
    · simp [cut, hc]
    · simp [cut, hc, ih, Ne.symm hc]

end Graft.Text
