/-
Graft/Proofs/Text/Quotes.lean

What stands outside double quotes.

A double quote opens a region of a text or closes it.  `outside?` reads off
what stands outside of all regions, and fails where one stays open; that is so
exactly where the number of double quotes is odd (`count_quote_of_outside?`,
`exists_outside?`).  So a character that is nowhere outside stands after an odd
number of double quotes (`count_quote_odd`): a text cannot be cut there without
leaving a region open.
-/
namespace Graft

/-- What stands outside double quotes in a text, these left out; none if one stays open.  `inside`
tells whether the text starts between double quotes. -/
def outside? (inside : Bool) : List Char → Option (List Char)
  | [] => if inside then none else some []
  | c :: rest =>
    if c = '"' then outside? (!inside) rest
    else if inside then outside? true rest
    else (outside? false rest).map (c :: ·)

theorem outside?_quote (inside : Bool) (rest : List Char) :
    outside? inside ('"' :: rest) = outside? (!inside) rest := by
  rw [outside?, if_pos rfl]

theorem outside?_inside {c : Char} (h : c ≠ '"') (rest : List Char) :
    outside? true (c :: rest) = outside? true rest := by
  rw [outside?, if_neg h, if_pos rfl]

theorem outside?_cons {c : Char} (h : c ≠ '"') (rest : List Char) :
    outside? false (c :: rest) = (outside? false rest).map (c :: ·) := by
  rw [outside?, if_neg h, if_neg Bool.false_ne_true]

theorem outside?_of_not_mem {s : List Char} (h : '"' ∉ s) : outside? false s = some s := by
  induction s with
  | nil => rfl
  | cons c s ih =>
    obtain ⟨hc, hs⟩ := List.ne_and_not_mem_of_not_mem_cons h
    rw [outside?_cons hc.symm, ih hs]
    rfl

/-- A text at whose end no double quote is open leaves what comes after it as it is. -/
theorem outside?_append {inside : Bool} {s out : List Char} (h : outside? inside s = some out)
    (rest : List Char) : outside? inside (s ++ rest) = (outside? false rest).map (out ++ ·) := by
  -- `s` ends outside quotes, so `rest` is read from there.
  induction s generalizing inside out with
  | nil =>
    cases inside with
    | true => cases h
    | false =>
      cases h
      simp
  | cons c s ih =>
    by_cases hquote : c = '"'
    · subst hquote
      rw [outside?_quote] at h
      rw [List.cons_append, outside?_quote, ih h]
    · cases inside with
      | true =>
        rw [outside?_inside hquote] at h
        rw [List.cons_append, outside?_inside hquote, ih h]
      | false =>
        rw [outside?_cons hquote] at h
        obtain ⟨out, hout, rfl⟩ := Option.map_eq_some_iff.1 h
        rw [List.cons_append, outside?_cons hquote, ih hout, Option.map_map]
        rfl

/-- Where no double quote stays open, their number is even, or odd within double quotes. -/
theorem count_quote_of_outside? {inside : Bool} {s out : List Char}
    (h : outside? inside s = some out) : s.count '"' % 2 = inside.toNat := by
  induction s generalizing inside out with
  | nil =>
    cases inside with
    | true => cases h
    | false => rfl
  | cons c s ih =>
    by_cases hquote : c = '"'
    · subst hquote
      rw [outside?_quote] at h
      have hrest := ih h
      rw [List.count_cons_self]
      -- A quote changes the side and the parity alike.
      cases inside <;> simp only [Bool.not_false, Bool.not_true, Bool.toNat_false,
        Bool.toNat_true] at hrest ⊢ <;> omega
    · rw [List.count_cons_of_ne hquote]
      cases inside with
      | true =>
        rw [outside?_inside hquote] at h
        exact ih h
      | false =>
        rw [outside?_cons hquote] at h
        obtain ⟨out, hout, rfl⟩ := Option.map_eq_some_iff.1 h
        exact ih hout

/-- Where the number of double quotes is even, or odd within double quotes, none stays open. -/
theorem exists_outside? {inside : Bool} {s : List Char} (h : s.count '"' % 2 = inside.toNat) :
    ∃ out, outside? inside s = some out := by
  induction s generalizing inside with
  | nil =>
    cases inside with
    | true => cases h
    | false => exact ⟨[], rfl⟩
  | cons c s ih =>
    by_cases hquote : c = '"'
    · subst hquote
      rw [List.count_cons_self] at h
      have hrest : s.count '"' % 2 = (!inside).toNat := by
        cases inside <;> simp only [Bool.not_false, Bool.not_true, Bool.toNat_false,
          Bool.toNat_true] at h ⊢ <;> omega
      obtain ⟨out, hout⟩ := ih hrest
      exact ⟨out, by rw [outside?_quote, hout]⟩
    · rw [List.count_cons_of_ne hquote] at h
      obtain ⟨out, hout⟩ := ih h
      cases inside with
      | true => exact ⟨out, by rw [outside?_inside hquote, hout]⟩
      | false => exact ⟨c :: out, by rw [outside?_cons hquote, hout]; rfl⟩

/-- A character that does not stand outside double quotes stands after an odd number of them. -/
theorem count_quote_odd {l r out : List Char} {c : Char}
    (h : outside? false (l ++ c :: r) = some out) (hquote : c ≠ '"') (hout : c ∉ out) :
    l.count '"' % 2 = 1 := by
  rcases Nat.mod_two_eq_zero_or_one (l.count '"') with heven | hodd
  · -- else no region is open before it, and it stands outside
    have hsome : ∃ before, outside? false l = some before := exists_outside? heven
    obtain ⟨before, hbefore⟩ := hsome
    rw [outside?_append hbefore, outside?_cons hquote] at h
    obtain ⟨after, hafter, rfl⟩ := Option.map_eq_some_iff.1 h
    obtain ⟨rest, -, rfl⟩ := Option.map_eq_some_iff.1 hafter
    exact absurd (List.mem_append_right _ List.mem_cons_self) hout
  · exact hodd

end Graft
