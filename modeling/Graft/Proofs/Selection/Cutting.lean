/-
Graft/Proofs/Selection/Cutting.lean

What becomes of an expression that is cut at its commas, in counts.

An expression is cut just if its parentheses match, and then at each comma that
has no parenthesis open before it.  If they do not match, the error names the
parenthesis at fault: the closing one if some start of the expression closes
more than it opens (`Overcloses`), and else the opening one.

A piece was said to be a text that a scan passes to its end.  In counts it is a
text whose parentheses match and whose commas all have one open before them
(`isPiece_iff`).
-/
import Graft.Proofs.Selection.Pieces

namespace Graft.Selection

/-! ### Commas and depths -/

/-- Each comma of the text stands inside parentheses: more are opened before it than closed. -/
def CommasInside (s : List Char) : Prop :=
  ∀ before after, s = before ++ ',' :: after → before.count ')' < before.count '('

/-- Some start of the text closes more than it opens. -/
def Overcloses (s : List Char) : Prop :=
  ∃ p, p <+: s ∧ p.count '(' < p.count ')'

/-- A character changes the depth by what it opens and closes. -/
theorem depthStep_add_count {depth : Nat} {c : Char} (hclose : ¬(c = ')' ∧ depth = 0))
    (s : List Char) :
    depthStep depth c + s.count '(' + (c :: s).count ')' =
      depth + (c :: s).count '(' + s.count ')' := by
  rw [depthStep]
  by_cases hopen : c = '('
  · subst hopen
    simp only [if_true, List.count_cons_self, List.count_cons_of_ne (show '(' ≠ ')' by decide)]
    omega
  by_cases hclosing : c = ')'
  · subst hclosing
    have hdepth : depth ≠ 0 := by simpa using hclose
    simp only [if_neg hopen, if_true, List.count_cons_self, List.count_cons_of_ne hopen]
    omega
  · simp only [if_neg hopen, if_neg hclosing, List.count_cons_of_ne hopen,
      List.count_cons_of_ne hclosing]

/-- A scan passes a text just if it closes only what is open and has no comma where nothing is. -/
theorem uncut?_eq_some_iff {depth after : Nat} {s : List Char} :
    uncut? depth s = some after ↔
      depthAfter? depth s = some after ∧
        ∀ l r, s = l ++ ',' :: r → l.count ')' < depth + l.count '(' := by
  -- the commas of a text are the first character, if it is one, and those after it
  induction s generalizing depth with
  | nil => simp [uncut?, depthAfter?]
  | cons c s ih =>
    rw [uncut?_cons_eq_some_iff, depthAfter?_cons_eq_some_iff, ih]
    constructor
    · rintro ⟨hcomma, hclose, hdepth, hcommas⟩
      refine ⟨⟨hclose, hdepth⟩, fun l r hs => ?_⟩
      cases l with
      | nil =>
        obtain ⟨rfl, -⟩ := List.cons.inj hs
        simpa [Nat.pos_iff_ne_zero] using hcomma
      | cons d l =>
        obtain ⟨rfl, hrest⟩ := List.cons.inj hs
        have hbefore := hcommas l r hrest
        have hstep := depthStep_add_count hclose l
        omega
    · rintro ⟨⟨hclose, hdepth⟩, hcommas⟩
      refine ⟨?_, hclose, hdepth, fun l r hs => ?_⟩
      · rintro ⟨rfl, rfl⟩
        have hfirst := hcommas [] s rfl
        simp at hfirst
      · have hbefore := hcommas (c :: l) r (congrArg (c :: ·) hs)
        have hstep := depthStep_add_count hclose l
        omega

/-- One piece of an expression, in counts. -/
theorem isPiece_iff {s : List Char} : IsPiece s ↔ Matched s ∧ CommasInside s := by
  rw [IsPiece, uncut?_eq_some_iff, ← balanced_iff_matched]
  simp only [Nat.zero_add]
  rfl

/-! ### Faults -/

theorem depthAfter?_eq_none_iff {depth : Nat} {s : List Char} :
    depthAfter? depth s = none ↔ ∃ p, p <+: s ∧ depth + p.count '(' < p.count ')' := by
  constructor
  · intro h
    by_contra hstarts
    simp only [not_exists, not_and, Nat.not_lt] at hstarts
    have hall := hstarts s List.prefix_rfl
    have hsome : depthAfter? depth s = some (depth + s.count '(' - s.count ')') :=
      depthAfter?_eq_some_iff.2 ⟨hstarts, by omega⟩
    rw [h] at hsome
    cases hsome
  · rintro ⟨p, hp, hover⟩
    cases hafter : depthAfter? depth s with
    | none => rfl
    | some after =>
      have hstart := (depthAfter?_eq_some_iff.1 hafter).1 p hp
      omega

theorem depthAfter?_eq_none_iff_overcloses {s : List Char} :
    depthAfter? 0 s = none ↔ Overcloses s := by
  simp only [depthAfter?_eq_none_iff, Nat.zero_add]
  rfl

instance (s : List Char) : Decidable (Overcloses s) :=
  decidable_of_iff _ depthAfter?_eq_none_iff_overcloses

/-- Which parenthesis is at fault in an expression whose parentheses do not match. -/
def fault (expr : List Char) : Violation :=
  if Overcloses expr then .unopenedParenthesis (String.ofList expr)
  else .unclosedParenthesis (String.ofList expr)

theorem text_fault (expr : List Char) :
    (fault expr).text = "Unbalanced '" ++ (if Overcloses expr then ")" else "(") ++
      "' in select expression '" ++ String.ofList expr ++ "'" := by
  rw [fault]
  split <;> rfl

theorem Overcloses.not_matched {s : List Char} (h : Overcloses s) : ¬ Matched s := by
  intro hmatched
  obtain ⟨p, hp, hover⟩ := h
  have hstart := hmatched.starts p hp
  omega

theorem splitTopLevel_eq_error_iff {expr : List Char} {v : Violation} :
    splitTopLevel expr = .error v ↔ ¬ Matched expr ∧ v = fault expr := by
  rw [fault, splitTopLevel]
  cases hdepth : depthAfter? 0 expr with
  | none =>
    have hover := depthAfter?_eq_none_iff_overcloses.1 hdepth
    simp only [hover, hover.not_matched, not_false_eq_true, true_and, if_true, Except.error.injEq]
    exact eq_comm
  | some depth =>
    have hover : ¬ Overcloses expr := by
      rw [← depthAfter?_eq_none_iff_overcloses, hdepth]
      exact Option.some_ne_none depth
    rw [← balanced_iff_matched, Balanced, hdepth, if_neg hover]
    cases depth <;> simp [eq_comm]

/-! ### Outcomes -/

/-- **Cutting at the commas outside parentheses.**  An expression is cut just if its parentheses
match; into texts that are the expression again when they are joined by commas, each with matching
parentheses and with no comma outside of them, and there is one such list only.  Otherwise the error
tells which parenthesis is at fault: a closing one if some start of the expression closes more than
it opens, an opening one if none does. -/
theorem splitTopLevel_outcome (expr : List Char) :
    ((∃ ps, splitTopLevel expr = .ok ps) ↔ Matched expr) ∧
      (∀ ps, splitTopLevel expr = .ok ps ↔
        ps ≠ [] ∧ [','].intercalate ps = expr ∧ ∀ p ∈ ps, Matched p ∧ CommasInside p) ∧
      (∀ v, splitTopLevel expr = .error v ↔ ¬ Matched expr ∧ v = fault expr) ∧
      (fault expr).text = "Unbalanced '" ++ (if Overcloses expr then ")" else "(") ++
        "' in select expression '" ++ String.ofList expr ++ "'" := by
  refine ⟨?_, fun ps => ?_, fun v => splitTopLevel_eq_error_iff, text_fault expr⟩
  · simp only [splitTopLevel_eq_ok_iff, exists_and_left, exists_eq, and_true, balanced_iff_matched]
  · rw [splitTopLevel_eq_ok_iff_joined]
    simp only [isPiece_iff]
    exact and_congr_right fun _ => and_comm

end Graft.Selection
