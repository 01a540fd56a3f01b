/-
Graft/Selection/Pieces.lean

Cutting a select expression at the commas outside parentheses.

`depthAfter?` follows the parentheses and fails where one is closed that was
never opened; an expression is balanced when it ends at depth zero.  Only a
balanced expression is cut, and then nothing is lost: the pieces joined by
commas are the expression again (`intercalate_pieces`).
-/
import Graft.Error

namespace Graft.Selection

/-! ### Parentheses -/

/-- The number of open parentheses after a text, or none if one is closed that is not open. -/
def depthAfter? (depth : Nat) : List Char → Option Nat
  | [] => some depth
  | c :: rest =>
    if c = '(' then depthAfter? (depth + 1) rest
    else if c = ')' then if depth = 0 then none else depthAfter? (depth - 1) rest
    else depthAfter? depth rest

/-- A text whose parentheses match. -/
def Balanced (s : List Char) : Prop :=
  depthAfter? 0 s = some 0

instance (s : List Char) : Decidable (Balanced s) :=
  inferInstanceAs (Decidable (_ = _))

/-! ### Pieces -/

/-- The depth after one more character, where nothing is closed that is not open. -/
def depthStep (depth : Nat) (c : Char) : Nat :=
  if c = '(' then depth + 1 else if c = ')' then depth - 1 else depth

/-- The pieces between the commas at depth zero of a text that starts at some depth. -/
def pieces (depth : Nat) : List Char → List (List Char)
  | [] => [[]]
  | c :: rest =>
    if c = ',' ∧ depth = 0 then [] :: pieces 0 rest
    else (pieces (depthStep depth c) rest).modifyHead (c :: ·)

theorem pieces_ne_nil (depth : Nat) (s : List Char) : pieces depth s ≠ [] := by
  induction s generalizing depth with
  | nil => simp [pieces]
  | cons c rest ih =>
    rw [pieces]
    split
    · simp
    · have := ih (depthStep depth c)
      cases h : pieces (depthStep depth c) rest <;> simp_all

/-- Nothing is lost in cutting. -/
theorem intercalate_pieces (depth : Nat) (s : List Char) :
    [','].intercalate (pieces depth s) = s := by
  induction s generalizing depth with
  | nil => simp [pieces, List.intercalate]
  | cons c rest ih =>
    rw [pieces]
    -- A comma at depth zero is put back between pieces; other characters are in the first piece.
    split
    · next h =>
      have hne := pieces_ne_nil 0 rest
      have := ih 0
      cases hp : pieces 0 rest with
      | nil => exact absurd hp hne
      | cons p ps =>
        rw [hp] at this
        rw [List.intercalate_cons_cons, this, h.1]
        rfl
    · have hne := pieces_ne_nil (depthStep depth c) rest
      have := ih (depthStep depth c)
      cases hp : pieces (depthStep depth c) rest with
      | nil => exact absurd hp hne
      | cons p ps =>
        rw [hp] at this
        cases ps with
        | nil => simpa [List.intercalate] using this
        | cons q qs =>
          rw [List.intercalate_cons_cons] at this
          rw [List.modifyHead_cons, List.intercalate_cons_cons, ← this]
          simp

/-- The pieces are together no longer than the text. -/
theorem length_flatten_pieces_le (depth : Nat) (s : List Char) :
    (pieces depth s).flatten.length ≤ s.length := by
  induction s generalizing depth with
  | nil => simp [pieces]
  | cons c rest ih =>
    rw [pieces]
    split
    · have := ih 0
      simp only [List.flatten_cons, List.nil_append, List.length_cons]
      omega
    · have := ih (depthStep depth c)
      cases hp : pieces (depthStep depth c) rest with
      | nil => simp
      | cons p ps =>
        rw [hp] at this
        simp only [List.modifyHead_cons, List.flatten_cons, List.length_append,
          List.length_cons] at this ⊢
        omega

/-- The pieces of a balanced expression, or which parenthesis is at fault. -/
def splitTopLevel (expr : List Char) : Except Violation (List (List Char)) :=
  match depthAfter? 0 expr with
  | none => .error (.unopenedParenthesis (String.ofList expr))
  | some 0 => .ok (pieces 0 expr)
  | some _ => .error (.unclosedParenthesis (String.ofList expr))

theorem splitTopLevel_eq_ok_iff {expr : List Char} {ps : List (List Char)} :
    splitTopLevel expr = .ok ps ↔ Balanced expr ∧ ps = pieces 0 expr := by
  unfold splitTopLevel Balanced
  split
  · next h => simp [h]
  · next h => simp [h, eq_comm]
  · next h => simp_all

end Graft.Selection
