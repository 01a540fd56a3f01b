/-
Graft/Number.lean

Numbers of a value: integers of 64 bits, signed or unsigned, and finite
binary64 numbers.

The two kinds stay apart: the integer one and the number `1.0` are different
values with different texts.
-/
import Graft.Number.Shortest

namespace Graft

/-- The integers that a value can hold: signed or unsigned ones of 64 bits. -/
def FitsWord (n : Int) : Prop :=
  Int64.minValue.toInt ≤ n ∧ n < UInt64.size

instance (n : Int) : Decidable (FitsWord n) :=
  inferInstanceAs (Decidable (_ ∧ _))

theorem FitsWord.natAbs_lt {n : Int} (h : FitsWord n) : n.natAbs < 1 <<< 64 := by
  rw [FitsWord, Int64.toInt_minValue, UInt64.size] at h
  omega

/-- A number of a value. -/
inductive Number where
  | int (n : Int) (fits : FitsWord n)
  | float (x : Binary64)
  deriving DecidableEq

namespace Number

/-- Integers in decimal, binary64 numbers by their shortest decimal. -/
def text : Number → String
  | .int n _ => toString n
  | .float x => x.text

/-- The number as binary64, rounded if it is an integer too long for it. -/
def toBinary64 : Number → Binary64
  | .int n fits => .ofInt n fits.natAbs_lt
  | .float x => x

end Number

end Graft
