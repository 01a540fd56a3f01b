/-
Graft/Number/Binary64.lean

Finite numbers of the IEEE 754 format binary64.

A number is a sign and an ordinal: its place among the finite magnitudes of
the format, counted from zero.  The ordinals below `2047 * 2 ^ 52` are exactly
the finite ones, so infinities and not-a-number have no place in the type, and
equality of numbers is equality of their bits (negative zero is not zero).

Magnitudes are measured in units of `2 ^ -1074`, the least positive one, which
makes every magnitude a natural number and every comparison exact.

Rounding (`ofRatio?`) takes the nearest magnitude, and of two equally near the
one with an even significand.  It has no result when the magnitude is too
large for the format; an integer of 64 bits never is (`ofInt`).
-/
namespace Graft

/-- A finite binary64 number. -/
structure Binary64 where
  negative : Bool
  /-- The place among the finite magnitudes, from zero upward. -/
  ordinal : Nat
  finite : ordinal < 2047 <<< 52
  deriving DecidableEq

namespace Binary64

/-! ### Significand and magnitude -/

/-- The power of two that the significand is scaled by, in units. -/
def shift (x : Binary64) : Nat :=
  x.ordinal >>> 52 - 1

/-- The significand, with its leading one made explicit. -/
def significand (x : Binary64) : Nat :=
  x.ordinal - x.shift <<< 52

/-- The magnitude in units of `2 ^ -1074`. -/
def units (x : Binary64) : Nat :=
  x.significand <<< x.shift

/-! ### Rounding -/

/-- The ordinal nearest to `num / den`, in a format without a largest magnitude. -/
def nearestOrdinal (num den : Nat) : Nat :=
  let scaled := num <<< 1074
  let shift := (scaled / den).log2 - 52
  let step := den <<< shift
  let below := scaled / step
  let left := scaled % step
  shift <<< 52 +
    if 2 * left < step then below
    else if step < 2 * left then below + 1
    else below + below % 2

/-- The number nearest to `num / den`, if that is not too large. -/
def ofRatio? (negative : Bool) (num den : Nat) : Option Binary64 :=
  if h : nearestOrdinal num den < 2047 <<< 52 then some ⟨negative, _, h⟩ else none

theorem log2_shiftLeft_lt {n a b : Nat} (h : n < 1 <<< a) : (n <<< b).log2 < a + b + 1 := by
  rw [Nat.shiftLeft_eq, Nat.one_mul] at h
  rw [Nat.shiftLeft_eq]
  by_cases h0 : n * 2 ^ b = 0
  · rw [h0, Nat.log2_zero]
    omega
  · have : n * 2 ^ b < 2 ^ (a + b) := by
      rw [Nat.pow_add]
      exact Nat.mul_lt_mul_of_pos_right h (Nat.two_pow_pos b)
    have := (Nat.log2_lt h0).2 this
    omega

/-- Of a number no more than its first 53 bits are kept. -/
theorem div_shiftLeft_log2_lt (scaled : Nat) : scaled / 1 <<< (scaled.log2 - 52) < 1 <<< 53 := by
  simp only [Nat.shiftLeft_eq, Nat.one_mul]
  rw [Nat.div_lt_iff_lt_mul (Nat.two_pow_pos _), ← Nat.pow_add]
  calc scaled < 2 ^ (scaled.log2 + 1) := Nat.lt_log2_self
    _ ≤ 2 ^ (53 + (scaled.log2 - 52)) := Nat.pow_le_pow_right (by decide) (by omega)

theorem nearestOrdinal_lt {n : Nat} (h : n < 1 <<< 64) : nearestOrdinal n 1 < 2047 <<< 52 := by
  have hlog : (n <<< 1074).log2 < 64 + 1074 + 1 := log2_shiftLeft_lt (b := 1074) h
  simp only [nearestOrdinal, Nat.div_one]
  -- From here on the scaled number is a variable: as a power it would be evaluated.
  generalize n <<< 1074 = scaled at hlog ⊢
  have hbelow := div_shiftLeft_log2_lt scaled
  have hshift : scaled.log2 - 52 ≤ 1086 := by omega
  generalize scaled.log2 - 52 = s at *
  generalize scaled / 1 <<< s = b at *
  have hb : b % 2 < 2 := Nat.mod_lt _ (by decide)
  split
  · omega
  · split <;> omega

/-- The number nearest to an integer of at most 64 bits. -/
def ofInt (n : Int) (h : n.natAbs < 1 <<< 64) : Binary64 :=
  ⟨n < 0, nearestOrdinal n.natAbs 1, nearestOrdinal_lt h⟩

/-! ### Decimals -/

/-- Beyond this power of ten a decimal is out of the format's range, on either side. -/
def decimalReach : Nat := 400

/-- The number nearest to `digits * 10 ^ exponent`, if that is not too large. -/
def ofDecimal? (negative : Bool) (digits : Nat) (exponent : Int) : Option Binary64 :=
  if digits = 0 then ofRatio? negative 0 1
  else if exponent > decimalReach then none
  else if exponent + (Nat.toDigits 10 digits).length < -decimalReach then ofRatio? negative 0 1
  else if exponent ≥ 0 then ofRatio? negative (digits * Nat.pow 10 exponent.toNat) 1
  else ofRatio? negative digits (Nat.pow 10 (-exponent).toNat)

end Binary64

end Graft
