/-
Graft/Proofs/Number/Rounding.lean

Rounding integers to binary64.

An integer of 64 bits becomes the number nearest to it, and of two that are
equally near the one with an even significand: `isNearest_ofInt`.

Magnitudes are compared by their ordinals.  Those of one binade are a grid: at
the ordinal `e * 2 ^ 52 + b` stands `b` times `2 ^ e` units (`unitsAt_grid`), also
at the end, where the next binade starts.  So magnitudes grow with their ordinals
(`unitsAt_strictMono`), and between two neighbours on the grid there is none.
Rounding takes one of the two neighbours of the integer, the nearer one.
-/
import Graft.Number.Binary64
import Mathlib.Data.Nat.Dist
import Mathlib.Order.Monotone.Basic
import Mathlib.Tactic.Ring

namespace Graft.Binary64

/-! ### Magnitudes and their ordinals -/

/-- The magnitude at an ordinal, in units. -/
def unitsAt (ordinal : Nat) : Nat :=
  (ordinal - (ordinal >>> 52 - 1) <<< 52) <<< (ordinal >>> 52 - 1)

theorem units_eq_unitsAt (x : Binary64) : x.units = unitsAt x.ordinal := rfl

/-- A place on the grid of steps of `2 ^ e` units: `e` is the least possible, or there are enough
steps for a significand with its leading one. -/
structure OnGrid (e b : Nat) : Prop where
  low : e = 0 ∨ 2 ^ 52 ≤ b
  high : b ≤ 2 ^ 53

theorem unitsAt_grid {e b : Nat} (h : OnGrid e b) : unitsAt (e * 2 ^ 52 + b) = b * 2 ^ e := by
  obtain ⟨hlow, hhigh⟩ := h
  simp only [unitsAt, Nat.shiftRight_eq_div_pow, Nat.shiftLeft_eq]
  obtain hlt | hlt | rfl : b < 2 ^ 52 ∨ 2 ^ 52 ≤ b ∧ b < 2 ^ 53 ∨ b = 2 ^ 53 := by omega
  · -- below the least normal magnitude there is no leading one
    have he : e = 0 := by omega
    have hshift : (e * 2 ^ 52 + b) / 2 ^ 52 - 1 = 0 := by omega
    rw [hshift, he]
    omega
  · have hshift : (e * 2 ^ 52 + b) / 2 ^ 52 - 1 = e := by omega
    rw [hshift, Nat.add_sub_cancel_left]
  · -- the first magnitude of the next binade
    have hshift : (e * 2 ^ 52 + 2 ^ 53) / 2 ^ 52 - 1 = e + 1 := by omega
    have hsignificand : e * 2 ^ 52 + 2 ^ 53 - (e + 1) * 2 ^ 52 = 2 ^ 52 := by omega
    rw [hshift, hsignificand]
    ring

/-- Every ordinal has a place on a grid, with another one after it. -/
theorem exists_onGrid (ordinal : Nat) :
    ∃ e b, ordinal = e * 2 ^ 52 + b ∧ OnGrid e b ∧ OnGrid e (b + 1) := by
  refine ⟨ordinal / 2 ^ 52 - 1, ordinal - (ordinal / 2 ^ 52 - 1) * 2 ^ 52, ?_, ⟨?_, ?_⟩, ⟨?_, ?_⟩⟩
  all_goals omega

/-- The greater the ordinal, the greater the magnitude. -/
theorem unitsAt_strictMono : StrictMono unitsAt := by
  refine strictMono_nat_of_lt_succ fun ordinal => ?_
  obtain ⟨e, b, rfl, hb, hnext⟩ := exists_onGrid ordinal
  rw [unitsAt_grid hb, Nat.add_assoc, unitsAt_grid hnext]
  exact Nat.mul_lt_mul_of_pos_right (Nat.lt_succ_self b) (Nat.two_pow_pos e)

theorem significand_mod_two (x : Binary64) : x.significand % 2 = x.ordinal % 2 := by
  unfold significand shift
  generalize x.ordinal = ordinal
  rw [Nat.shiftRight_eq_div_pow, Nat.shiftLeft_eq]
  omega

/-! ### The two neighbours -/

/-- A magnitude on a grid and the next one are the neighbours of everything between them. -/
theorem unitsAt_outside {e b : Nat} (hb : OnGrid e b) (hnext : OnGrid e (b + 1)) (ordinal : Nat) :
    unitsAt ordinal ≤ b * 2 ^ e ∨ (b + 1) * 2 ^ e ≤ unitsAt ordinal := by
  rcases Nat.lt_or_ge (e * 2 ^ 52 + b) ordinal with hlt | hle
  · have hmono := unitsAt_strictMono.monotone (Nat.succ_le_of_lt hlt)
    rw [Nat.succ_eq_add_one, Nat.add_assoc, unitsAt_grid hnext] at hmono
    exact .inr hmono
  · have hmono := unitsAt_strictMono.monotone hle
    rw [unitsAt_grid hb] at hmono
    exact .inl hmono

/-- The neighbours of an integer, and how rounding chooses between them. -/
theorem exists_neighbours (n : Nat) :
    ∃ e b left, n <<< 1074 = b * 2 ^ e + left ∧ left < 2 ^ e ∧ OnGrid e b ∧ OnGrid e (b + 1) ∧
      nearestOrdinal n 1 = e * 2 ^ 52 +
        if 2 * left < 2 ^ e then b else if 2 ^ e < 2 * left then b + 1 else b + b % 2 := by
  simp only [nearestOrdinal, Nat.div_one, Nat.shiftLeft_eq _ 52]
  simp only [Nat.shiftLeft_eq 1, Nat.one_mul]
  generalize n <<< 1074 = scaled
  -- Either the exponent is the least one, or the quotient has all of its 53 bits.
  have hlow : scaled.log2 - 52 = 0 ∨ 2 ^ 52 * 2 ^ (scaled.log2 - 52) ≤ scaled := by
    rcases Nat.eq_zero_or_pos (scaled.log2 - 52) with hzero | hpos
    · exact .inl hzero
    · have hlog : 52 + (scaled.log2 - 52) = scaled.log2 := by omega
      have hne : scaled ≠ 0 := by
        rintro rfl
        simp at hpos
      rw [← Nat.pow_add, hlog]
      exact .inr (Nat.log2_self_le hne)
  have hhigh : scaled < 2 ^ 53 * 2 ^ (scaled.log2 - 52) := by
    rw [← Nat.pow_add]
    exact Nat.lt_of_lt_of_le Nat.lt_log2_self (Nat.pow_le_pow_right (by decide) (by omega))
  generalize scaled.log2 - 52 = e at hlow hhigh ⊢
  have hpos : 0 < 2 ^ e := Nat.two_pow_pos e
  have hb : e = 0 ∨ 2 ^ 52 ≤ scaled / 2 ^ e := hlow.imp_right (Nat.le_div_iff_mul_le hpos).2
  have hb' : scaled / 2 ^ e < 2 ^ 53 := (Nat.div_lt_iff_lt_mul hpos).2 hhigh
  refine ⟨e, scaled / 2 ^ e, scaled % 2 ^ e, ?_, Nat.mod_lt _ hpos, ⟨hb, by omega⟩,
    ⟨hb.imp_right fun h => by omega, by omega⟩, rfl⟩
  rw [Nat.mul_comm]
  exact (Nat.div_add_mod scaled (2 ^ e)).symm

/-- No magnitude is nearer to an integer than that at the ordinal to which it is rounded.  If one is
as near, then this ordinal is even. -/
theorem dist_nearestOrdinal (n ordinal : Nat) :
    Nat.dist (unitsAt (nearestOrdinal n 1)) (n <<< 1074) ≤
        Nat.dist (unitsAt ordinal) (n <<< 1074) ∧
      (Nat.dist (unitsAt ordinal) (n <<< 1074) =
          Nat.dist (unitsAt (nearestOrdinal n 1)) (n <<< 1074) →
        unitsAt ordinal = unitsAt (nearestOrdinal n 1) ∨ nearestOrdinal n 1 % 2 = 0) := by
  obtain ⟨e, b, left, hn, hleft, hb, hnext, hnearest⟩ := exists_neighbours n
  have houtside := unitsAt_outside hb hnext ordinal
  have hsucc : (b + 1) * 2 ^ e = b * 2 ^ e + 2 ^ e := by ring
  have hbelow := unitsAt_grid hb
  have habove := unitsAt_grid hnext
  rw [hn, hnearest]
  rw [hsucc] at houtside habove
  clear hn hnearest hsucc
  simp only [Nat.dist]
  split
  · rw [hbelow]
    omega
  split
  · rw [habove]
    omega
  -- half way between them, the even one is taken
  obtain hparity | hparity : b % 2 = 0 ∨ b % 2 = 1 := by omega
  · rw [hparity, Nat.add_zero, hbelow]
    omega
  · rw [hparity, habove]
    omega

/-! ### Rounding an integer -/

/-- How many units make one. -/
def unitsOfOne : Nat := 1 <<< 1074

/-- The number in units, with its sign. -/
def signedUnits (x : Binary64) : Int :=
  if x.negative then -x.units else x.units

/-- How far the number is from an integer, in units. -/
def distanceFrom (n : Int) (x : Binary64) : Nat :=
  (x.signedUnits - n * unitsOfOne).natAbs

/-- The number is nearest to an integer: none is nearer, and its significand is even if another one
is as near. -/
structure IsNearest (n : Int) (x : Binary64) : Prop where
  nearest : ∀ y : Binary64, x.distanceFrom n ≤ y.distanceFrom n
  tie : ∀ y : Binary64, y.distanceFrom n = x.distanceFrom n →
    y.signedUnits = x.signedUnits ∨ x.significand % 2 = 0

/-- An integer in units, with its sign. -/
theorem mul_unitsOfOne (n : Int) :
    n * unitsOfOne =
      if n < 0 then -((n.natAbs <<< 1074 : Nat) : Int) else ((n.natAbs <<< 1074 : Nat) : Int) := by
  have hone : n.natAbs <<< 1074 = n.natAbs * unitsOfOne := by
    simp only [unitsOfOne, Nat.shiftLeft_eq, Nat.one_mul]
  rw [hone]
  generalize unitsOfOne = unit
  split
  · next hneg =>
    rw [Int.natCast_mul, Int.ofNat_natAbs_of_nonpos (by omega), Int.neg_mul, Int.neg_neg]
  · next hpos => rw [Int.natCast_mul, Int.natAbs_of_nonneg (by omega)]

/-- From a number of the same sign, only the magnitudes count. -/
theorem distanceFrom_of_sign {n : Int} {x : Binary64} (h : x.negative = decide (n < 0)) :
    x.distanceFrom n = Nat.dist (unitsAt x.ordinal) (n.natAbs <<< 1074) := by
  rw [distanceFrom, signedUnits, mul_unitsOfOne, units_eq_unitsAt, h, Nat.dist]
  simp only [decide_eq_true_eq]
  generalize n.natAbs <<< 1074 = magnitude
  split <;> omega

/-- A number of the other sign is no nearer than zero. -/
theorem distanceFrom_of_other_sign {n : Int} {x : Binary64} (h : x.negative ≠ decide (n < 0)) :
    x.distanceFrom n = unitsAt x.ordinal + n.natAbs <<< 1074 := by
  rw [distanceFrom, signedUnits, mul_unitsOfOne, units_eq_unitsAt, Bool.eq_not.2 h]
  generalize n.natAbs <<< 1074 = magnitude
  by_cases hneg : n < 0
  · simp only [hneg, decide_true, Bool.not_true, Bool.false_eq_true, if_false, if_true]
    omega
  · simp only [hneg, decide_false, Bool.not_false, if_false, if_true]
    omega

/-- An integer of 64 bits becomes the number that is nearest to it. -/
theorem isNearest_ofInt (n : Int) (h : n.natAbs < 1 <<< 64) : IsNearest n (ofInt n h) := by
  have hx : (ofInt n h).distanceFrom n =
      Nat.dist (unitsAt (nearestOrdinal n.natAbs 1)) (n.natAbs <<< 1074) := distanceFrom_of_sign rfl
  -- zero is no nearer either, and a number of the other sign is no nearer than zero
  have hzero := dist_nearestOrdinal n.natAbs 0
  rw [show unitsAt 0 = 0 from rfl, Nat.dist_zero_left] at hzero
  constructor
  · intro y
    rw [hx]
    by_cases hsign : y.negative = decide (n < 0)
    · rw [distanceFrom_of_sign hsign]
      exact (dist_nearestOrdinal n.natAbs y.ordinal).1
    · rw [distanceFrom_of_other_sign hsign]
      exact Nat.le_trans hzero.1 (Nat.le_add_left _ _)
  · intro y hy
    rw [hx] at hy
    rw [significand_mod_two]
    by_cases hsign : y.negative = decide (n < 0)
    · rw [distanceFrom_of_sign hsign] at hy
      refine ((dist_nearestOrdinal n.natAbs y.ordinal).2 hy).imp_left fun hunits => ?_
      rw [signedUnits, signedUnits, hsign, units_eq_unitsAt, hunits]
      rfl
    · rw [distanceFrom_of_other_sign hsign] at hy
      have hnone : unitsAt y.ordinal = 0 := by omega
      refine (hzero.2 (by omega)).imp_left fun hunits => ?_
      rw [signedUnits, signedUnits, units_eq_unitsAt, units_eq_unitsAt, hnone]
      rw [show (ofInt n h).ordinal = nearestOrdinal n.natAbs 1 from rfl, ← hunits]
      simp

end Graft.Binary64
