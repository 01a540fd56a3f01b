/-
Graft/Number/Shortest.lean

The shortest decimal that reads back as a given number.

The reals that round to a number form an interval around it: half way to each
neighbour, the ends included when the significand is even.  Among the decimal
grids `c * 10 ^ k`, taken from the coarsest to the finest, the first with a
point in that interval is chosen, and on it the point nearest to the number; of
two equally near, the even one.  If a grid has a point in the interval at all,
one of the two grid points around the number is in it, so two points are tried
on each grid.
-/
import Graft.Number.Binary64

namespace Graft.Binary64

/-! ### The interval of a number -/

/-- A closed or open interval of magnitudes, in quarters of a unit. -/
structure Interval where
  lower : Nat
  upper : Nat
  closed : Bool

/-- The magnitudes that round to that of `x`.  Below a power of two the
neighbour is only half as far away. -/
def interval (x : Binary64) : Interval where
  lower := 4 * x.units -
    (if x.significand = 1 <<< 52 ∧ 0 < x.shift then 1 <<< x.shift else 2 <<< x.shift)
  upper := 4 * x.units + 2 <<< x.shift
  closed := x.significand % 2 == 0

/-- Whether `num / den` lies in the interval. -/
def Interval.holds (i : Interval) (num den : Nat) : Bool :=
  if i.closed then i.lower * den ≤ num && num ≤ i.upper * den
  else i.lower * den < num && num < i.upper * den

/-! ### Decimal grids -/

/-- One quarter unit as a fraction of one: how many of them make a one. -/
def quartersOfOne : Nat := 4 <<< 1074

/-- The point of the grid `10 ^ k` in the interval of `x` that is nearest to `x`. -/
def pointOnGrid (x : Binary64) (k : Int) : Option Nat :=
  let num := Nat.pow 10 k.toNat * quartersOfOne
  let den := Nat.pow 10 (-k).toNat
  let target := 4 * x.units * den
  let below := target / num
  let left := target % num
  match x.interval.holds (below * num) den, x.interval.holds ((below + 1) * num) den with
  | true, true =>
    some (if 2 * left < num then below
      else if num < 2 * left then below + 1
      else below + below % 2)
  | true, false => some below
  | false, true => some (below + 1)
  | false, false => none

/-- The first of `count` grids, from `10 ^ k` downward, with a point in the interval. -/
def searchGrids (x : Binary64) : Nat → Int → Option (Nat × Int)
  | 0, _ => none
  | count + 1, k =>
    match pointOnGrid x k with
    | some c => some (c, k)
    | none => searchGrids x count (k - 1)

/-- A grid so coarse that at most the point one on it can be in the interval. -/
def coarsestGrid (x : Binary64) : Int :=
  ((x.units.log2 : Int) - 1074) * 1233 / 4096 + 2

/-- The digits and the power of ten of the shortest decimal for `x`.  Zero has the digit zero;
seventeen digits always suffice, so twenty grids do. -/
def shortest (x : Binary64) : Nat × Int :=
  if x.units = 0 then (0, 0) else (searchGrids x 20 (coarsestGrid x)).getD (0, 0)

/-! ### The text of a number -/

/-- The places of the decimal point, counted from the first digit, for which a number is
written without an exponent. -/
def isPositional (point : Int) : Bool :=
  -5 < point && point ≤ 16

/-- A positive decimal `0.d₁d₂… * 10 ^ point` in text.  Positional text has at least one digit on
either side of the point; an exponent always has a sign. -/
def layout (digits : List Char) (point : Int) : List Char :=
  let count : Int := digits.length
  if isPositional point then
    if count ≤ point then digits ++ List.replicate (point - count).toNat '0' ++ ['.', '0']
    else if 0 < point then digits.take point.toNat ++ '.' :: digits.drop point.toNat
    else '0' :: '.' :: (List.replicate (-point).toNat '0' ++ digits)
  else
    let mantissa := match digits with
      | d :: e :: rest => d :: '.' :: e :: rest
      | short => short
    let exponent := point - 1
    mantissa ++ 'e' :: (if exponent < 0 then '-' else '+') :: Nat.toDigits 10 exponent.natAbs

/-- The text of a number: its shortest decimal. -/
def text (x : Binary64) : String :=
  let (c, k) := x.shortest
  let digits := Nat.toDigits 10 c
  let body := if c = 0 then ['0', '.', '0'] else layout digits (digits.length + k)
  String.ofList (if x.negative then '-' :: body else body)

end Graft.Binary64
