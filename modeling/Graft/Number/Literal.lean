/-
Graft/Number/Literal.lean

Decimal literals of numbers.

A literal is a sign, digits without a superfluous leading zero, and optionally
a fraction and an exponent.  It denotes an integer when it has neither and the
integer fits 64 bits; any other literal denotes the nearest binary64 number.
There is no negative zero among the integers, so `-0` denotes the binary64 one.
-/
import Graft.Number
import Graft.Text.Digit

namespace Graft

/-- A decimal literal taken apart: `-12.5e3` is negative, with the digits 125 and the exponent 2. -/
structure Literal where
  negative : Bool
  digits : Nat
  exponent : Int
  /-- Whether it was written with neither fraction nor exponent. -/
  integral : Bool

namespace Literal

/-- A fraction, if there is one, and the rest. -/
def readFraction? : List Char → Option (List Char × List Char)
  | '.' :: r =>
    let ds := r.takeWhile Char.isDigit
    if ds.isEmpty then none else some (ds, r.dropWhile Char.isDigit)
  | s => some ([], s)

/-- The sign and the digits of an exponent that takes up the whole text. -/
def readExponentBody? (s : List Char) : Option Int :=
  let (negative, ds) := match s with
    | '-' :: r => (true, r)
    | '+' :: r => (false, r)
    | r => (false, r)
  if ds.isEmpty || ds.any (!·.isDigit) then none
  else some (if negative then -Text.ofDigitChars 10 ds else Text.ofDigitChars 10 ds)

/-- An exponent, if there is one, that takes up the whole text. -/
def readExponent? : List Char → Option (Option Int)
  | [] => some none
  | 'e' :: r => (readExponentBody? r).map some
  | 'E' :: r => (readExponentBody? r).map some
  | _ => none

/-- The literal that a whole text is. -/
def read? (s : List Char) : Option Literal := do
  let (negative, s) := match s with
    | '-' :: r => (true, r)
    | r => (false, r)
  let whole := s.takeWhile Char.isDigit
  if whole.isEmpty || (whole.length > 1 && whole.head? == some '0') then none
  let (fraction, s) ← readFraction? (s.dropWhile Char.isDigit)
  let exponent ← readExponent? s
  return {
    negative
    digits := Text.ofDigitChars 10 (whole ++ fraction)
    exponent := exponent.getD 0 - fraction.length
    integral := fraction.isEmpty && exponent.isNone }

/-- The integer of a literal without fraction and exponent. -/
def toInt (l : Literal) : Int :=
  if l.negative then -l.digits else l.digits

/-- The number that a literal denotes; none when it is too large for any number. -/
def toNumber? (l : Literal) : Option Number :=
  if h : FitsWord l.toInt ∧ l.integral ∧ ¬ (l.negative ∧ l.digits = 0) then some (.int l.toInt h.1)
  else (Binary64.ofDecimal? l.negative l.digits l.exponent).map .float

end Literal

end Graft
