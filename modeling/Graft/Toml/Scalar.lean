/-
Graft/Toml/Scalar.lean

Values of a configuration file that stand without quotes.

A run of letters, digits and a few signs is a truth value, an integer in one of
four bases, a float, a date, a time, or a date and a time.  Underscores may
stand between digits.  Integers go up to 128 bits.  A larger integer, a float
that is too large and not written as infinite, and the mark of a base without
digits are numerals without a number.
-/
import Graft.Number.Binary64
import Graft.Text.Digit
import Graft.Toml.Basic

namespace Graft.Toml

/-! ### Digits -/

/-- The digits of a run in which single underscores separate them; `fresh` if a digit must come. -/
def digits? (base : Nat) (fresh : Bool) : List Char → Option (List Nat)
  | [] => if fresh then none else some []
  | c :: rest =>
    if c = '_' then if fresh then none else digits? base true rest
    else (Text.digitValue? base c).bind fun d => (digits? base false rest).map (d :: ·)

/-- A decimal number without a superfluous leading zero. -/
def decimal? (s : List Char) : Option (List Nat) :=
  match digits? 10 true s with
  | some (0 :: _ :: _) => none
  | ds => ds

/-- The sign of a number, and the rest. -/
def takeSign : List Char → Bool × List Char
  | '-' :: r => (true, r)
  | '+' :: r => (false, r)
  | r => (false, r)

/-! ### Numbers -/

/-- Whether an integer has at most 128 bits. -/
def fitsLong (n : Int) : Bool :=
  if n < 0 then n.natAbs ≤ 1 <<< 127 else n.natAbs < 1 <<< 128

/-- The value of an integer. -/
def ofInteger (n : Int) : Toml :=
  if fitsLong n then .int n else .numeral

/-- An integer in a base, after the mark of the base. -/
def based? (base : Nat) (s : List Char) : Option Toml :=
  if s.isEmpty then some .numeral
  else (digits? base true s).map fun ds => ofInteger (Text.ofDigits base ds)

/-- An integer. -/
def integer? : List Char → Option Toml
  | '0' :: 'x' :: r => based? 16 r
  | '0' :: 'o' :: r => based? 8 r
  | '0' :: 'b' :: r => based? 2 r
  | s =>
    let (negative, r) := takeSign s
    (decimal? r).map fun ds =>
      ofInteger (if negative then -Text.ofDigits 10 ds else Text.ofDigits 10 ds)

/-- The exponent of a float; zero where there is none. -/
def exponent? : List Char → Option Int
  | [] => some 0
  | c :: r =>
    if c = 'e' ∨ c = 'E' then
      let (negative, r) := takeSign r
      (digits? 10 true r).map fun ds => if negative then -Text.ofDigits 10 ds else Text.ofDigits 10 ds
    else none

/-- Whether a character is one of those in a run of decimal digits. -/
def isDigitOrUnderscore (c : Char) : Bool :=
  c.isDigit || c == '_'

/-- A float. -/
def float? (s : List Char) : Option Toml :=
  let (negative, r) := takeSign s
  if r = ['i', 'n', 'f'] ∨ r = ['n', 'a', 'n'] then some .float
  else do
    let whole ← decimal? (r.takeWhile isDigitOrUnderscore)
    let rest := r.dropWhile isDigitOrUnderscore
    let (fraction, rest) ← match rest with
      | '.' :: r =>
        (digits? 10 true (r.takeWhile isDigitOrUnderscore)).map
          (·, r.dropWhile isDigitOrUnderscore)
      | r => if r.isEmpty then none else some ([], r)
    let exponent ← exponent? rest
    let digits := Text.ofDigits 10 (whole ++ fraction)
    return if (Binary64.ofDecimal? negative digits (exponent - fraction.length)).isSome then .float
      else .numeral

/-! ### Dates and times -/

/-- The number that exactly two digits make. -/
def twoDigits? (a b : Char) : Option Nat :=
  (digits? 10 true [a, b]).map (Text.ofDigits 10)

/-- The number of days of a month. -/
def daysIn (year month : Nat) : Nat :=
  if month = 2 then
    if year % 4 = 0 ∧ (year % 100 ≠ 0 ∨ year % 400 = 0) then 29 else 28
  else if month = 4 ∨ month = 6 ∨ month = 9 ∨ month = 11 then 30
  else 31

/-- Whether a text is a date. -/
def isDate : List Char → Bool
  | [y₁, y₂, y₃, y₄, '-', m₁, m₂, '-', d₁, d₂] =>
    match twoDigits? y₁ y₂, twoDigits? y₃ y₄, twoDigits? m₁ m₂, twoDigits? d₁ d₂ with
    | some c, some y, some m, some d =>
      1 ≤ m && m ≤ 12 && 1 ≤ d && d ≤ daysIn (100 * c + y) m
    | _, _, _, _ => false
  | _ => false

/-- Whether a text is nothing, or a fraction of a second. -/
def isFraction : List Char → Bool
  | [] => true
  | '.' :: r => !r.isEmpty && r.all Char.isDigit
  | _ => false

/-- Whether a text is a time of day, with or without seconds. -/
def isTime : List Char → Bool
  | h₁ :: h₂ :: ':' :: m₁ :: m₂ :: rest =>
    match twoDigits? h₁ h₂, twoDigits? m₁ m₂ with
    | some h, some m =>
      h ≤ 23 && m ≤ 59 &&
        match rest with
        | [] => true
        | ':' :: s₁ :: s₂ :: r =>
          (match twoDigits? s₁ s₂ with
          | some s => s ≤ 60
          | none => false) && isFraction r
        | _ => false
    | _, _ => false
  | _ => false

/-- Whether a text is a distance from universal time. -/
def isOffset : List Char → Bool
  | ['Z'] | ['z'] => true
  | [s, h₁, h₂, ':', m₁, m₂] =>
    (s == '+' || s == '-') &&
      match twoDigits? h₁ h₂, twoDigits? m₁ m₂ with
      | some h, some m => h ≤ 23 && m ≤ 59
      | _, _ => false
  | _ => false

/-- Whether a text is a time of day, with or without a distance from universal time. -/
def isTimeWithOffset (s : List Char) : Bool :=
  let isClock (c : Char) : Bool := c.isDigit || c == ':' || c == '.'
  isTime (s.takeWhile isClock) &&
    (isOffset (s.dropWhile isClock) || (s.dropWhile isClock).isEmpty)

/-- Whether a text is a date and a time. -/
def isDateTime (s : List Char) : Bool :=
  isDate (s.take 10) &&
    match s.drop 10 with
    | c :: r => (c == 'T' || c == 't' || c == ' ') && isTimeWithOffset r
    | [] => false

/-! ### Scalars -/

/-- The value of a run without quotes. -/
def scalar? (s : List Char) : Option Toml :=
  if s = ['t', 'r', 'u', 'e'] then some (.bool true)
  else if s = ['f', 'a', 'l', 's', 'e'] then some (.bool false)
  else if isDate s || isTime s || isDateTime s then some .moment
  else integer? s <|> float? s

/-- The characters of runs without quotes. -/
def isScalarPart (c : Char) : Bool :=
  c.isAlphanum || c == '+' || c == '-' || c == '_' || c == '.' || c == ':'

/-- A run without quotes, and the rest.  A space between a date and a time is part of the run. -/
def takeScalar (s : List Char) : List Char × List Char :=
  let run := s.takeWhile isScalarPart
  let rest := s.dropWhile isScalarPart
  match rest with
  | ' ' :: c :: r =>
    if isDate run && c.isDigit then
      (run ++ ' ' :: (c :: r).takeWhile isScalarPart, (c :: r).dropWhile isScalarPart)
    else (run, rest)
  | _ => (run, rest)

end Graft.Toml
