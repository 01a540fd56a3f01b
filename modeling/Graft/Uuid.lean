/-
Graft/Uuid.lean

Universally unique identifiers of version 4, in lower case.

An identifier is 32 hexadecimal digits in groups of 8, 4, 4, 4 and 12.  The
first digit of the third group is the version, and the first of the fourth is
one of four that mark the variant; all others are free.
-/
import Graft.Text.Digit

namespace Graft.Uuid

/-- The last so many hexadecimal digits of a number, most significant first. -/
def hexDigits : Nat → Nat → List Char
  | 0, _ => []
  | count + 1, n => hexDigits count (n / 16) ++ [Text.hexDigit (n % 16)]

/-- Digits in the groups of an identifier. -/
def group (ds : List Char) : List Char :=
  ds.take 8 ++ '-' :: (ds.drop 8).take 4 ++ '-' :: (ds.drop 12).take 4 ++
    '-' :: (ds.drop 16).take 4 ++ '-' :: ds.drop 20

/-- The identifier whose free bits a number gives. -/
def ofBits (bits : Nat) : String :=
  let ds := hexDigits 32 bits
  let variant := Text.hexDigit (8 + bits >>> 60 % 4)
  String.ofList (group (ds.take 12 ++ '4' :: (ds.drop 13).take 3 ++ variant :: ds.drop 17))

/-- Whether a character is a hexadecimal digit in lower case. -/
def isHex (c : Char) : Bool :=
  c.isDigit || ('a' ≤ c && c ≤ 'f')

/-- Whether a text is an identifier of version 4. -/
def isV4 (s : String) : Bool :=
  let cs := s.toList
  let ds := cs.filter (· != '-')
  ds.length == 32 && ds.all isHex && group ds == cs &&
    ds[12]? == some '4' && (ds[16]?.any fun c => c == '8' || c == '9' || c == 'a' || c == 'b')

end Graft.Uuid
