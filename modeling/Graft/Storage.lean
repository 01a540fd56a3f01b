/-
Graft/Storage.lean

Values as an embedded engine stores them.

The engine knows null, integers of 64 bits, binary64 numbers, texts and byte
strings.  Truth values are stored as one and zero, integers that are too large
as the nearest binary64 number, and arrays and objects as their text.  On the
way back a text need not be one, and a number need not be finite; neither is an
error.
-/
import Graft.Row
import Graft.Text.Utf8
import Graft.Value.Text

namespace Graft

/-! ### Stored values -/

/-- A value as the engine stores it. -/
inductive StoredValue where
  | null
  | integer (n : Int64)
  | real (x : Binary64)
  | infinite (negative : Bool)
  /-- A text, of which the engine only knows the bytes. -/
  | text (bytes : List UInt8)
  | blob (bytes : List UInt8)
  deriving DecidableEq

theorem fitsWord_int64 (n : Int64) : FitsWord n.toInt := by
  have h₁ := n.le_toInt
  have h₂ := n.toInt_lt
  rw [FitsWord, Int64.toInt_minValue, UInt64.size]
  omega

theorem fitsWord_uint8 (b : UInt8) : FitsWord b.toNat := by
  have := b.toNat_lt
  rw [FitsWord, Int64.toInt_minValue, UInt64.size]
  omega

namespace StoredValue

/-- The text of characters. -/
def ofText (s : String) : StoredValue :=
  .text (Text.encode s.toList)

/-- An integer, as a number if it is too large. -/
def ofInt (n : Int) (fits : FitsWord n) : StoredValue :=
  if n ≤ Int64.maxValue.toInt then .integer (.ofInt n) else .real (.ofInt n fits.natAbs_lt)

/-- A value as it is stored. -/
def ofValue : Value → StoredValue
  | .null => .null
  | .bool b => .integer (if b then 1 else 0)
  | .num (.int n fits) => ofInt n fits
  | .num (.float x) => .real x
  | .str s => ofText s
  | .arr items => ofText (Value.arr items).text
  | .obj fields => ofText (Value.obj fields).text

/-- A stored value as it is read. -/
def toValue : StoredValue → Value
  | .null => .null
  | .integer n => .num (.int n.toInt (fitsWord_int64 n))
  | .real x => .num (.float x)
  | .infinite _ => .null
  | .text bytes => .str (String.ofList (Text.decodeLossy bytes))
  | .blob bytes => .arr (bytes.map fun b => .num (.int b.toNat (fitsWord_uint8 b)))

end StoredValue

/-- The row of some stored cells. -/
def Row.ofStored (cells : List (String × StoredValue)) : Row :=
  .ofFields (cells.map fun (k, v) => (k, v.toValue))

end Graft
