/-
Graft/Decode.lean

Decoding values into types.

A value is taken for what it is: an integer is no text, a text is no integer,
and the only conversion is that of an integer to a binary64 number.  A null is
a missing value of an optional type and of no other.

Records are decoded from objects by the names of their fields, or from arrays
by position; `Record.required` and `Record.optional` are the ways to take a field
out of one.
-/
import Graft.Response
import Graft.Row
import Graft.Value.Text

namespace Graft

/-- Types that values can be decoded into. -/
class FromValue (α : Type) where
  /-- The value as `α`, or what is wrong with it. -/
  fromValue : Value → Except String α

export FromValue (fromValue)

/-- The complaint about a value of the wrong shape. -/
def mismatch {α : Type} (expected : String) (v : Value) : Except String α :=
  .error s!"invalid type: {v.shape.name}, expected {expected}"

/-! ### Simple types -/

instance : FromValue Value where
  fromValue := .ok

instance : FromValue String where
  fromValue
    | .str s => .ok s
    | v => mismatch "a string" v

instance : FromValue Bool where
  fromValue
    | .bool b => .ok b
    | v => mismatch "a boolean" v

instance : FromValue Binary64 where
  fromValue
    | .num n => .ok n.toBinary64
    | v => mismatch "a number" v

/-- An integer between two bounds, both included. -/
def integerWithin (low high : Int) : Value → Except String Int
  | .num (.int n _) =>
    if low ≤ n ∧ n ≤ high then .ok n
    else .error s!"invalid value: integer {n}, expected one from {low} to {high}"
  | v => mismatch "an integer" v

instance : FromValue Int64 where
  fromValue v := (integerWithin Int64.minValue.toInt Int64.maxValue.toInt v).map Int64.ofInt

instance : FromValue UInt64 where
  fromValue v := (integerWithin 0 (UInt64.size - 1) v).map fun n => .ofNat n.toNat

instance : FromValue UInt8 where
  fromValue v := (integerWithin 0 255 v).map fun n => .ofNat n.toNat

/-! ### Composed types -/

instance {α : Type} [FromValue α] : FromValue (Option α) where
  fromValue
    | .null => .ok none
    | v => (fromValue v).map some

instance {α : Type} [FromValue α] : FromValue (List α) where
  fromValue
    | .arr items => items.mapM fromValue
    | v => mismatch "an array" v

/-- Values of one type under names. -/
structure FieldMap (α : Type) where
  /-- The values with their names, in the order of these. -/
  entries : List (String × α)

instance {α : Type} [FromValue α] : FromValue (FieldMap α) where
  fromValue
    | .obj fields => do
      let entries ← fields.mapM fun (k, v) => (fromValue v).map (k, ·)
      return ⟨entries.mergeSort fun a b => a.1 ≤ b.1⟩
    | v => mismatch "an object" v

/-! ### Records -/

/-- The fields of a record by their names. -/
abbrev Record := List (String × Value)

namespace Record

/-- The fields of a value that is a record with the given names.  Other fields of an object are
ignored; an array has one item for each name. -/
def ofValue (names : List String) : Value → Except String Record
  | .obj fields => .ok fields
  | .arr items =>
    if items.length = names.length then .ok (names.zip items)
    else .error s!"invalid length {items.length}, expected {names.length}"
  | v => mismatch "an object" v

/-- A field that has to be there. -/
def required {α : Type} [FromValue α] (r : Record) (name : String) : Except String α :=
  match r.lookup name with
  | some v => fromValue v
  | none => .error s!"missing field '{name}'"

/-- A field that may be missing or null. -/
def optional {α : Type} [FromValue α] (r : Record) (name : String) : Except String (Option α) :=
  match r.lookup name with
  | some v => fromValue v
  | none => .ok none

end Record

/-! ### Rows -/

variable {α : Type} [FromValue α]

/-- A value as `α`, or a decoding error. -/
def decode (v : Value) : Except Error α :=
  (fromValue v).mapError .decode

/-- The cell of a column; none if it is missing or null. -/
def Row.getAs (r : Row) (column : String) : Except Error (Option α) :=
  match r.get? column with
  | none | some .null => .ok none
  | some v => (decode v).map some

/-- A row as `α`. -/
def decodeRow (r : Row) : Except Error α :=
  decode r.toValue

/-- Rows as `α`; the first that is none decides. -/
def decodeRows (rs : List Row) : Except Error (List α) :=
  rs.mapM decodeRow

namespace Response

/-- The rows of a response as `α`. -/
def rowsAs (r : Response (List Row)) : Except Error (List α) := do
  match ← r.toExcept with
  | some rows => decodeRows rows
  | none => return []

/-- The row of a response as `α`, if there is one. -/
def rowAs (r : Response Row) : Except Error (Option α) := do
  match ← r.toExcept with
  | some row => return some (← decodeRow row)
  | none => return none

end Response

end Graft
