/-
Graft/Toml/Basic.lean

The values of a configuration file in the format TOML.

A numeral may have the right form and yet no number: it is too large, or it has
the mark of a base and no digits.  A file may hold such a numeral where nobody
reads it, so it is a value of its own, and `Toml.isReadable` says that a value
holds none.
-/
namespace Graft

/-- A value of a configuration file. -/
inductive Toml where
  | str (s : String)
  | int (n : Int)
  /-- A float; no setting is one, so which it is does not matter. -/
  | float
  /-- A numeral that no number can be read from. -/
  | numeral
  | bool (b : Bool)
  /-- A date, a time, or both; no setting is one. -/
  | moment
  | arr (items : List Toml)
  | table (fields : List (String × Toml))

namespace Toml

/-- The value under a key of a table. -/
def field? (fields : List (String × Toml)) (key : String) : Option Toml :=
  fields.lookup key

/-! ### Readable values -/

mutual

/-- Whether all numerals in a value have their number. -/
def isReadable : Toml → Bool
  | .numeral => false
  | .arr items => allReadable items
  | .table fields => allFieldsReadable fields
  | .str _ | .int _ | .float | .bool _ | .moment => true

/-- Whether all items are readable. -/
def allReadable : List Toml → Bool
  | [] => true
  | v :: rest => v.isReadable && allReadable rest

/-- Whether all fields are readable. -/
def allFieldsReadable : List (String × Toml) → Bool
  | [] => true
  | (_, v) :: rest => v.isReadable && allFieldsReadable rest

end

end Toml

end Graft
