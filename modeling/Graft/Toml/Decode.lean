/-
Graft/Toml/Decode.lean

Taking settings out of a configuration file.

A setting has to be of the type asked for; there is no conversion.  A choice
between alternatives is written as the name of one, or as a table with that name
as its only key and nothing under it.  A record is written as a table, or as an
array with its fields in order.  Other keys of the table are ignored, but their
values have to be readable; further items of the array are not even looked at.
-/
import Graft.Toml.Basic

namespace Graft.Toml

/-- A text. -/
def asString? : Toml → Option String
  | .str s => some s
  | _ => none

/-- A truth value. -/
def asBool? : Toml → Option Bool
  | .bool b => some b
  | _ => none

/-- An array. -/
def asArray? : Toml → Option (List Toml)
  | .arr items => some items
  | _ => none

/-- Whether a value holds nothing. -/
def isVoid : Toml → Bool
  | .arr [] | .table [] => true
  | _ => false

/-- The name of an alternative. -/
def asAlternative? : Toml → Option String
  | .str s => some s
  | .table [(name, content)] => if content.isVoid then some name else none
  | _ => none

/-- The fields of a table as those of a record with the given names. -/
def recordFields? (names : List String) (fields : List (String × Toml)) :
    Option (List (String × Toml)) :=
  if fields.all fun (key, v) => names.contains key || v.isReadable then some fields else none

/-- The fields of a record with the given names. -/
def asRecord? (names : List String) : Toml → Option (List (String × Toml))
  | .table fields => recordFields? names fields
  | .arr items => if names.length ≤ items.length then some (names.zip items) else none
  | _ => none

/-- The field under a key, read as asked; none if it is not there. -/
def require? {α : Type} (fields : List (String × Toml)) (key : String)
    (read : Toml → Option α) : Option α :=
  (field? fields key).bind read

/-- The field under a key, read as asked; the default if it is not there. -/
def optional? {α : Type} (fields : List (String × Toml)) (key : String) (default : α)
    (read : Toml → Option α) : Option α :=
  match field? fields key with
  | some v => read v
  | none => some default

end Graft.Toml
