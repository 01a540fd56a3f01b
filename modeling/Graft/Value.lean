/-
Graft/Value.lean

Values: the cells of rows and the parameters of statements.

A value is null, a truth value, a number, a string, a list of values, or an
object.  Objects keep their fields in the order in which they were given; that
order shows in texts and in the columns of an insert.
-/
import Graft.Number

namespace Graft

/-- A cell of a row, or a parameter of a statement. -/
inductive Value where
  | null
  | bool (b : Bool)
  | num (n : Number)
  | str (s : String)
  | arr (items : List Value)
  | obj (fields : List (String × Value))

namespace Value

instance : Inhabited Value := ⟨.null⟩

/-- Whether the value is null. -/
def isNull : Value → Bool
  | .null => true
  | _ => false

/-! ### Shapes -/

/-- What kind of value a value is. -/
inductive Shape where
  | null | boolean | number | string | array | object
  deriving DecidableEq

/-- The shape as messages name it. -/
def Shape.name : Shape → String
  | .null => "null"
  | .boolean => "a boolean"
  | .number => "a number"
  | .string => "a string"
  | .array => "an array"
  | .object => "an object"

/-- The shape of a value. -/
def shape : Value → Shape
  | .null => .null
  | .bool _ => .boolean
  | .num _ => .number
  | .str _ => .string
  | .arr _ => .array
  | .obj _ => .object

end Value

end Graft
