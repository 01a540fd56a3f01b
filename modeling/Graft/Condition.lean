/-
Graft/Condition.lean

Conditions: the filters of a chain, as they were asked for.

A condition names a column, an operator and a value, and may be negated.  It
is not checked when it is made: whether the column is a name, and whether the
value suits the operator, shows when the condition is compiled.
-/
import Graft.Error
import Graft.Text.Blank

namespace Graft

/-! ### Operators -/

/-- How a column is compared with a value. -/
inductive Operator where
  | eq | neq | gt | gte | lt | lte
  | like
  /-- Pattern matching that ignores the case of letters. -/
  | ilike
  /-- Membership in a list. -/
  | oneOf
  /-- A test for null, or for anything but null. -/
  | nullity
  deriving DecidableEq

namespace Operator

/-- The operator in a statement.  The engine's pattern matching ignores the case of ASCII letters
anyway, so both kinds of it are written alike. -/
def sql : Operator → String
  | .eq => "="
  | .neq => "!="
  | .gt => ">"
  | .gte => ">="
  | .lt => "<"
  | .lte => "<="
  | .like => "LIKE"
  | .ilike => "LIKE"
  | .oneOf => "IN"
  | .nullity => "IS"

/-- The operator of a name or symbol in lower case. -/
def ofName? : String → Option Operator
  | "eq" | "=" => some .eq
  | "neq" | "!=" | "<>" => some .neq
  | "gt" | ">" => some .gt
  | "gte" | ">=" => some .gte
  | "lt" | "<" => some .lt
  | "lte" | "<=" => some .lte
  | "like" => some .like
  | "ilike" => some .ilike
  | "in" => some .oneOf
  | "is" => some .nullity
  | _ => none

/-- A text without blanks around it and with its ASCII letters in lower case. -/
def normalize (text : String) : String :=
  String.ofList ((Text.trim text.toList).map Char.toLower)

/-- The operator that a text names. -/
def parse (text : String) : Except Violation Operator :=
  match ofName? (normalize text) with
  | some op => .ok op
  | none => .error (.unknownOperator (normalize text))

end Operator

/-! ### Conditions -/

/-- A filter: a column, an operator and a value. -/
structure Condition where
  column : String
  operator : Operator
  value : Value
  negated : Bool := false

namespace Condition

/-- The condition that holds where this one does not. -/
def negate (c : Condition) : Condition :=
  { c with negated := !c.negated }

/-- Membership in the empty list: no row satisfies the condition. -/
def isUnsatisfiable (c : Condition) : Bool :=
  match c.operator, c.negated, c.value with
  | .oneOf, false, .arr [] => true
  | _, _, _ => false

end Condition

end Graft
