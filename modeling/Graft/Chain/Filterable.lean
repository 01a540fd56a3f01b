/-
Graft/Chain/Filterable.lean

The filter calls that chains share.

Each call adds one condition; a row has to satisfy all of them.
-/
import Graft.Condition.Filters

namespace Graft

/-- Chains that take filters. -/
class Filterable (β : Type) where
  modifyFilters : (Filters → Filters) → β → β

namespace Filterable

variable {β : Type} [Filterable β]

/-- Adds a condition. -/
def satisfying (c : β) (condition : Condition) : β :=
  modifyFilters (·.push condition) c

/-- Adds a condition that compares a column with a value. -/
def compare (c : β) (column : String) (operator : Operator) (value : Value) : β :=
  satisfying c { column, operator, value }

/-- The column equals the value. -/
def eq (c : β) (column : String) (value : Value) : β := compare c column .eq value

/-- The column differs from the value. -/
def neq (c : β) (column : String) (value : Value) : β := compare c column .neq value

/-- The column is greater than the value. -/
def gt (c : β) (column : String) (value : Value) : β := compare c column .gt value

/-- The column is the value or greater. -/
def gte (c : β) (column : String) (value : Value) : β := compare c column .gte value

/-- The column is less than the value. -/
def lt (c : β) (column : String) (value : Value) : β := compare c column .lt value

/-- The column is the value or less. -/
def lte (c : β) (column : String) (value : Value) : β := compare c column .lte value

/-- The column matches the pattern. -/
def like (c : β) (column : String) (pattern : Value) : β := compare c column .like pattern

/-- The column matches the pattern in any case of letters. -/
def ilike (c : β) (column : String) (pattern : Value) : β := compare c column .ilike pattern

/-- The column is null if the value is, and is not null if the value is not. -/
def is (c : β) (column : String) (value : Value) : β := compare c column .nullity value

/-- The column is one of the values. -/
def oneOf (c : β) (column : String) (values : List Value) : β :=
  compare c column .oneOf (.arr values)

/-- A condition whose operator is given by name. -/
def filter (c : β) (column operator : String) (value : Value) : β :=
  modifyFilters (·.pushNamed column operator value false) c

/-- The opposite of a condition whose operator is given by name. -/
def not (c : β) (column operator : String) (value : Value) : β :=
  modifyFilters (·.pushNamed column operator value true) c

end Filterable

end Graft
