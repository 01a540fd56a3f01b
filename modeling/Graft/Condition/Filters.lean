/-
Graft/Condition/Filters.lean

The filters that a chain has gathered.

Adding a filter never fails, so that a chain can be written in one go.  An
operator that does not exist leaves no condition behind; the first such
operator is remembered and reported when the filters are used.
-/
import Graft.Condition.Clause

namespace Graft

/-- The conditions of a chain, in order, and the first operator that was none. -/
structure Filters where
  conditions : List Condition := []
  deferred : Option Violation := none

namespace Filters

/-- The filters with one more condition. -/
def push (f : Filters) (c : Condition) : Filters :=
  { f with conditions := f.conditions ++ [c] }

/-- The filters with one more condition, whose operator is given by name. -/
def pushNamed (f : Filters) (column operator : String) (value : Value) (negated : Bool) : Filters :=
  match Operator.parse operator with
  | .ok op => f.push { column, operator := op, value, negated }
  | .error v => { f with deferred := f.deferred <|> some v }

/-- The number of conditions. -/
def size (f : Filters) : Nat :=
  f.conditions.length

/-- Whether there is no condition. -/
def isEmpty (f : Filters) : Bool :=
  f.conditions.isEmpty

/-- The column of the first condition that no row satisfies. -/
def unsatisfiableColumn? (f : Filters) : Option String :=
  (f.conditions.find? Condition.isUnsatisfiable).map (·.column)

/-- Reports an operator that was none. -/
def validate (f : Filters) : Except Violation Unit :=
  match f.deferred with
  | some v => .error (.deferred v)
  | none => .ok ()

/-- The clause of the filters. -/
def compile (f : Filters) : Except Error Clause := do
  f.validate
  Clause.compile f.conditions

end Filters

end Graft
