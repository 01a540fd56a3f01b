/-
Graft/Chain/Select.lean

Chains that select rows.

A window that the engine would not accept is refused when it is asked for; the
first refusal is reported when the chain runs, and the window stays as it was.
-/
import Graft.Chain.Filterable
import Graft.Projection

namespace Graft

/-- A sort term as it was asked for. -/
structure OrderTerm where
  column : String
  direction : Direction := .asc
  deriving DecidableEq

/-- The sort terms of a query. -/
def OrderTerm.compileAll (ts : List OrderTerm) : Except Violation (List (Ident × Direction)) :=
  ts.mapM fun t => (Ident.parse t.column).map (·, t.direction)

/-- A chain that selects rows. -/
structure SelectChain where
  table : String
  columns : String
  filters : Filters := {}
  order : List OrderTerm := []
  window? : Option Window := none
  /-- The first window that was refused. -/
  refused? : Option Violation := none

namespace SelectChain

instance : Filterable SelectChain where
  modifyFilters f c := { c with filters := f c.filters }

/-! ### Calls -/

/-- Sorts by one more column, after those given before. -/
def orderBy (c : SelectChain) (column : String) (direction : Direction := .asc) : SelectChain :=
  { c with order := c.order ++ [{ column, direction }] }

/-- Remembers a violation, unless there is one already. -/
def refuse (c : SelectChain) (v : Violation) : SelectChain :=
  { c with refused? := c.refused? <|> some v }

/-- Sets the limit and leaves the offset alone. -/
def withLimit (c : SelectChain) (count : UInt64) : SelectChain :=
  { c with window? := some { limit := count, offset? := c.window?.bind (·.offset?) } }

/-- Wants at most so many rows. -/
def limit (c : SelectChain) (count : UInt64) : SelectChain :=
  if count > Violation.windowMax then c.refuse (.limitTooLarge count) else c.withLimit count

/-- Wants the rows from one place to another, both included. -/
def range (c : SelectChain) (first last : UInt64) : SelectChain :=
  if last < first then c.refuse (.rangeReversed first last)
  else if last - first < Violation.windowMax ∧ first ≤ Violation.windowMax then
    { c with window? := some { limit := last - first + 1, offset? := some first } }
  else c.refuse (.rangeTooLarge first last)

/-- Wants one row.  The limit counts rows before an inner join drops any. -/
def single (c : SelectChain) : SelectChain :=
  c.withLimit 1

/-! ### Running -/

/-- Reports what was found wrong while the chain was built. -/
def validate (c : SelectChain) : Except Violation Unit := do
  if let some v := c.refused? then
    throw v
  c.filters.validate

/-- The query of the chain, and what is done with its rows. -/
def compile (client : Client) (c : SelectChain) : Except Error (Query × Projection) := do
  let projection ← Projection.compile client c.table c.columns
  let clause ← c.filters.compile
  let table ← Ident.parse c.table
  let order ← OrderTerm.compileAll c.order
  return (.select projection.columns table clause order c.window?, projection)

/-- The text and the parameters of the chain's statement, which is not sent. -/
def toSql (client : Client) (c : SelectChain) : Except Error (String × List Value) := do
  c.validate
  let (query, _) ← c.compile client
  return (query.sql, query.params)

/-- Runs the chain. -/
def run (client : Client) (c : SelectChain) : Action (List Row) := do
  c.validate
  if let some column := c.filters.unsatisfiableColumn? then
    Action.tell (.unsatisfiable "select" c.table column)
    return []
  let (query, projection) ← c.compile client
  let rows ← query.send ("select " ++ c.table)
  projection.finish client c.table rows

end SelectChain

end Graft
