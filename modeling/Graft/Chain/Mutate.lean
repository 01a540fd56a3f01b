/-
Graft/Chain/Mutate.lean

Chains that update or delete rows.

A mutation has to say which rows it is for: with a filter, or by stating that
it is for all of them.  A filter whose operator does not exist counts for
neither; it makes the chain fail, so it cannot widen the mutation.
-/
import Graft.Chain.Filterable
import Graft.Chain.Payload
import Graft.Projection

namespace Graft

/-- Refuses a mutation without filters, unless it is meant to reach every row. -/
def requireFilter (operation : Mutation) (table : String) (filters : Filters) (everyRow : Bool) :
    Action Unit := do
  if filters.isEmpty then
    if everyRow then
      Action.tell (.unfiltered operation table)
    else
      throw (.missingFilter operation table)

/-! ### Updates -/

/-- A chain that updates rows. -/
structure UpdateChain where
  table : String
  /-- What is set, or what is wrong with the payload. -/
  values : Except Payload.Fault Row
  filters : Filters := {}
  /-- Whether the chain may do without filters. -/
  everyRow : Bool := false
  /-- What is wanted of the updated rows. -/
  returning : String := "*"

namespace UpdateChain

instance : Filterable UpdateChain where
  modifyFilters f c := { c with filters := f c.filters }

/-- The chain for every row. -/
def all (c : UpdateChain) : UpdateChain :=
  { c with everyRow := true }

/-- The chain with another wish for the updated rows. -/
def select (c : UpdateChain) (columns : String) : UpdateChain :=
  { c with returning := columns }

/-- The assignments of the cells of a row. -/
def assignments (values : Row) : Except Violation (List (Ident × Value)) :=
  values.cells.mapM fun (name, value) => (Ident.parse name).map (·, value)

/-- The query of the chain for the given values, and what is done with its rows. -/
def compile (client : Client) (c : UpdateChain) (values : Row) :
    Except Error (Query × Projection) := do
  let projection ← Projection.compile client c.table c.returning
  if values.cells.isEmpty then
    throw (.validation (.nothingToSet c.table))
  let clause ← c.filters.compile
  let assignments ← assignments values
  let table ← Ident.parse c.table
  return (.update table assignments clause projection.columns, projection)

/-- Runs the chain. -/
def run (client : Client) (c : UpdateChain) : Action (List Row) := do
  let values ← c.values.mapError Payload.Fault.error
  c.filters.validate
  requireFilter .update c.table c.filters c.everyRow
  if let some column := c.filters.unsatisfiableColumn? then
    Action.tell (.unsatisfiable "update" c.table column)
    return []
  let (query, projection) ← c.compile client values
  let updated ← query.send ("update " ++ c.table)
  projection.finish client c.table updated

end UpdateChain

/-! ### Deletes -/

/-- A chain that deletes rows. -/
structure DeleteChain where
  table : String
  filters : Filters := {}
  /-- Whether the chain may do without filters. -/
  everyRow : Bool := false
  /-- What is wanted of the deleted rows; nothing if not given. -/
  returning? : Option String := none

namespace DeleteChain

instance : Filterable DeleteChain where
  modifyFilters f c := { c with filters := f c.filters }

/-- The chain for every row. -/
def all (c : DeleteChain) : DeleteChain :=
  { c with everyRow := true }

/-- The chain with a wish for the deleted rows. -/
def select (c : DeleteChain) (columns : String) : DeleteChain :=
  { c with returning? := some columns }

/-- The projection of the deleted rows, if they are wanted. -/
def projection? (client : Client) (c : DeleteChain) : Except Violation (Option Projection) :=
  match c.returning? with
  | some columns => (Projection.compile client c.table columns).map some
  | none => .ok none

/-- The query of the chain, and what is done with its rows. -/
def compile (client : Client) (c : DeleteChain) : Except Error (Query × Option Projection) := do
  let clause ← c.filters.compile
  let table ← Ident.parse c.table
  let projection? ← c.projection? client
  return (.delete table clause (projection?.map (·.columns)), projection?)

/-- Runs the chain. -/
def run (client : Client) (c : DeleteChain) : Action (List Row) := do
  c.filters.validate
  requireFilter .delete c.table c.filters c.everyRow
  if let some column := c.filters.unsatisfiableColumn? then
    Action.tell (.unsatisfiable "delete" c.table column)
    return []
  let (query, projection?) ← c.compile client
  let deleted ← query.send ("delete " ++ c.table)
  match projection? with
  | some projection => projection.finish client c.table deleted
  | none => return []

end DeleteChain

end Graft
