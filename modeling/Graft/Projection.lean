/-
Graft/Projection.lean

Projections: what a chain wants of the rows that its statement answers with.

A projection is a compiled select expression: the columns for the statement,
the relations to embed in its rows, and the columns that were added for that
and have to go again.
-/
import Graft.Embed

namespace Graft

/-- A compiled select expression. -/
structure Projection where
  columns : List Column
  nesting : Nesting
  /-- The columns that were not asked for. -/
  helpers : List String

namespace Projection

/-- The projection of a select expression on a table. -/
def compile (client : Client) (table expr : String) : Except Violation Projection := do
  let selection ← Selection.parse expr
  let (selection, helpers) :=
    selection.ensure (client.keyColumns table selection.relations)
  let columns ← selection.columns
  return { columns, nesting := .ofRequests selection.relations, helpers }

/-- The rows that a statement on a table answered with, with all that was asked for. -/
def finish (client : Client) (table : String) (p : Projection) (rows : List Row) :
    Action (List Row) := do
  let rows ← Embed.embedAll client p.nesting table rows
  return rows.map (·.eraseAll p.helpers)

end Projection

end Graft
