/-
Graft/Query/Sending.lean

Sending queries.

A query is sent as a statement with a tag, which tells observers what it is for.
-/
import Graft.Dialogue
import Graft.Query

namespace Graft.Query

/-- The statement of a query under a tag. -/
def statement (q : Query) (tag : String) : Statement :=
  ⟨some tag, q.sql, q.params⟩

/-- Sends a query under a tag. -/
def send (q : Query) (tag : String) : Action (List Row) := do
  Action.tell (.dispatching tag q.params.length)
  Action.send (q.statement tag)

end Graft.Query
