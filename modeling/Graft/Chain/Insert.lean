/-
Graft/Chain/Insert.lean

Chains that insert rows, and chains that insert or update them.

An insert that meets a row which is there already fails; an upsert takes over
the inserted values instead, except in the columns that told that the row is
there, and in the primary key.
-/
import Graft.Chain.Payload
import Graft.Projection

namespace Graft

/-! ### Inserts -/

/-- A chain that inserts rows. -/
structure InsertChain where
  table : String
  /-- The rows, or what is wrong with the payload. -/
  rows : Except Payload.Fault (List Row)
  /-- What is wanted of the inserted rows. -/
  returning : String := "*"

/-- The rows as they are inserted, with primary keys if the settings say so. -/
def Client.keyedRows (client : Client) (rows : List Row) : Action (List Row) :=
  if client.settings.generateIds then
    liftM (Payload.fillKeys client.settings.primaryKey rows)
  else pure rows

namespace InsertChain

/-- The chain with another wish for the inserted rows. -/
def select (c : InsertChain) (columns : String) : InsertChain :=
  { c with returning := columns }

/-- The query of the chain for the given rows, and what is done with its rows. -/
def compile (client : Client) (c : InsertChain) (rows : List Row) :
    Except Error (Query × Projection) := do
  let projection ← Projection.compile client c.table c.returning
  let i ← Payload.Insertion.compile c.table rows
  return (.insert i.table i.columns i.rows none projection.columns, projection)

/-- Runs the chain. -/
def run (client : Client) (c : InsertChain) : Action (List Row) := do
  let rows ← c.rows.mapError Payload.Fault.error
  if rows.isEmpty then
    Action.tell (.emptyPayload "insert" c.table)
    return []
  let rows ← client.keyedRows rows
  let (query, projection) ← c.compile client rows
  let inserted ← query.send ("insert " ++ c.table)
  projection.finish client c.table inserted

end InsertChain

/-! ### Upserts -/

/-- A chain that inserts rows and updates those that are there already. -/
structure UpsertChain where
  table : String
  /-- The rows, or what is wrong with the payload. -/
  rows : Except Payload.Fault (List Row)
  /-- The columns that tell whether a row is there; the primary key if not given. -/
  conflict? : Option String := none
  /-- Whether rows that are there stay as they are. -/
  ignoreDuplicates : Bool := false
  /-- What is wanted of the affected rows. -/
  returning : String := "*"

namespace UpsertChain

/-- The chain with another wish for the affected rows. -/
def select (c : UpsertChain) (columns : String) : UpsertChain :=
  { c with returning := columns }

/-- The chain with other columns that tell whether a row is there. -/
def onConflict (c : UpsertChain) (columns : String) : UpsertChain :=
  { c with conflict? := some columns }

/-- The chain with or without updates of the rows that are there. -/
def ignoringDuplicates (c : UpsertChain) (ignore : Bool) : UpsertChain :=
  { c with ignoreDuplicates := ignore }

/-- The columns that tell whether a row is there. -/
def conflictColumns (client : Client) (c : UpsertChain) : Except Violation (List String) :=
  match Selection.listItems (c.conflict?.getD client.settings.primaryKey) with
  | [] => .error .noConflictColumn
  | items => .ok (items.map String.ofList)

/-- The columns that are taken over into a row that is there. -/
def updatedColumns (client : Client) (conflict names : List String) : List String :=
  names.filter fun n => !conflict.contains n && n != client.settings.primaryKey

/-- The query of the chain for the given rows, and what is done with its rows. -/
def compile (client : Client) (c : UpsertChain) (conflict : List String) (rows : List Row) :
    Except Error (Query × Projection) := do
  let target ← Ident.parseAll conflict
  let i ← Payload.Insertion.compile c.table rows
  let updates ← Ident.parseAll (updatedColumns client conflict i.names)
  let onConflict := { target, updates := if c.ignoreDuplicates then [] else updates }
  let projection ← Projection.compile client c.table c.returning
  return (.insert i.table i.columns i.rows (some onConflict) projection.columns, projection)

/-- Runs the chain. -/
def run (client : Client) (c : UpsertChain) : Action (List Row) := do
  let conflict ← c.conflictColumns client
  let rows ← c.rows.mapError Payload.Fault.error
  if rows.isEmpty then
    Action.tell (.emptyPayload "upsert" c.table)
    return []
  let rows ← client.keyedRows rows
  let (query, projection) ← c.compile client conflict rows
  let affected ← query.send ("upsert " ++ c.table)
  projection.finish client c.table affected

end UpsertChain

end Graft
