/-
Graft/Chain.lean

Chains: the calls by which a client describes a statement.

A chain starts at a table and a verb, takes further calls, and is run.  Running
it never throws: what goes wrong is in the response.
-/
import Graft.Chain.Insert
import Graft.Chain.Mutate
import Graft.Chain.Select
import Graft.Response

namespace Graft

/-- A chain of any verb. -/
inductive Chain where
  | select (chain : SelectChain)
  | insert (chain : InsertChain)
  | upsert (chain : UpsertChain)
  | update (chain : UpdateChain)
  | delete (chain : DeleteChain)

namespace Chain

/-! ### Starting a chain -/

/-- Selects columns of a table. -/
def selectFrom (table columns : String) : SelectChain :=
  { table, columns }

/-- Inserts one object or an array of objects. -/
def insertInto (table : String) (payload : Payload) : InsertChain :=
  { table, rows := payload.read Payload.readRows }

/-- Inserts one object or an array of objects, or updates what is there already. -/
def upsertInto (table : String) (payload : Payload) : UpsertChain :=
  { table, rows := payload.read Payload.readRows }

/-- Updates rows of a table. -/
def updateOf (table : String) (values : Payload) : UpdateChain :=
  { table, values := values.read Payload.readValues }

/-- Deletes rows of a table. -/
def deleteFrom (table : String) : DeleteChain :=
  { table }

/-! ### Running a chain -/

/-- The rows of the chain. -/
def run (client : Client) : Chain → Action (List Row)
  | .select c => c.run client
  | .insert c => c.run client
  | .upsert c => c.run client
  | .update c => c.run client
  | .delete c => c.run client

/-- Runs the chain. -/
def execute (client : Client) (c : Chain) : Dialogue (Response (List Row)) := do
  return .ofExcept (← (c.run client).run)

/-- The chain as it is run for a single row: a select asks for one row only. -/
def forSingle : Chain → Chain
  | .select c => .select c.single
  | c => c

/-- Runs the chain for its first row. -/
def executeSingle (client : Client) (c : Chain) : Dialogue (Response Row) := do
  return (← c.forSingle.execute client).first

end Chain

end Graft
