/-
Graft/Chain/Payload.lean

Payloads: the rows that a chain writes.

A chain is given anything that can be turned into a value.  Where that fails,
there is nothing to look at, and the chain reports why: this is an error of
decoding and not a violation (`Payload.Fault.error`).  Of a value, an insert
takes an object or an array of objects; an update takes one object.
Rows without a primary key, or with a null one, get a fresh identifier: in its
place where there is one, and before all other cells where there is none.  The
rows of one insert may have different columns; the insert has all of them, in
the order of their first occurrence, and a row is null where it has no cell.
-/
import Graft.Dialogue
import Graft.Ident

namespace Graft

/-- What a chain is given to write. -/
inductive Payload where
  /-- It is this value. -/
  | value (v : Value)
  /-- It cannot be turned into a value, for this reason, which is passed on as it is. -/
  | unserialized (reason : String)

instance : Coe Value Payload where
  coe := .value

namespace Payload

/-- Why a payload cannot be written. -/
inductive Fault where
  /-- It cannot be turned into a value. -/
  | unserialized (reason : String)
  /-- Its value has another shape than that of rows. -/
  | misshapen (cause : Violation)
  deriving DecidableEq

/-- The error that a chain reports for it. -/
def Fault.error : Fault → Error
  | .unserialized reason => .decode reason
  | .misshapen cause => .validation cause

/-! ### Reading -/

/-- What a chain takes from a payload, given what it takes from a value. -/
def read {α : Type} (take : Value → Except Violation α) : Payload → Except Fault α
  | .value v => (take v).mapError .misshapen
  | .unserialized reason => .error (.unserialized reason)

/-- The rows of an array whose items are counted from `index`. -/
def readItems (index : Nat) : List Value → Except Violation (List Row)
  | [] => .ok []
  | .obj fields :: rest => (readItems (index + 1) rest).map (.ofFields fields :: ·)
  | other :: _ => .error (.payloadItemShape index other.shape)

/-- The rows to insert. -/
def readRows : Value → Except Violation (List Row)
  | .obj fields => .ok [.ofFields fields]
  | .arr items => readItems 0 items
  | other => .error (.payloadShape other.shape)

/-- The values to update. -/
def readValues : Value → Except Violation Row
  | .obj fields => .ok (.ofFields fields)
  | other => .error (.updateShape other.shape)

/-! ### Primary keys -/

/-- The row with a primary key. -/
def fillKey (primaryKey : String) (row : Row) : Dialogue Row := do
  if h : primaryKey ∈ row.keys then
    if (row.get? primaryKey).any (!·.isNull) then
      return row
    let id ← Dialogue.fresh
    return row.insert primaryKey (.str id)
  else
    let id ← Dialogue.fresh
    return row.cons primaryKey (.str id) h

/-- The rows with primary keys. -/
def fillKeys (primaryKey : String) : List Row → Dialogue (List Row)
  | [] => return []
  | row :: rest => do
    let row ← fillKey primaryKey row
    let rest ← fillKeys primaryKey rest
    return row :: rest

/-! ### Columns -/

/-- The columns of all rows, each once, in the order of their first occurrence. -/
def columnUnion (rows : List Row) : List String :=
  (rows.flatMap Row.keys).eraseDups

/-- The cells of a row in some columns, null where it has none. -/
def cellsIn (columns : List String) (row : Row) : List Value :=
  columns.map fun c => (row.get? c).getD .null

/-- The parts of an insert. -/
structure Insertion where
  table : Ident
  names : List String
  columns : List Ident
  rows : List (List Value)

/-- The parts of an insert of some rows into a table. -/
def Insertion.compile (table : String) (rows : List Row) : Except Violation Insertion := do
  let names := columnUnion rows
  let columns ← Ident.parseAll names
  let table ← Ident.parse table
  return { table, names, columns, rows := rows.map (cellsIn names) }

end Payload

end Graft
