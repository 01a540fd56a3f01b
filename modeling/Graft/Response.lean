/-
Graft/Response.lean

Responses: what a chain answers with.

A chain that ran has data and no error; one that failed has an error and no
data.  A chain for a single row that found none has neither.
-/
import Graft.Error

namespace Graft

/-- The outcome of a chain. -/
inductive Response (α : Type) where
  | ran (data? : Option α)
  | failed (error : Error)

namespace Response

variable {α β : Type}

/-- The outcome of a computation that has data if it does not fail. -/
def ofExcept : Except Error α → Response α
  | .ok a => .ran (some a)
  | .error e => .failed e

/-- Whether the chain ran. -/
def isOk : Response α → Bool
  | .ran _ => true
  | .failed _ => false

/-- The data, if any. -/
def data? : Response α → Option α
  | .ran d => d
  | .failed _ => none

/-- The error, if any. -/
def error? : Response α → Option Error
  | .ran _ => none
  | .failed e => some e

/-- The response as a computation that may fail. -/
def toExcept : Response α → Except Error (Option α)
  | .ran d => .ok d
  | .failed e => .error e

/-- The response with other data. -/
def map (f : α → β) : Response α → Response β
  | .ran d => .ran (d.map f)
  | .failed e => .failed e

/-- The response with the first of its data only. -/
def first : Response (List α) → Response α
  | .ran d => .ran (d.bind List.head?)
  | .failed e => .failed e

end Response

end Graft
