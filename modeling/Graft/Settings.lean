/-
Graft/Settings.lean

What all chains of a client have in common.
-/
import Graft.Relation

namespace Graft

/-- What to do about a pair of tables that is not registered. -/
inductive InferencePolicy where
  /-- Refuse to embed it. -/
  | disabled
  /-- Guess the foreign key from the names of the tables. -/
  | namingConvention
  deriving DecidableEq

/-- The settings of a client. -/
structure Settings where
  /-- The primary key of every table. -/
  primaryKey : String := "id"
  /-- Whether inserted rows without a primary key get a generated one. -/
  generateIds : Bool := true
  inference : InferencePolicy := .namingConvention
  deriving DecidableEq

/-- What chains are compiled and resolved against. -/
structure Client where
  relations : Relations := {}
  settings : Settings := {}

end Graft
