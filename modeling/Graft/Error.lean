/-
Graft/Error.lean

Errors: why a chain has no rows to answer with.

There are four groups, told apart by `isContractViolation`, `isBackendError`
and `isRelationError`: a chain that describes no statement, a failure inside
the engine, a relation that cannot be resolved, and the failure to decode a row
or to read a configuration.

A violation is an error too, so a check of the chain is a step that may end in
one (`check_eq_ok_iff`, `check_eq_error_iff`).
-/
import Graft.Traversal
import Graft.Violation

namespace Graft

/-- A statement that changes rows and therefore has to say which. -/
inductive Mutation where
  | update | delete
  deriving DecidableEq

/-- The keyword of the statement. -/
def Mutation.keyword : Mutation → String
  | .update => "UPDATE"
  | .delete => "DELETE"

/-- Why a relation cannot be resolved. -/
inductive RelationFault where
  | unregistered (owner related : String)
  | ambiguous (owner related : String) (candidates : List String)
  /-- A relation was guessed, and the engine rejected its lookup. -/
  | guessRejected (owner related foreignKey : String) (message candidate : String)
  /-- A fault in somebody else's words. -/
  | stated (text : String)
  deriving DecidableEq

/-- The fault in words. -/
def RelationFault.text : RelationFault → String
  | .unregistered owner related =>
    s!"no relation configured between '{owner}' and '{related}'"
  | .ambiguous owner related candidates =>
    let quoted := " and ".intercalate (candidates.map fun c => s!"'{c}'")
    s!"ambiguous relation between '{owner}' and '{related}': rows carry both {quoted}; " ++
      "register the pair explicitly"
  | .guessRejected owner related foreignKey message candidate =>
    s!"inferred has-many '{related}.{foreignKey}' -> '{owner}' failed: {message}; " ++
      s!"select '{candidate}' on '{owner}' for a belongs-to link, or register the pair"
  | .stated text => text

/-- Why a chain has no rows to answer with. -/
inductive Error where
  /-- A statement failed inside the engine. -/
  | backend (message : String)
  | uniqueViolation (message : String)
  | foreignKeyViolation (message : String)
  | checkViolation (message : String)
  /-- The chain describes no statement. -/
  | validation (cause : Violation)
  /-- A mutation without a filter that was not told to reach every row. -/
  | missingFilter (operation : Mutation) (table : String)
  /-- A membership test in an empty list came to be compiled. -/
  | emptyInList (column : String)
  /-- A relation cannot be resolved. -/
  | relation (cause : RelationFault)
  /-- A row does not have the type asked for. -/
  | decode (message : String)
  /-- A configuration cannot be read. -/
  | config (message : String)
  deriving DecidableEq

namespace Error

/-- The error in words. -/
def message : Error → String
  | .backend m => "Backend error: " ++ m
  | .uniqueViolation m => "Unique constraint violation: " ++ m
  | .foreignKeyViolation m => "Foreign key violation: " ++ m
  | .checkViolation m => "Check constraint violation: " ++ m
  | .validation v => Violation.heading ++ v.text
  | .missingFilter op table =>
    s!"{op.keyword} on '{table}' requires at least one filter (use .all() to target every row)"
  | .emptyInList column => s!"IN filter on '{column}' has an empty value list"
  | .relation f => "Relation error: " ++ f.text
  | .decode m => "Decode error: " ++ m
  | .config m => "Config error: " ++ m

/-- Whether the error is about the chain and not about anything that was executed. -/
def isContractViolation : Error → Bool
  | .validation _ | .missingFilter _ _ | .emptyInList _ => true
  | _ => false

/-- Whether the error came from the engine. -/
def isBackendError : Error → Bool
  | .backend _ | .uniqueViolation _ | .foreignKeyViolation _ | .checkViolation _ => true
  | _ => false

/-- Whether a relation could not be resolved. -/
def isRelationError : Error → Bool
  | .relation _ => true
  | _ => false

/-- Whether a unique constraint was violated. -/
def isUniqueViolation : Error → Bool
  | .uniqueViolation _ => true
  | _ => false

end Error

/-- A violation is an error. -/
instance : MonadLift (Except Violation) (Except Error) where
  monadLift := Except.mapError .validation

/-! ### Steps that may find a violation -/

section

variable {α : Type}

/-- A step that may find a violation succeeds if it finds none. -/
theorem check_eq_ok_iff {x : Except Violation α} {a : α} :
    (liftM x : Except Error α) = .ok a ↔ x = .ok a :=
  mapError_eq_ok_iff

/-- A step that may find a violation fails with that violation. -/
theorem check_eq_error_iff {x : Except Violation α} {e : Error} :
    (liftM x : Except Error α) = .error e ↔ ∃ v, x = .error v ∧ e = .validation v :=
  mapError_eq_error_iff

end

end Graft
