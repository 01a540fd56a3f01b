/-
Graft/Storage/Failure.lean

Failures of an embedded engine.

The engine reports a failure as a number and sometimes a message.  Violated
constraints are told apart by the number; every other failure is just the
engine's.
-/
import Graft.Error

namespace Graft.Storage

/-- A failure as the engine reports it. -/
structure Failure where
  /-- The extended result code. -/
  code : Int
  message? : Option String

namespace Failure

/-- A value must not occur twice. -/
def uniqueCode : Int := 2067

/-- A primary key must not occur twice. -/
def primaryKeyCode : Int := 1555

/-- A foreign key must refer to a row. -/
def foreignKeyCode : Int := 787

/-- A condition on the values of a row does not hold. -/
def checkCode : Int := 275

/-- The engine's own words for a code. -/
def description (code : Int) : String :=
  if code = uniqueCode then "A UNIQUE constraint failed"
  else if code = primaryKeyCode then "A PRIMARY KEY constraint failed"
  else if code = foreignKeyCode then "Foreign key constraint failed"
  else if code = checkCode then "A CHECK constraint failed"
  else "Unknown error code"

/-- The message, made from the code if there is none. -/
def text (f : Failure) : String :=
  f.message?.getD s!"Error code {f.code}: {description f.code}"

/-- The error that the failure is. -/
def toError (f : Failure) : Error :=
  if f.code = uniqueCode ∨ f.code = primaryKeyCode then .uniqueViolation f.text
  else if f.code = foreignKeyCode then .foreignKeyViolation f.text
  else if f.code = checkCode then .checkViolation f.text
  else .backend f.text

end Failure

end Graft.Storage
