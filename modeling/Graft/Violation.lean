/-
Graft/Violation.lean

Violations: the ways in which a chain of calls can fail to describe a
statement.

All of them are found by looking at the chain alone.  A violation found while
the chain is still being built is kept and reported when the chain runs, which
is what `deferred` stands for: its text repeats the heading of the first
report.
-/
import Graft.Value

namespace Graft

/-- Why a chain does not describe a statement. -/
inductive Violation where
  -- names
  | emptyName
  | nulInName
  | unclosedQuote (name : String)
  | emptySegment (name : String)
  | textAfterQuotes (name : String)
  | misquotedName (name : String)
  | invalidCharacter (name : String) (c : Char)
  -- select expressions
  | unopenedParenthesis (expr : String)
  | unclosedParenthesis (expr : String)
  | textAfterRelation (item : String)
  | unknownHint (hint table : String)
  -- filters
  | unknownOperator (text : String)
  | listExpected (column : String)
  -- payloads
  | payloadShape (found : Value.Shape)
  | payloadItemShape (index : Nat) (found : Value.Shape)
  | updateShape (found : Value.Shape)
  | nothingToSet (table : String)
  | noConflictColumn
  -- row windows
  | limitTooLarge (count : UInt64)
  | rangeReversed (first last : UInt64)
  | rangeTooLarge (first last : UInt64)
  /-- A violation found earlier and reported now. -/
  | deferred (earlier : Violation)
  /-- A violation in somebody else's words. -/
  | stated (text : String)
  deriving DecidableEq

namespace Violation

/-- What every report of a violation starts with. -/
def heading : String := "Validation error: "

/-- The greatest row count and the greatest row offset that an engine accepts. -/
def windowMax : UInt64 := 9223372036854775807

/-- The violation in words. -/
def text : Violation → String
  | .emptyName => "Identifier cannot be empty"
  | .nulInName => "Identifier cannot contain NUL character"
  | .unclosedQuote name => s!"Unclosed quoted identifier in '{name}'"
  | .emptySegment name => s!"Empty segment in identifier '{name}'"
  | .textAfterQuotes name => s!"Unexpected text after quotes in '{name}'"
  | .misquotedName name => s!"Malformed quoted identifier '{name}'"
  | .invalidCharacter name c => s!"Invalid character in identifier '{name}': '{c}'"
  | .unopenedParenthesis expr => s!"Unbalanced ')' in select expression '{expr}'"
  | .unclosedParenthesis expr => s!"Unbalanced '(' in select expression '{expr}'"
  | .textAfterRelation item =>
    s!"Unexpected text after relation in select expression: '{item}'"
  | .unknownHint hint table => s!"Unsupported relation hint '!{hint}' on '{table}'"
  | .unknownOperator text => s!"Unsupported filter operator '{text}'"
  | .listExpected column => s!"IN filter on '{column}' expects an array value"
  | .payloadShape found => s!"payload must be an object or an array of objects, got {found.name}"
  | .payloadItemShape index found => s!"payload item {index} must be an object, got {found.name}"
  | .updateShape found => s!"update() expects an object, got {found.name}"
  | .nothingToSet table => s!"update on '{table}' has no columns to set"
  | .noConflictColumn => "on_conflict() needs at least one column"
  | .limitTooLarge count => s!"limit({count}) exceeds {windowMax}"
  | .rangeReversed first last => s!"range({first}, {last}): end precedes start"
  | .rangeTooLarge first last => s!"range({first}, {last}) exceeds {windowMax} rows"
  | .deferred earlier => heading ++ earlier.text
  | .stated text => text

end Violation

end Graft
