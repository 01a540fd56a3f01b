/-
Graft/Event.lean

Events: what is told to an observer while chains run.

An event is what happened; its level, the part of the system it is about, its
message and its fields are read off it.
-/
import Graft.Error

namespace Graft

/-- How loud an event is. -/
inductive Level where
  | trace | debug | warn
  deriving DecidableEq

/-- What a statement does, by its leading keyword. -/
inductive StatementKind where
  | select | insert | update | delete | other
  deriving DecidableEq

/-- The kind as observers see it. -/
def StatementKind.name : StatementKind → String
  | .select => "Select"
  | .insert => "Insert"
  | .update => "Update"
  | .delete => "Delete"
  | .other => "Other"

/-- What an observer is told about a statement; the times are in microseconds. -/
structure StatementNote where
  kind : StatementKind
  tag : String
  elapsed : Nat
  /-- The statement, cut short if it is long. -/
  sql : String

/-- What happened. -/
inductive Event where
  /-- A statement is about to be sent. -/
  | dispatching (tag : String) (params : Nat)
  /-- A foreign key was guessed from a name that does not look like a plural. -/
  | doubtfulGuess (owner related foreignKey : String)
  /-- An inner join dropped owner rows. -/
  | innerFiltered (owner related : String) (dropped : Nat)
  /-- A chain has no statement, as one of its filters cannot be satisfied. -/
  | unsatisfiable (operation table column : String)
  /-- A chain has no statement, as it has nothing to insert. -/
  | emptyPayload (operation table : String)
  /-- A mutation reaches every row. -/
  | unfiltered (operation : Mutation) (table : String)
  | executed (note : StatementNote) (params rows : Nat)
  | failed (note : StatementNote) (params : Nat) (error : String)
  | slow (note : StatementNote) (threshold : Nat)

/-- The content of a field of an event. -/
inductive Field where
  | text (s : String)
  | count (n : Nat)

namespace Event

/-- How loud the event is. -/
def level : Event → Level
  | .innerFiltered .. => .trace
  | .unfiltered .. | .failed .. | .slow .. => .warn
  | _ => .debug

/-- The part of the system that the event is about. -/
def target : Event → String
  | .dispatching .. => "fluentql.qb"
  | .doubtfulGuess .. | .innerFiltered .. => "fluentql.relation"
  | _ => "fluentql.sql"

/-- The event in words. -/
def message : Event → String
  | .dispatching .. => "dispatching statement"
  | .doubtfulGuess _ _ foreignKey =>
    s!"owner table name does not look plural; inferring '{foreignKey}'"
  | .innerFiltered .. => "inner join filtered parents"
  | .unsatisfiable .. => "empty IN list matches nothing; skipping query"
  | .emptyPayload operation _ => s!"empty {operation} payload; skipping query"
  | .unfiltered .update _ => "UPDATE without filter: every row is affected"
  | .unfiltered .delete _ => "DELETE without filter: every row is removed"
  | .executed .. => "statement executed"
  | .failed .. => "statement failed"
  | .slow .. => "slow query"

/-- The fields that every event about a statement has. -/
def noteFields (n : StatementNote) : List (String × Field) :=
  [("query_type", .text n.kind.name), ("tag", .text n.tag), ("elapsed_us", .count n.elapsed),
    ("sql", .text n.sql)]

/-- The particulars of the event. -/
def fields : Event → List (String × Field)
  | .dispatching tag params => [("tag", .text tag), ("params", .count params)]
  | .doubtfulGuess owner related _ => [("owner", .text owner), ("related", .text related)]
  | .innerFiltered owner related dropped =>
    [("owner", .text owner), ("related", .text related), ("dropped", .count dropped)]
  | .unsatisfiable operation table column =>
    [("operation", .text operation), ("table", .text table), ("column", .text column)]
  | .emptyPayload _ table => [("table", .text table)]
  | .unfiltered _ table => [("table", .text table)]
  | .executed n params rows => noteFields n ++ [("params", .count params), ("rows", .count rows)]
  | .failed n params error => noteFields n ++ [("params", .count params), ("error", .text error)]
  | .slow n threshold => noteFields n ++ [("threshold_us", .count threshold)]

end Event

end Graft
