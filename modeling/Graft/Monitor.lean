/-
Graft/Monitor.lean

Monitoring: an executor that observes another.

Every statement is passed on as it is and its reply is passed back as it is.
The monitor counts the statements, those that failed and those that were slow,
and tells of each: that it was executed or that it failed, and that it was slow.
In what it tells, long statements are cut short at a whole character.
-/
import Graft.Executor
import Graft.Text.Blank

namespace Graft

/-! ### Kinds of statements -/

/-- The kind of statement that starts with a keyword in lower case. -/
def StatementKind.ofKeyword : String → StatementKind
  | "select" => .select
  | "insert" => .insert
  | "update" => .update
  | "delete" => .delete
  | _ => .other

/-- The kind of a statement, by the keyword before the first blank or parenthesis. -/
def StatementKind.ofSql (sql : String) : StatementKind :=
  let keyword := (Text.trimStart sql.toList).takeWhile fun c => !(Text.isBlank c || c == '(')
  ofKeyword (String.ofList (keyword.map Char.toLower))

/-! ### Cutting texts short -/

/-- The length of a text in bytes of UTF-8. -/
def byteLength : List Char → Nat
  | [] => 0
  | c :: rest => c.utf8Size + byteLength rest

/-- The longest start of a text that takes up at most so many bytes. -/
def takeBytes : Nat → List Char → List Char
  | _, [] => []
  | room, c :: rest =>
    if c.utf8Size ≤ room then c :: takeBytes (room - c.utf8Size) rest else []

/-- A text cut short after so many bytes, with three dots where it was cut. -/
def abbreviate (max : Nat) (text : String) : String :=
  if byteLength text.toList ≤ max then text
  else String.ofList (takeBytes max text.toList) ++ "..."

/-! ### The monitor -/

/-- What a monitor tells, and when. -/
structure MonitorSettings where
  /-- A statement that takes longer than so many microseconds is slow. -/
  slowThreshold? : Option Nat := none
  /-- Longer statements are cut short, in bytes. -/
  maxSqlLength? : Option Nat := some 200
  /-- Whether statements that neither failed nor were slow are told of. -/
  logStatements : Bool := true

/-- How many statements there were, in words of 64 bits that start again from zero when they are
full. -/
structure Counts where
  total : UInt64 := 0
  failed : UInt64 := 0
  slow : UInt64 := 0
  deriving DecidableEq

/-- The state of a monitored executor. -/
structure Monitored (σ : Type) where
  inner : σ
  counts : Counts := {}

namespace MonitorSettings

/-- A statement as it is told of. -/
def displaySql (m : MonitorSettings) (sql : String) : String :=
  match m.maxSqlLength? with
  | some max => abbreviate max sql
  | none => sql

/-- What is told of a statement. -/
def note (m : MonitorSettings) (st : Statement) (elapsed : Nat) : StatementNote where
  kind := .ofSql st.sql
  tag := st.tag?.getD "-"
  elapsed := elapsed
  sql := m.displaySql st.sql

/-- Whether a statement was slow. -/
def isSlow (m : MonitorSettings) (elapsed : Nat) : Bool :=
  m.slowThreshold?.any (· < elapsed)

/-- What is told of a reply. -/
def replyEvents (m : MonitorSettings) (st : Statement) (elapsed : Nat) : Reply → List Event
  | .ok rows =>
    if m.logStatements then [.executed (m.note st elapsed) st.params.length rows.length] else []
  | .error e => [.failed (m.note st elapsed) st.params.length e.message]

/-- What is told of a slow statement. -/
def slowEvents (m : MonitorSettings) (st : Statement) (elapsed : Nat) : List Event :=
  match m.slowThreshold? with
  | some threshold => if threshold < elapsed then [.slow (m.note st elapsed) threshold] else []
  | none => []

end MonitorSettings

/-- The counts after one more statement. -/
def Counts.add (c : Counts) (failed slow : Bool) : Counts where
  total := c.total + 1
  failed := c.failed + failed.toUInt64
  slow := c.slow + slow.toUInt64

/-- Whether a reply is an error. -/
def Reply.isFailure : Reply → Bool
  | .ok _ => false
  | .error _ => true

/-- An executor with a monitor in front of it. -/
def Executor.monitored {σ : Type} (m : MonitorSettings) (ex : Executor σ) :
    Executor (Monitored σ) := fun st s =>
  let o := ex st s.inner
  { reply := o.reply
    elapsed := o.elapsed
    events := o.events ++ m.replyEvents st o.elapsed o.reply ++ m.slowEvents st o.elapsed
    state := {
      inner := o.state
      counts := s.counts.add (Reply.isFailure o.reply) (m.isSlow o.elapsed) } }

end Graft
