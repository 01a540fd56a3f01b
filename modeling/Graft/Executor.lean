/-
Graft/Executor.lean

Executors: what answers the statements of a dialogue.

An executor is a step: it takes a statement and its own state, and gives a
reply, the time it took, what it tells observers, and its next state.  Running a
dialogue on an executor follows the one course of the dialogue that the replies
pick out.

`scripted` answers from a list that was written beforehand.  `shared` and
`untagged` stand in front of another executor: the one passes everything on, the
other leaves the tags out.
-/
import Graft.Dialogue

namespace Graft

/-! ### Executors -/

/-- What comes of one statement. -/
structure Outcome (σ : Type) where
  reply : Reply
  /-- How long the statement took, in microseconds. -/
  elapsed : Nat
  events : List Event
  state : σ

/-- Something that answers statements. -/
abbrev Executor (σ : Type) := Statement → σ → Outcome σ

/-- The state of a run: that of the executor, and what has happened so far. -/
structure Session (σ : Type) where
  engine : σ
  /-- How many fresh identifiers were drawn. -/
  drawn : Nat := 0
  /-- What observers were told, in order. -/
  events : List Event := []

variable {σ α : Type}

/-- Runs a dialogue on an executor; `ids` is the source of fresh identifiers. -/
def Dialogue.run (ex : Executor σ) (ids : Nat → String) : Dialogue α → Session σ → α × Session σ
  | .done a, s => (a, s)
  | .send st next, s =>
    let o := ex st s.engine
    (next o.reply).run ex ids { s with engine := o.state, events := s.events ++ o.events }
  | .tell e next, s => next.run ex ids { s with events := s.events ++ [e] }
  | .draw next, s => (next (ids s.drawn)).run ex ids { s with drawn := s.drawn + 1 }

/-! ### Kinds of executors -/

/-- The state of a scripted executor. -/
structure Script where
  /-- The replies that are still to be given. -/
  replies : List Reply := []
  /-- The statements that came, in order. -/
  received : List Statement := []

namespace Executor

/-- Answers with prepared replies, and with no rows when these are used up. -/
def scripted : Executor Script := fun st s =>
  { reply := s.replies.head?.getD (.ok [])
    elapsed := 1
    events := []
    state := { replies := s.replies.tail, received := s.received ++ [st] } }

/-- An executor behind a handle that several clients may hold. -/
def shared (ex : Executor σ) : Executor σ := fun st s => ex st s

/-- An executor that takes no tags. -/
def untagged (ex : Executor σ) : Executor σ := fun st s => ex { st with tag? := none } s

end Executor

end Graft
