/-
Graft/Dialogue.lean

Dialogues between a chain and the engine.

Running a chain may send statements, each of which is answered before the next
is made, may tell an observer about events, and may ask for fresh identifiers.
A dialogue is the tree of all its possible courses: what happens next, for each
answer that may come.  No engine occurs in it, so what holds of every path of
the tree holds whatever the engine answers.

`Action` is a dialogue that may end in an error.  An error that the engine
answers ends the action unless it is caught.
-/
import Graft.Event
import Graft.Row

namespace Graft

/-! ### Statements and replies -/

/-- A statement as it is sent: its text and the values for its question marks. -/
structure Statement where
  /-- What the statement is for, for observers; a bare statement has none. -/
  tag? : Option String
  sql : String
  params : List Value

/-- The engine's answer to a statement. -/
abbrev Reply := Except Error (List Row)

/-! ### Dialogues -/

/-- The possible courses of a computation that talks to an engine. -/
inductive Dialogue (α : Type) where
  | done (result : α)
  | send (statement : Statement) (next : Reply → Dialogue α)
  | tell (event : Event) (next : Dialogue α)
  | draw (next : String → Dialogue α)

namespace Dialogue

variable {α β γ : Type}

/-- One dialogue after another. -/
def bind : Dialogue α → (α → Dialogue β) → Dialogue β
  | .done a, f => f a
  | .send s next, f => .send s fun r => (next r).bind f
  | .tell e next, f => .tell e (next.bind f)
  | .draw next, f => .draw fun id => (next id).bind f

instance : Monad Dialogue where
  pure := .done
  bind := bind

theorem bind_done (d : Dialogue α) : d.bind .done = d := by
  induction d with
  | done a => rfl
  | send s next ih => simp [bind, ih]
  | tell e next ih => simp [bind, ih]
  | draw next ih => simp [bind, ih]

theorem bind_assoc (d : Dialogue α) (f : α → Dialogue β) (g : β → Dialogue γ) :
    (d.bind f).bind g = d.bind fun a => (f a).bind g := by
  induction d with
  | done a => rfl
  | send s next ih => simp [bind, ih]
  | tell e next ih => simp [bind, ih]
  | draw next ih => simp [bind, ih]

instance : LawfulMonad Dialogue :=
  LawfulMonad.mk' Dialogue bind_done (fun _ _ => rfl) bind_assoc

end Dialogue

/-! ### Actions -/

/-- A dialogue that may end in an error. -/
abbrev Action := ExceptT Error Dialogue

namespace Action

/-- Sends a statement; an error in reply ends the action. -/
def send (s : Statement) : Action (List Row) :=
  ExceptT.mk (.send s .done)

/-- Tells an event. -/
def tell (e : Event) : Action Unit :=
  ExceptT.lift (.tell e (.done ()))

/-- The same action, with another error in the place of the one it ends in. -/
def mapError {α : Type} (f : Error → Error) (x : Action α) : Action α :=
  ExceptT.mk (Except.mapError f <$> x.run)

end Action

/-- A fresh identifier. -/
def Dialogue.fresh : Dialogue String :=
  .draw .done

end Graft
