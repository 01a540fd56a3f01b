/-
Graft/Proofs/Dialogue/Course.lean

Courses of dialogues: which statements are sent, what is replied, and how the
dialogue ends.

    Course d es a      d may send the statements of `es`, in that order and
                       with those replies, and end in `a`

Nothing is assumed of the replies, so what holds of every course holds
whatever the engine answers.  A run on an executor takes one course
(`course_run`), whose exchanges are the `transcript` of the run.

A course of one dialogue after another falls into a course of each
(`course_bind_iff`).  `Action.Course` is the same for actions, where an error
ends the course (`Action.course_bind_iff`).  These two equivalences open every
chain and every embedding; no proof about courses unfolds a `do` block in any
other way.
-/
import Graft.Query.Sending
import Graft.Executor

namespace Graft

/-- A statement that was sent, with the reply to it. -/
structure Exchange where
  statement : Statement
  reply : Reply

namespace Dialogue

variable {α β σ : Type}

/-! ### Courses -/

/-- `Course d es a`: the dialogue `d` may have the exchanges `es`, in that order, and end in `a`. -/
inductive Course : Dialogue α → List Exchange → α → Prop
  | done (a : α) : Course (.done a) [] a
  | send {st : Statement} {next : Reply → Dialogue α} {es : List Exchange} {a : α}
      (reply : Reply) (h : Course (next reply) es a) :
      Course (.send st next) (⟨st, reply⟩ :: es) a
  | tell {e : Event} {next : Dialogue α} {es : List Exchange} {a : α}
      (h : Course next es a) : Course (.tell e next) es a
  | draw {next : String → Dialogue α} {es : List Exchange} {a : α}
      (id : String) (h : Course (next id) es a) : Course (.draw next) es a

theorem course_done_iff {a b : α} {es : List Exchange} :
    Course (.done a) es b ↔ es = [] ∧ b = a := by
  constructor
  · intro h
    cases h
    exact ⟨rfl, rfl⟩
  · rintro ⟨rfl, rfl⟩
    exact .done _

theorem course_send_iff {st : Statement} {next : Reply → Dialogue α} {es : List Exchange} {a : α} :
    Course (.send st next) es a ↔
      ∃ reply es', Course (next reply) es' a ∧ es = ⟨st, reply⟩ :: es' := by
  constructor
  · intro h
    cases h with
    | send reply h => exact ⟨reply, _, h, rfl⟩
  · rintro ⟨reply, es', h, rfl⟩
    exact .send reply h

theorem course_tell_iff {e : Event} {next : Dialogue α} {es : List Exchange} {a : α} :
    Course (.tell e next) es a ↔ Course next es a := by
  constructor
  · intro h
    cases h with
    | tell h => exact h
  · exact .tell

theorem course_draw_iff {next : String → Dialogue α} {es : List Exchange} {a : α} :
    Course (.draw next) es a ↔ ∃ id, Course (next id) es a := by
  constructor
  · intro h
    cases h with
    | draw id h => exact ⟨id, h⟩
  · rintro ⟨id, h⟩
    exact .draw id h

/-- A course of one dialogue after another is a course of the first and then one of the second. -/
theorem course_bind_iff {d : Dialogue α} {f : α → Dialogue β} {es : List Exchange} {b : β} :
    Course (d.bind f) es b ↔
      ∃ a es₁ es₂, Course d es₁ a ∧ Course (f a) es₂ b ∧ es = es₁ ++ es₂ := by
  -- `d` is followed to its end, where `f` goes on.
  induction d generalizing es with
  | done a =>
    constructor
    · intro h
      exact ⟨a, [], es, .done a, h, rfl⟩
    · rintro ⟨a', es₁, es₂, h₁, h₂, rfl⟩
      obtain ⟨rfl, rfl⟩ := course_done_iff.1 h₁
      exact h₂
  | send st next ih =>
    rw [bind, course_send_iff]
    constructor
    · rintro ⟨reply, es', h, rfl⟩
      obtain ⟨a, es₁, es₂, h₁, h₂, rfl⟩ := (ih reply).1 h
      exact ⟨a, ⟨st, reply⟩ :: es₁, es₂, .send reply h₁, h₂, rfl⟩
    · rintro ⟨a, es₁, es₂, h₁, h₂, rfl⟩
      obtain ⟨reply, es', hnext, rfl⟩ := course_send_iff.1 h₁
      exact ⟨reply, es' ++ es₂, (ih reply).2 ⟨a, es', es₂, hnext, h₂, rfl⟩, rfl⟩
  | tell e next ih =>
    rw [bind, course_tell_iff, ih]
    simp only [course_tell_iff]
  | draw next ih =>
    rw [bind, course_draw_iff]
    constructor
    · rintro ⟨id, h⟩
      obtain ⟨a, es₁, es₂, h₁, h₂, rfl⟩ := (ih id).1 h
      exact ⟨a, es₁, es₂, .draw id h₁, h₂, rfl⟩
    · rintro ⟨a, es₁, es₂, h₁, h₂, rfl⟩
      obtain ⟨id, h₁⟩ := course_draw_iff.1 h₁
      exact ⟨id, (ih id).2 ⟨a, es₁, es₂, h₁, h₂, rfl⟩⟩

/-- The results of a mapped dialogue are the mapped results. -/
theorem course_map_iff {d : Dialogue α} {f : α → β} {es : List Exchange} {b : β} :
    Course (f <$> d) es b ↔ ∃ a, Course d es a ∧ b = f a := by
  have h : f <$> d = d.bind fun a => .done (f a) := rfl
  rw [h, course_bind_iff]
  constructor
  · rintro ⟨a, es₁, es₂, h₁, h₂, rfl⟩
    obtain ⟨rfl, rfl⟩ := course_done_iff.1 h₂
    exact ⟨a, by simpa using h₁, rfl⟩
  · rintro ⟨a, h, rfl⟩
    exact ⟨a, es, [], h, .done _, by simp⟩

/-! ### Runs -/

/-- The exchanges of a run, in order. -/
def transcript (ex : Executor σ) (ids : Nat → String) : Dialogue α → Session σ → List Exchange
  | .done _, _ => []
  | .send st next, s =>
    let o := ex st s.engine
    ⟨st, o.reply⟩ ::
      (next o.reply).transcript ex ids { s with engine := o.state, events := s.events ++ o.events }
  | .tell e next, s => next.transcript ex ids { s with events := s.events ++ [e] }
  | .draw next, s => (next (ids s.drawn)).transcript ex ids { s with drawn := s.drawn + 1 }

/-- A run takes the course that its transcript tells. -/
theorem course_run (ex : Executor σ) (ids : Nat → String) (d : Dialogue α) (s : Session σ) :
    Course d (d.transcript ex ids s) (d.run ex ids s).1 := by
  induction d generalizing s with
  | done a => exact .done a
  | send st next ih => exact .send _ (ih _ _)
  | tell e next ih => exact .tell (ih _)
  | draw next ih => exact .draw _ (ih _ _)

/-- Every reply of a run is the executor's reply to that statement, in some state of it. -/
theorem reply_of_mem_transcript {ex : Executor σ} {ids : Nat → String} {d : Dialogue α}
    {s : Session σ} {x : Exchange} (hx : x ∈ d.transcript ex ids s) :
    ∃ engine, x.reply = (ex x.statement engine).reply := by
  induction d generalizing s with
  | done a => cases hx
  | send st next ih =>
    rcases List.mem_cons.1 hx with rfl | hx
    · exact ⟨s.engine, rfl⟩
    · exact ih _ hx
  | tell e next ih => exact ih hx
  | draw next ih => exact ih _ hx

end Dialogue

/-! ### Courses of actions -/

namespace Action

variable {α β : Type}

/-- `Course x es r`: the action `x` may have the exchanges `es`, in that order, and end in `r`. -/
def Course (x : Action α) (es : List Exchange) (r : Except Error α) : Prop :=
  Dialogue.Course x.run es r

theorem course_run {σ : Type} (ex : Executor σ) (ids : Nat → String) (x : Action α)
    (s : Session σ) :
    Course x (Dialogue.transcript ex ids x.run s) (Dialogue.run ex ids x.run s).1 :=
  Dialogue.course_run ex ids x.run s

/-- Every action has a course, for it can be run. -/
theorem exists_course (x : Action α) : ∃ es r, Course x es r :=
  ⟨_, _, course_run Executor.scripted (fun _ => "") x ⟨{}, 0, []⟩⟩

theorem course_pure_iff {a : α} {es : List Exchange} {r : Except Error α} :
    Course (pure a) es r ↔ es = [] ∧ r = .ok a :=
  Dialogue.course_done_iff

theorem course_throw_iff {e : Error} {es : List Exchange} {r : Except Error α} :
    Course (throw e) es r ↔ es = [] ∧ r = .error e :=
  Dialogue.course_done_iff

/-- A computation that may fail sends nothing. -/
theorem course_except_iff {x : Except Error α} {es : List Exchange} {r : Except Error α} :
    Course (liftM x) es r ↔ es = [] ∧ r = x := by
  cases x <;> exact Dialogue.course_done_iff

theorem course_tell_iff {e : Event} {es : List Exchange} {r : Except Error Unit} :
    Course (tell e) es r ↔ es = [] ∧ r = .ok () :=
  Dialogue.course_tell_iff.trans Dialogue.course_done_iff

theorem course_send_iff {st : Statement} {es : List Exchange} {r : Except Error (List Row)} :
    Course (send st) es r ↔ es = [⟨st, r⟩] := by
  constructor
  · intro h
    obtain ⟨reply, es', hdone, rfl⟩ := Dialogue.course_send_iff.1 h
    obtain ⟨rfl, rfl⟩ := Dialogue.course_done_iff.1 hdone
    rfl
  · rintro rfl
    exact .send r (.done r)

theorem course_dialogue_iff {d : Dialogue α} {es : List Exchange} {r : Except Error α} :
    Course (liftM d) es r ↔ ∃ a, Dialogue.Course d es a ∧ r = .ok a :=
  Dialogue.course_map_iff (f := Except.ok)

/-- An action after another is begun only if the first one did not end in an error. -/
theorem course_bind_iff {x : Action α} {f : α → Action β} {es : List Exchange}
    {r : Except Error β} :
    Course (x >>= f) es r ↔
      (∃ e, Course x es (.error e) ∧ r = .error e) ∨
        ∃ a es₁ es₂, Course x es₁ (.ok a) ∧ Course (f a) es₂ r ∧ es = es₁ ++ es₂ := by
  refine Dialogue.course_bind_iff.trans ?_
  constructor
  · rintro ⟨e | a, es₁, es₂, h₁, h₂, rfl⟩
    · obtain ⟨rfl, rfl⟩ := Dialogue.course_done_iff.1 h₂
      rw [List.append_nil]
      exact .inl ⟨e, h₁, rfl⟩
    · exact .inr ⟨a, es₁, es₂, h₁, h₂, rfl⟩
  · rintro (⟨e, h, rfl⟩ | ⟨a, es₁, es₂, h₁, h₂, rfl⟩)
    · exact ⟨.error e, es, [], h, .done _, by simp⟩
    · exact ⟨.ok a, es₁, es₂, h₁, h₂, rfl⟩

theorem course_mapError_iff {x : Action α} {f : Error → Error} {es : List Exchange}
    {r : Except Error α} :
    Course (mapError f x) es r ↔ ∃ r', Course x es r' ∧ r = r'.mapError f :=
  Dialogue.course_map_iff

/-! ### One action after another -/

theorem course_tell_bind_iff {e : Event} {f : Unit → Action β} {es : List Exchange}
    {r : Except Error β} : Course (tell e >>= f) es r ↔ Course (f ()) es r := by
  rw [course_bind_iff]
  constructor
  · rintro (⟨e', h, -⟩ | ⟨u, es₁, es₂, h₁, h₂, rfl⟩)
    · cases (course_tell_iff.1 h).2
    · obtain ⟨rfl, -⟩ := course_tell_iff.1 h₁
      exact h₂
  · intro h
    exact .inr ⟨(), [], es, course_tell_iff.2 ⟨rfl, rfl⟩, h, rfl⟩

/-- Whether an event is told makes no difference to what follows. -/
theorem course_ite_tell_bind_iff {c : Prop} [Decidable c] {e : Event} {f : Unit → Action β}
    {es : List Exchange} {r : Except Error β} :
    Course (if c then tell e >>= f else f ()) es r ↔ Course (f ()) es r := by
  split
  · exact course_tell_bind_iff
  · exact Iff.rfl

/-- What follows a computation that may fail is begun if it does not. -/
theorem course_except_bind_iff {x : Except Error α} {f : α → Action β} {es : List Exchange}
    {r : Except Error β} :
    Course (liftM x >>= f) es r ↔
      (∃ e, x = .error e ∧ es = [] ∧ r = .error e) ∨ ∃ a, x = .ok a ∧ Course (f a) es r := by
  rw [course_bind_iff]
  simp only [course_except_iff]
  constructor
  · rintro (⟨e, ⟨rfl, he⟩, rfl⟩ | ⟨a, es₁, es₂, ⟨rfl, ha⟩, h, rfl⟩)
    · exact .inl ⟨e, he.symm, rfl, rfl⟩
    · exact .inr ⟨a, ha.symm, h⟩
  · rintro (⟨e, he, rfl, rfl⟩ | ⟨a, ha, h⟩)
    · exact .inl ⟨e, ⟨rfl, he.symm⟩, rfl⟩
    · exact .inr ⟨a, [], es, ⟨rfl, ha.symm⟩, h, rfl⟩

/-- What follows a computation that did not fail is begun. -/
theorem course_except_bind_ok_iff {x : Except Error α} {a : α} {f : α → Action β} (hx : x = .ok a)
    {es : List Exchange} {r : Except Error β} :
    Course (liftM x >>= f) es r ↔ Course (f a) es r := by
  rw [course_except_bind_iff, hx]
  simp

/-- What follows a check of the chain is begun if the check finds nothing. -/
theorem course_check_bind_iff {x : Except Violation α} {f : α → Action β} {es : List Exchange}
    {r : Except Error β} :
    Course (liftM x >>= f) es r ↔
      (∃ v, x = .error v ∧ es = [] ∧ r = .error (.validation v)) ∨
        ∃ a, x = .ok a ∧ Course (f a) es r := by
  cases x with
  | error v =>
    have hlift : (liftM (Except.error v : Except Violation α) : Action α) =
        liftM (Except.error (.validation v) : Except Error α) := rfl
    rw [hlift, course_except_bind_iff]
    simp
  | ok a =>
    have hlift : (liftM (Except.ok a : Except Violation α) : Action α) =
        liftM (Except.ok a : Except Error α) := rfl
    rw [hlift, course_except_bind_iff]
    simp

/-- What follows a check that finds something is not begun. -/
theorem course_check_bind_error_iff {x : Except Violation α} {v : Violation} {f : α → Action β}
    (hx : x = .error v) {es : List Exchange} {r : Except Error β} :
    Course (liftM x >>= f) es r ↔ es = [] ∧ r = .error (.validation v) := by
  rw [course_check_bind_iff, hx]
  simp

/-- What follows a check that finds nothing is begun. -/
theorem course_check_bind_ok_iff {x : Except Violation α} {a : α} {f : α → Action β}
    (hx : x = .ok a) {es : List Exchange} {r : Except Error β} :
    Course (liftM x >>= f) es r ↔ Course (f a) es r := by
  rw [course_check_bind_iff, hx]
  simp

/-- A query is sent once, and what follows it is begun if the engine answers with rows. -/
theorem course_query_bind_iff {q : Query} {tag : String} {f : List Row → Action β}
    {es : List Exchange} {r : Except Error β} :
    Course (q.send tag >>= f) es r ↔
      (∃ e, es = [⟨q.statement tag, .error e⟩] ∧ r = .error e) ∨
        ∃ rows later, es = ⟨q.statement tag, .ok rows⟩ :: later ∧ Course (f rows) later r := by
  rw [Query.send, bind_assoc, course_tell_bind_iff, course_bind_iff]
  simp only [course_send_iff]
  constructor
  · rintro (⟨e, rfl, rfl⟩ | ⟨rows, es₁, later, rfl, h, rfl⟩)
    · exact .inl ⟨e, rfl, rfl⟩
    · exact .inr ⟨rows, later, rfl, h⟩
  · rintro (⟨e, rfl, rfl⟩ | ⟨rows, later, rfl, h⟩)
    · exact .inl ⟨e, rfl, rfl⟩
    · exact .inr ⟨rows, _, later, rfl, h, rfl⟩

/-- What is made of the result of an action, without sending anything. -/
theorem course_bind_pure_iff {x : Action α} {f : α → β} {es : List Exchange} {r : Except Error β} :
    Course (x >>= fun a => pure (f a)) es r ↔ ∃ r', Course x es r' ∧ r = r'.map f := by
  rw [course_bind_iff]
  simp only [course_pure_iff]
  constructor
  · rintro (⟨e, h, rfl⟩ | ⟨a, es₁, es₂, h, ⟨rfl, rfl⟩, rfl⟩)
    · exact ⟨.error e, h, rfl⟩
    · rw [List.append_nil]
      exact ⟨.ok a, h, rfl⟩
  · rintro ⟨e | a, h, rfl⟩
    · exact .inl ⟨e, h, rfl⟩
    · exact .inr ⟨a, es, [], h, ⟨rfl, rfl⟩, by simp⟩

end Action

end Graft
