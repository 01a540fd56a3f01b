/-
Graft/Proofs/Dialogue/Alike.lean

Dialogues that an onlooker cannot tell apart by their first statement.

Two dialogues are alike if both first send a statement with the same text, or
neither sends anything and their results are related:

    Alike R d d'      up to the first statement; what is told and which
                      identifiers are drawn on the way does not count

What comes after the first statement is left open.  So it is not the courses of
two dialogues that are compared but their beginnings (`Alike.courses`), and to
compare one dialogue after another it is enough to compare the second ones for
related results of the first (`Alike.bind`).
-/
import Graft.Proofs.Dialogue.Course
import Mathlib.Data.List.Forall2

namespace Graft

/-! ### Computations that may fail -/

/-- Both computations succeed, with related results, or both fail with the same error. -/
inductive Agree {ε α β : Type} (R : α → β → Prop) : Except ε α → Except ε β → Prop
  | ok {a : α} {b : β} (h : R a b) : Agree R (.ok a) (.ok b)
  | error (e : ε) : Agree R (.error e) (.error e)

namespace Agree

variable {ε α β γ δ : Type} {R : α → β → Prop} {S : γ → δ → Prop}

/-- A computation agrees with itself. -/
theorem refl (x : Except ε α) : Agree Eq x x := by
  cases x with
  | error e => exact .error e
  | ok a => exact .ok rfl

theorem bind {x : Except ε α} {y : Except ε β} {f : α → Except ε γ} {g : β → Except ε δ}
    (h : Agree R x y) (hf : ∀ a b, R a b → Agree S (f a) (g b)) :
    Agree S (x >>= f) (y >>= g) := by
  cases h with
  | ok h => exact hf _ _ h
  | error e => exact .error e

/-- After the same computation, it is enough that what follows agrees. -/
theorem bind_same (x : Except ε α) {f : α → Except ε γ} {g : α → Except ε δ}
    (hf : ∀ a, Agree S (f a) (g a)) : Agree S (x >>= f) (x >>= g) := by
  refine (refl x).bind ?_
  rintro a _ rfl
  exact hf a

theorem map {x : Except ε α} {y : Except ε β} {f : α → γ} {g : β → δ} (h : Agree R x y)
    (hf : ∀ a b, R a b → S (f a) (g b)) : Agree S (x.map f) (y.map g) := by
  cases h with
  | ok h => exact .ok (hf _ _ h)
  | error e => exact .error e

theorem mono {R' : α → β → Prop} {x : Except ε α} {y : Except ε β} (h : Agree R x y)
    (hR : ∀ a b, R a b → R' a b) : Agree R' x y := by
  cases h with
  | ok h => exact .ok (hR _ _ h)
  | error e => exact .error e

/-- What is the same error stays so in other words. -/
theorem mapError {ε' : Type} {x : Except ε α} {y : Except ε β} (h : Agree R x y) (f : ε → ε') :
    Agree R (x.mapError f) (y.mapError f) := by
  cases h with
  | ok h => exact .ok h
  | error e => exact .error (f e)

/-- Violations are the same errors if they are the same violations. -/
theorem check {x : Except Violation α} {y : Except Violation β} (h : Agree R x y) :
    Agree R (liftM x : Except Error α) (liftM y : Except Error β) :=
  h.mapError Error.validation

/-- Traversals of lists agree that agree step by step. -/
theorem mapM {T : γ → δ → Prop} {f : α → Except ε γ} {g : β → Except ε δ} {as : List α}
    {bs : List β} (h : List.Forall₂ R as bs) (hf : ∀ a b, R a b → Agree T (f a) (g b)) :
    Agree (List.Forall₂ T) (as.mapM f) (bs.mapM g) := by
  induction h with
  | nil => exact .ok .nil
  | cons hab _ ih =>
    rw [List.mapM_cons, List.mapM_cons]
    refine (hf _ _ hab).bind fun c d hcd => ih.bind fun cs ds hrest => ?_
    exact .ok (.cons hcd hrest)

end Agree

namespace Dialogue

variable {α β γ δ : Type} {R : α → β → Prop} {S : γ → δ → Prop}

/-! ### Dialogues -/

/-- `Alike R d d'`: up to their first statement, which has the same text in both, or up to their
end, where the results are related by `R`, the dialogues differ only in what they tell and in the
identifiers that they draw. -/
inductive Alike (R : α → β → Prop) : Dialogue α → Dialogue β → Prop
  | done {a : α} {b : β} (h : R a b) : Alike R (.done a) (.done b)
  | send {st st' : Statement} {next : Reply → Dialogue α} {next' : Reply → Dialogue β}
      (h : st.sql = st'.sql) : Alike R (.send st next) (.send st' next')
  | tellLeft {e : Event} {d : Dialogue α} {d' : Dialogue β} (h : Alike R d d') :
      Alike R (.tell e d) d'
  | tellRight {e : Event} {d : Dialogue α} {d' : Dialogue β} (h : Alike R d d') :
      Alike R d (.tell e d')
  | drawLeft {next : String → Dialogue α} {d' : Dialogue β} (h : ∀ id, Alike R (next id) d') :
      Alike R (.draw next) d'
  | drawRight {d : Dialogue α} {next : String → Dialogue β} (h : ∀ id, Alike R d (next id)) :
      Alike R d (.draw next)

/-- Dialogues that begin alike and go on alike are alike. -/
theorem Alike.bind {d : Dialogue α} {d' : Dialogue β} {f : α → Dialogue γ} {g : β → Dialogue δ}
    (h : Alike R d d') (hf : ∀ a b, R a b → Alike S (f a) (g b)) :
    Alike S (d.bind f) (d'.bind g) := by
  induction h with
  | done h => exact hf _ _ h
  | send h => exact .send h
  | tellLeft _ ih => exact .tellLeft ih
  | tellRight _ ih => exact .tellRight ih
  | drawLeft _ ih => exact .drawLeft ih
  | drawRight _ ih => exact .drawRight ih

/-- The exchanges begin with statements of the same text. -/
def BeginAlike (es es' : List Exchange) : Prop :=
  ∃ x later x' later', es = x :: later ∧ es' = x' :: later' ∧ x.statement.sql = x'.statement.sql

/-- **Any two courses of dialogues that are alike** begin with statements of the same text, or have
no statement and related results. -/
theorem Alike.courses {d : Dialogue α} {d' : Dialogue β} {es es' : List Exchange} {a : α} {b : β}
    (h : Alike R d d') (hd : Course d es a) (hd' : Course d' es' b) :
    BeginAlike es es' ∨ es = [] ∧ es' = [] ∧ R a b := by
  -- What is told or drawn on one side alone is passed over, up to the first statements.
  induction h generalizing es es' with
  | done h =>
    obtain ⟨rfl, rfl⟩ := course_done_iff.1 hd
    obtain ⟨rfl, rfl⟩ := course_done_iff.1 hd'
    exact .inr ⟨rfl, rfl, h⟩
  | send h =>
    obtain ⟨reply, later, -, rfl⟩ := course_send_iff.1 hd
    obtain ⟨reply', later', -, rfl⟩ := course_send_iff.1 hd'
    exact .inl ⟨_, later, _, later', rfl, rfl, h⟩
  | tellLeft _ ih => exact ih (course_tell_iff.1 hd) hd'
  | tellRight _ ih => exact ih hd (course_tell_iff.1 hd')
  | drawLeft _ ih =>
    obtain ⟨id, hd⟩ := course_draw_iff.1 hd
    exact ih id hd hd'
  | drawRight _ ih =>
    obtain ⟨id, hd'⟩ := course_draw_iff.1 hd'
    exact ih id hd hd'

end Dialogue

/-! ### Actions -/

namespace Action

variable {α β γ δ : Type} {R : α → β → Prop} {S : γ → δ → Prop}

/-- The actions are alike, and where neither sends anything, they agree. -/
def Alike (R : α → β → Prop) (x : Action α) (y : Action β) : Prop :=
  Dialogue.Alike (Agree R) x.run y.run

theorem Alike.bind {x : Action α} {y : Action β} {f : α → Action γ} {g : β → Action δ}
    (h : Alike R x y) (hf : ∀ a b, R a b → Alike S (f a) (g b)) : Alike S (x >>= f) (y >>= g) := by
  refine Dialogue.Alike.bind h fun r r' hr => ?_
  cases hr with
  | ok h => exact hf _ _ h
  | error e => exact .done (.error e)

theorem alike_pure {a : α} {b : β} (h : R a b) : Alike R (pure a) (pure b) :=
  .done (.ok h)

theorem alike_except {x : Except Error α} {y : Except Error β} (h : Agree R x y) :
    Alike R (liftM x) (liftM y) := by
  cases h with
  | ok h => exact .done (.ok h)
  | error e => exact .done (.error e)

/-- What is found wrong with a chain is the same, if the checks agree. -/
theorem alike_check {x : Except Violation α} {y : Except Violation β} (h : Agree R x y) :
    Alike R (liftM x) (liftM y) := by
  cases h with
  | ok h => exact .done (.ok h)
  | error v => exact .done (.error (Error.validation v))

theorem alike_dialogue {d : Dialogue α} {d' : Dialogue β} (h : Dialogue.Alike R d d') :
    Alike R (liftM d) (liftM d') :=
  h.bind fun _ _ hab => .done (.ok hab)

theorem alike_tell_bind {e e' : Event} {x : Action α} {y : Action β} (h : Alike R x y) :
    Alike R (tell e >>= fun _ => x) (tell e' >>= fun _ => y) :=
  .tellLeft (.tellRight h)

/-- Queries with the same text, whatever is done with their rows. -/
theorem alike_query_bind {q q' : Query} (hsql : q.sql = q'.sql) (tag tag' : String)
    (f : List Row → Action α) (g : List Row → Action β) :
    Alike R (q.send tag >>= f) (q'.send tag' >>= g) :=
  .tellLeft (.tellRight (.send hsql))

end Action

end Graft
