/-
Graft/Proofs/Dialogue/Drawing.lean

Dialogues that only draw identifiers.

    Draws ids first d last a    where `first` identifiers of the source `ids`
                                are drawn already, `d` draws the next ones up
                                to `last`, does nothing else, and ends in `a`

A course does not tell where an identifier comes from.  This relation does, and
so says which identifiers of its source a run puts to use.  What follows such a
dialogue sends what it sends where its identifiers were drawn before
(`Draws.transcript_bind`).
-/
import Graft.Proofs.Dialogue.Course

namespace Graft

namespace Dialogue

variable {α β σ : Type} {ids : Nat → String}

/-! ### Drawing -/

/-- The dialogue draws the identifiers from `first` up to `last`, does nothing else, and ends in
`a`. -/
inductive Draws (ids : Nat → String) : Nat → Dialogue α → Nat → α → Prop
  | done (drawn : Nat) (a : α) : Draws ids drawn (.done a) drawn a
  | draw {first last : Nat} {next : String → Dialogue α} {a : α}
      (h : Draws ids (first + 1) (next (ids first)) last a) : Draws ids first (.draw next) last a

namespace Draws

variable {first middle last : Nat} {d : Dialogue α} {f : α → Dialogue β} {a : α} {b : β}

theorem bind (h : Draws ids first d middle a) (hf : Draws ids middle (f a) last b) :
    Draws ids first (d.bind f) last b := by
  induction h with
  | done drawn a => exact hf
  | draw _ ih => exact .draw (ih hf)

theorem transcript_bind (h : Draws ids first d last a) (ex : Executor σ) {s : Session σ}
    (hs : s.drawn = first) :
    (d.bind f).transcript ex ids s = (f a).transcript ex ids { s with drawn := last } := by
  induction h generalizing s with
  | done drawn a =>
    subst hs
    rfl
  | draw _ ih =>
    subst hs
    exact ih rfl

end Draws

/-! ### Runs of mapped dialogues -/

theorem run_map (f : α → β) (d : Dialogue α) (ex : Executor σ) (s : Session σ) :
    (f <$> d).run ex ids s = (f (d.run ex ids s).1, (d.run ex ids s).2) := by
  induction d generalizing s with
  | done a => rfl
  | send st next ih => exact ih _ _
  | tell e next ih => exact ih _
  | draw next ih => exact ih _ _

theorem transcript_map (f : α → β) (d : Dialogue α) (ex : Executor σ) (s : Session σ) :
    (f <$> d).transcript ex ids s = d.transcript ex ids s := by
  induction d generalizing s with
  | done a => rfl
  | send st next ih => exact congrArg _ (ih _ _)
  | tell e next ih => exact ih _
  | draw next ih => exact ih _ _

end Dialogue

/-! ### Actions that begin by drawing -/

namespace Action

variable {α β σ : Type} {ids : Nat → String} {first last : Nat} {d : Dialogue α} {a : α}
variable {f : α → Action β}

/-- A dialogue does not end in an error, so what follows it is begun. -/
theorem run_dialogue_bind (d : Dialogue α) (f : α → Action β) :
    (liftM d >>= f : Action β).run = d.bind fun a => (f a).run := by
  show Dialogue.bind (Dialogue.bind d _) _ = _
  rw [Dialogue.bind_assoc]
  rfl

theorem transcript_draws_bind (h : d.Draws ids first last a) (ex : Executor σ) {s : Session σ}
    (hs : s.drawn = first) :
    Dialogue.transcript ex ids (liftM d >>= f : Action β).run s =
      Dialogue.transcript ex ids (f a).run { s with drawn := last } := by
  rw [run_dialogue_bind]
  exact h.transcript_bind ex hs

end Action

end Graft
