/-
Graft/Proofs/Chain/Transparency.lean

Sessions through monitors and handles.

A session is a list of steps: chains, which may send any number of statements,
and statements that are sent as they are.  Whatever the executor answers, a
monitor in front of it makes no difference to it or to the one who asks: each
step has the same response, and the executor receives the same statements, with
the same tags and values and in the same order (`Session.transparent`).  An
executor without tags receives the same but for the tags.

After each step the counts of the monitor are right, modulo 2 ^ 64, for what the
executor has received so far.  As long as that is less than 2 ^ 64 statements
they are right as they stand, and none of them falls.

Both follow from the laws of one statement: that the executors answer alike is
carried through the session by `stages_simulates`, and how the state moves by
`pairwise_stages`.
-/
import Graft.Chain
import Graft.Proofs.Dialogue.Simulation

namespace Graft

namespace Session

variable {σ τ : Type}

/-! ### Steps -/

/-- A step of a session. -/
inductive Step where
  /-- A chain is run. -/
  | chain (client : Client) (chain : Chain)
  /-- A chain is run for its first row. -/
  | single (client : Client) (chain : Chain)
  /-- A statement is sent as it is. -/
  | direct (statement : Statement)

/-- The response to a step. -/
inductive Answer where
  | rows (response : Response (List Row))
  | row (response : Response Row)
  | reply (reply : Reply)

/-- What a step does. -/
def Step.dialogue : Step → Dialogue Answer
  | .chain client c => .rows <$> c.execute client
  | .single client c => .row <$> c.executeSingle client
  | .direct st => .reply <$> (Action.send st).run

/-- The response to each of some steps, with the state that the executor is in after it. -/
def stages (ex : Executor σ) (ids : Nat → String) : List Step → Session σ → List (Answer × σ)
  | [], _ => []
  | step :: rest, s =>
    let (answer, s') := step.dialogue.run ex ids s
    (answer, s'.engine) :: stages ex ids rest s'

/-! ### Whole sessions -/

/-- Where one executor answers as another does, it does so in whole sessions. -/
theorem stages_simulates {f : σ → τ} {ex : Executor σ} {ex' : Executor τ}
    (h : Simulates f ex ex') (ids : Nat → String) (steps : List Step) {s : Session σ}
    {t : Session τ} (hst : s.Shows f t) :
    stages ex' ids steps t = (stages ex ids steps s).map (Prod.map id f) := by
  induction steps generalizing s t with
  | nil => rfl
  | cons step rest ih =>
    obtain ⟨hanswer, hnext⟩ := h.run ids step.dialogue hst
    simp only [stages, List.map_cons, hanswer, ih hnext]
    rw [hnext.1]
    rfl

/-- What holds between the states before and after a statement holds between those before and after
any of the steps. -/
theorem pairwise_stages {ex : Executor σ} {R : σ → σ → Prop} (h : Moves ex R)
    (hrefl : ∀ s, R s s) (htrans : ∀ {r s t}, R r s → R s t → R r t) (ids : Nat → String)
    (steps : List Step) (s : Session σ) :
    (s.engine :: (stages ex ids steps s).map Prod.snd).Pairwise R := by
  induction steps generalizing s with
  | nil => exact List.pairwise_singleton R s.engine
  | cons step rest ih =>
    have hstep := h.run hrefl htrans ids step.dialogue s
    have hrest := ih (step.dialogue.run ex ids s).2
    refine List.pairwise_cons.2 ⟨fun engine hengine => ?_, hrest⟩
    rcases List.mem_cons.1 hengine with rfl | hengine
    · exact hstep
    · exact htrans hstep ((List.pairwise_cons.1 hrest).1 engine hengine)

/-- **Monitors and handles are transparent.**  Let an executor keep a record of what it receives,
which changes nothing.  Then a session has the same responses and leaves the same record, step by
step, if the executor is run as it is, behind a handle, or behind a monitor; without tags, it has
the same responses, and the record is the same but for the tags.  After each step the counts of the
monitor are right modulo 2 ^ 64.  As long as a word can hold the number of statements sent, they are
right, and never less than before. -/
theorem transparent (ex : Executor σ) (m : MonitorSettings) (ids : Nat → String)
    (steps : List Step) (engine : σ) :
    let start : Recorded σ := { inner := engine }
    let plain := stages ex.recorded ids steps { engine := start }
    let bare := (stages ex.untagged.recorded ids steps { engine := start }).map
      (Prod.map id Recorded.bare)
    let monitored := stages (ex.recorded.monitored m) ids steps { engine := { inner := start } }
    plain.map (Prod.map id Recorded.inner) = stages ex ids steps { engine } ∧
      monitored.map (Prod.map id Monitored.inner) = plain ∧
      stages ex.recorded.shared ids steps { engine := start } = plain ∧
      stages ex.recorded.untagged ids steps { engine := start } = bare ∧
      (stages (ex.recorded.untagged.monitored m) ids steps { engine := { inner := start } }).map
        (Prod.map id Monitored.inner) = bare ∧
      (∀ stage ∈ monitored, stage.2.Congruent ∧ (stage.2.Fits → stage.2.Right)) ∧
      ({ inner := start } :: monitored.map Prod.snd).Pairwise fun s t =>
        t.Fits → s.counts ≤ t.counts := by
  intro start plain bare monitored
  -- Each handle simulates what it wraps, so their stages agree by induction on the steps.
  have huntagged : stages ex.recorded.untagged ids steps { engine := start } = bare := by
    apply stages_simulates (simulates_untagged ex)
    exact ⟨rfl, rfl⟩
  have hmonitored : ∀ ex' : Executor (Recorded σ), stages ex' ids steps { engine := start } =
      (stages (ex'.monitored m) ids steps { engine := { inner := start } }).map
        (Prod.map id Monitored.inner) := by
    intro ex'
    apply stages_simulates (simulates_monitored m ex')
    exact ⟨rfl, rfl⟩
  have hplain : stages ex ids steps { engine } = plain.map (Prod.map id Recorded.inner) := by
    apply stages_simulates (simulates_recorded ex)
    exact ⟨rfl, rfl⟩
  -- What one statement moves a monitor on by adds up between any two stages.
  have hlater : ({ inner := start } :: monitored.map Prod.snd).Pairwise Monitored.Later :=
    pairwise_stages (Monitored.moves_later m ex) Monitored.later_refl Monitored.Later.trans ids
      steps { engine := { inner := start } }
  have hcongruent : ∀ s ∈ { inner := start } :: monitored.map Prod.snd, s.Congruent := by
    intro s hs
    rcases List.mem_cons.1 hs with rfl | hs
    · exact (Monitored.later_refl _).congruent
    · exact ((List.pairwise_cons.1 hlater).1 s hs).congruent
  refine ⟨hplain.symm, (hmonitored ex.recorded).symm, rfl, huntagged, ?_, ?_, ?_⟩
  · rw [← hmonitored, huntagged]
  · intro stage hstage
    have h := hcongruent _ (List.mem_cons_of_mem _ (List.mem_map_of_mem hstage))
    exact ⟨h, h.right⟩
  · exact hlater.imp_of_mem fun hs _ hst => hst.counts_le (hcongruent _ hs)

/-- A reply that is an error is counted as a failure, and a statement that took some time is slow
where none may take any. -/
example :
    (stages (Executor.scripted.monitored { slowThreshold? := some 0 }) (fun _ => "")
      [.direct ⟨none, "SELECT 1", []⟩, .direct ⟨some "second", "SELECT 2", []⟩]
      { engine := { inner := { replies := [.error (.backend "locked")] } } }).map
        (fun stage => stage.2.counts) = [⟨1, 1, 1⟩, ⟨2, 1, 2⟩] := rfl

end Session

end Graft
