/-
Graft/Proofs/Dialogue/Simulation.lean

Executors that stand in front of others.

`Simulates f ex ex'` says that `ex'` answers as `ex` does, where `f` makes a
state of `ex'` of each state of `ex`.  That is a law of one statement.  Whole
dialogues follow by induction (`Simulates.run`): they end in the same result,
and `f` makes the last state of the one run of that of the other.  What
observers are told may differ.

What holds between the states before and after one statement, and does not stop
to hold when statements follow each other, holds between those before and after
a whole dialogue (`Moves.run`).

Each executor in front of another has one step lemma: a monitor passes
everything on (`simulates_monitored`), so does a handle, and an executor without
tags passes on everything but these (`simulates_untagged`).  To see what the
innermost one receives, it is run with a record of that (`Executor.recorded`),
which makes no difference either (`simulates_recorded`).

A monitor counts in words of 64 bits.  What moves is therefore said with exact
numbers beside the words (`Monitored.Later`): from it the counts are right
modulo 2 ^ 64 after any number of statements, and right and never falling as
long as a word can hold the number of statements (`Monitored.Fits`).
-/
import Graft.Monitor
import Graft.Proofs.Dialogue.Course

namespace Graft

variable {σ τ α : Type}

/-! ### Simulation -/

/-- One executor answers as another does, in the states that `f` makes of the states of that. -/
def Simulates (f : σ → τ) (ex : Executor σ) (ex' : Executor τ) : Prop :=
  ∀ st s, (ex' st (f s)).reply = (ex st s).reply ∧ (ex' st (f s)).state = f (ex st s).state

/-- A session of another executor that has drawn as many identifiers. -/
def Session.Shows (f : σ → τ) (s : Session σ) (t : Session τ) : Prop :=
  t.engine = f s.engine ∧ t.drawn = s.drawn

namespace Simulates

variable {f : σ → τ} {ex : Executor σ} {ex' : Executor τ}

/-- **Simulation of dialogues**, by induction over the statements that are sent. -/
theorem run (h : Simulates f ex ex') (ids : Nat → String) (d : Dialogue α) {s : Session σ}
    {t : Session τ} (hst : s.Shows f t) :
    (d.run ex' ids t).1 = (d.run ex ids s).1 ∧
      (d.run ex ids s).2.Shows f (d.run ex' ids t).2 := by
  -- Sessions that show each other stay so: the same replies come back and the same ids are drawn.
  induction d generalizing s t with
  | done a => exact ⟨rfl, hst⟩
  | send st next ih =>
    obtain ⟨hreply, hstate⟩ := h st s.engine
    rw [← hst.1] at hreply hstate
    simp only [Dialogue.run, hreply]
    apply ih
    exact ⟨hstate, hst.2⟩
  | tell e next ih =>
    apply ih
    exact hst
  | draw next ih =>
    obtain ⟨hengine, hdrawn⟩ := hst
    simp only [Dialogue.run, hdrawn]
    apply ih
    exact ⟨hengine, rfl⟩

end Simulates

/-! ### What statements do to a state -/

/-- Each statement leaves a state that is in some relation to the one before. -/
def Moves (ex : Executor σ) (R : σ → σ → Prop) : Prop :=
  ∀ st s, R s (ex st s).state

theorem Moves.run {ex : Executor σ} {R : σ → σ → Prop} (h : Moves ex R) (hrefl : ∀ s, R s s)
    (htrans : ∀ {r s t}, R r s → R s t → R r t) (ids : Nat → String) (d : Dialogue α)
    (s : Session σ) : R s.engine (d.run ex ids s).2.engine := by
  induction d generalizing s with
  | done a => exact hrefl _
  | send st next ih =>
    apply htrans (h st s.engine)
    rw [Dialogue.run]
    exact ih _ { s with
      engine := (ex st s.engine).state, events := s.events ++ (ex st s.engine).events }
  | tell e next ih =>
    rw [Dialogue.run]
    exact ih { s with events := s.events ++ [e] }
  | draw next ih =>
    rw [Dialogue.run]
    exact ih _ { s with drawn := s.drawn + 1 }

/-! ### Recording -/

/-- The state of an executor with a record of what was sent to it and how it replied. -/
structure Recorded (σ : Type) where
  inner : σ
  received : List Exchange := []

/-- An executor that keeps a record. -/
def Executor.recorded (ex : Executor σ) : Executor (Recorded σ) := fun st s =>
  let o := ex st s.inner
  { o with state := ⟨o.state, s.received ++ [⟨st, o.reply⟩]⟩ }

theorem simulates_recorded (ex : Executor σ) : Simulates Recorded.inner ex.recorded ex := by
  intro st s
  exact ⟨rfl, rfl⟩

/-! ### Monitors -/

theorem simulates_monitored (m : MonitorSettings) (ex : Executor σ) :
    Simulates Monitored.inner (ex.monitored m) ex := by
  intro st s
  exact ⟨rfl, rfl⟩

/-! ### What a monitor counts -/

/-- Some counts are no less than others. -/
instance : LE Counts where
  le c d := c.total ≤ d.total ∧ c.failed ≤ d.failed ∧ c.slow ≤ d.slow

/-- How many of some exchanges failed. -/
def failures (exchanges : List Exchange) : Nat :=
  exchanges.countP fun x => Reply.isFailure x.reply

theorem failures_append (xs ys : List Exchange) :
    failures (xs ++ ys) = failures xs + failures ys :=
  List.countP_append

theorem failures_le_length (exchanges : List Exchange) : failures exchanges ≤ exchanges.length :=
  List.countP_le_length

theorem failures_singleton (st : Statement) (reply : Reply) :
    failures [⟨st, reply⟩] = (Reply.isFailure reply).toNat := by
  cases reply <;> rfl

theorem toUInt64_eq_ofNat (b : Bool) : b.toUInt64 = UInt64.ofNat b.toNat := by
  cases b <;> rfl

namespace Monitored

variable {s t u : Monitored (Recorded σ)}

/-- What is received and counted from one state of a monitor to a later one: each exchange, each
that failed, and some of them as slow. -/
structure Advances (between : List Exchange) (late : Nat) (s t : Monitored (Recorded σ)) :
    Prop where
  received : t.inner.received = s.inner.received ++ between
  total : t.counts.total = s.counts.total + .ofNat between.length
  failed : t.counts.failed = s.counts.failed + .ofNat (failures between)
  slow : t.counts.slow = s.counts.slow + .ofNat late
  late_le : late ≤ between.length

/-- Some exchanges lie between two states, and the monitor has counted them. -/
def Later (s t : Monitored (Recorded σ)) : Prop :=
  ∃ between late, Advances between late s t

theorem later_refl (s : Monitored (Recorded σ)) : s.Later s :=
  ⟨[], 0, (List.append_nil _).symm, by simp, by simp [failures], by simp, Nat.le_refl 0⟩

theorem Later.trans (hst : s.Later t) (htu : t.Later u) : s.Later u := by
  obtain ⟨xs, m, hst⟩ := hst
  obtain ⟨ys, n, htu⟩ := htu
  refine ⟨xs ++ ys, m + n, ?_, ?_, ?_, ?_, ?_⟩
  · rw [htu.received, hst.received, List.append_assoc]
  · rw [htu.total, hst.total, List.length_append, UInt64.ofNat_add, UInt64.add_assoc]
  · rw [htu.failed, hst.failed, failures_append, UInt64.ofNat_add, UInt64.add_assoc]
  · rw [htu.slow, hst.slow, UInt64.ofNat_add, UInt64.add_assoc]
  · rw [List.length_append]
    exact Nat.add_le_add hst.late_le htu.late_le

/-- One statement is one exchange more. -/
theorem moves_later (m : MonitorSettings) (ex : Executor σ) :
    Moves (ex.recorded.monitored m) Later := by
  intro st s
  refine ⟨[⟨st, (ex st s.inner.inner).reply⟩], (m.isSlow (ex st s.inner.inner).elapsed).toNat,
    rfl, rfl, ?_, ?_, Bool.toNat_le _⟩
  · rw [failures_singleton, ← toUInt64_eq_ofNat]
    rfl
  · rw [← toUInt64_eq_ofNat]
    rfl

/-- The counts of a monitor are those of what was sent through it, as far as a word can hold them:
modulo 2 ^ 64. -/
structure Congruent (s : Monitored (Recorded σ)) : Prop where
  total : s.counts.total = .ofNat s.inner.received.length
  failed : s.counts.failed = .ofNat (failures s.inner.received)
  slow : ∃ n ≤ s.inner.received.length, s.counts.slow = .ofNat n

/-- The counts of a monitor are right for what was sent through it. -/
structure Right (s : Monitored (Recorded σ)) : Prop where
  total : s.counts.total.toNat = s.inner.received.length
  failed : s.counts.failed.toNat = failures s.inner.received
  slow : s.counts.slow ≤ s.counts.total

/-- A word can hold the number of the statements that were received. -/
def Fits (s : Monitored (Recorded σ)) : Prop :=
  s.inner.received.length < UInt64.size

/-- A monitor that starts with nothing received has counted what it has received since. -/
theorem Later.congruent {engine : σ} (h : Later { inner := { inner := engine } } s) :
    s.Congruent := by
  obtain ⟨between, late, h⟩ := h
  have hreceived : s.inner.received = between := h.received
  refine ⟨?_, ?_, late, ?_, ?_⟩
  · rw [h.total, hreceived, UInt64.zero_add]
  · rw [h.failed, hreceived, UInt64.zero_add]
  · exact hreceived ▸ h.late_le
  · rw [h.slow, UInt64.zero_add]

theorem Congruent.right (h : s.Congruent) (hfits : s.Fits) : s.Right := by
  obtain ⟨htotal, hfailed, n, hn, hslow⟩ := h
  have hfailures := failures_le_length s.inner.received
  have hlength : (UInt64.ofNat s.inner.received.length).toNat = s.inner.received.length :=
    UInt64.toNat_ofNat_of_lt' hfits
  refine ⟨?_, ?_, ?_⟩
  · rw [htotal, hlength]
  · rw [hfailed, UInt64.toNat_ofNat_of_lt' (Nat.lt_of_le_of_lt hfailures hfits)]
  · rw [hslow, htotal, UInt64.le_iff_toNat_le, hlength,
      UInt64.toNat_ofNat_of_lt' (Nat.lt_of_le_of_lt hn hfits)]
    exact hn

/-- A word that holds a number does not fall when more is added, as long as it can hold the sum. -/
theorem ofNat_le_add_ofNat {m n : Nat} (h : m + n < UInt64.size) :
    UInt64.ofNat m ≤ UInt64.ofNat m + UInt64.ofNat n := by
  rw [← UInt64.ofNat_add, UInt64.le_iff_toNat_le, UInt64.toNat_ofNat_of_lt' h,
    UInt64.toNat_ofNat_of_lt' (Nat.lt_of_le_of_lt (Nat.le_add_right m n) h)]
  exact Nat.le_add_right m n

/-- As long as words can hold them, no count falls. -/
theorem Later.counts_le (h : s.Later t) (hs : s.Congruent) (hfits : t.Fits) :
    s.counts ≤ t.counts := by
  obtain ⟨between, late, h⟩ := h
  obtain ⟨htotal, hfailed, n, hn, hslow⟩ := hs
  have hroom : s.inner.received.length + between.length < UInt64.size := by
    rw [← List.length_append, ← h.received]
    exact hfits
  -- No more statements fail or are slow than are sent, so no counter wraps before the total does.
  have hbefore := failures_le_length s.inner.received
  have hbetween := failures_le_length between
  have hmore := h.late_le
  refine ⟨?_, ?_, ?_⟩
  · rw [h.total, htotal]
    exact ofNat_le_add_ofNat hroom
  · rw [h.failed, hfailed]
    apply ofNat_le_add_ofNat
    omega
  · rw [h.slow, hslow]
    apply ofNat_le_add_ofNat
    omega

end Monitored

/-! ### Executors without tags -/

/-- A statement without its tag. -/
def Statement.bare (st : Statement) : Statement :=
  { st with tag? := none }

/-- The record without the tags in it. -/
def Recorded.bare (s : Recorded σ) : Recorded σ :=
  { s with received := s.received.map fun x => { x with statement := x.statement.bare } }

/-- An executor that takes no tags receives what one that takes them receives, without the tags. -/
theorem simulates_untagged (ex : Executor σ) :
    Simulates Recorded.bare ex.untagged.recorded ex.recorded.untagged := by
  intro st s
  refine ⟨rfl, ?_⟩
  simp [Executor.untagged, Executor.recorded, Recorded.bare, Statement.bare]

end Graft
