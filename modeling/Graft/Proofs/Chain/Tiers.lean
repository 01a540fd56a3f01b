/-
Graft/Proofs/Chain/Tiers.lean

The topmost tier of a chain's answer.

A chain makes no rows out of nothing: if it answers with any, then its
statement was answered with rows (`Chain.makesNoRows_run`).  What it
answers with are the rows of a tier, whose expression is what the chain wants
of its rows (`Chain.exists_topmost`).  All tiers below are reached from that
one, so a law of all rows at all depths starts here.
-/
import Graft.Proofs.Chain.Sending
import Graft.Proofs.Embed.Tier

namespace Graft

/-! ### No rows out of nothing -/

namespace Action

variable {α : Type}

/-- If the action sends nothing, it makes no rows. -/
def MakesNoRows (x : Action (List Row)) : Prop :=
  ∀ rows, x.Course [] (.ok rows) → rows = []

theorem makesNoRows_bind {x : Action α} {f : α → Action (List Row)}
    (h : ∀ a, (f a).MakesNoRows) : (x >>= f).MakesNoRows := by
  intro rows hcourse
  obtain ⟨e, -, he⟩ | ⟨a, es₁, es₂, -, hf, hes⟩ := course_bind_iff.1 hcourse
  · cases he
  · obtain ⟨-, rfl⟩ := List.append_eq_nil_iff.1 hes.symm
    exact h a rows hf

/-- What is done with the answer to a query does not matter. -/
theorem makesNoRows_query_bind (q : Query) (tag : String) (f : List Row → Action (List Row)) :
    (q.send tag >>= f).MakesNoRows := by
  intro rows hcourse
  obtain ⟨e, hes, -⟩ | ⟨_, _, hes, -⟩ := course_query_bind_iff.1 hcourse <;> cases hes

theorem makesNoRows_pure : (pure [] : Action (List Row)).MakesNoRows := by
  intro rows hcourse
  cases (course_pure_iff.1 hcourse).2
  rfl

end Action

theorem Chain.makesNoRows_run (client : Client) (c : Chain) : (c.run client).MakesNoRows := by
  -- each verb either says that there is nothing to do, or comes to its query
  have htell : ∀ e : Event, (Action.tell e >>= fun _ => pure []).MakesNoRows :=
    fun e => Action.makesNoRows_bind fun _ => Action.makesNoRows_pure
  cases c with
  | select c =>
    refine Action.makesNoRows_bind fun _ => ?_
    cases c.filters.unsatisfiableColumn? with
    | some column => exact htell _
    | none => exact Action.makesNoRows_bind fun _ => Action.makesNoRows_query_bind _ _ _
  | insert c =>
    refine Action.makesNoRows_bind fun rows => ?_
    split
    · exact htell _
    · exact Action.makesNoRows_bind fun _ => Action.makesNoRows_bind fun _ =>
        Action.makesNoRows_query_bind _ _ _
  | upsert c =>
    refine Action.makesNoRows_bind fun _ => Action.makesNoRows_bind fun rows => ?_
    split
    · exact htell _
    · exact Action.makesNoRows_bind fun _ => Action.makesNoRows_bind fun _ =>
        Action.makesNoRows_query_bind _ _ _
  | update c =>
    refine Action.makesNoRows_bind fun _ => Action.makesNoRows_bind fun _ =>
      Action.makesNoRows_bind fun _ => ?_
    cases c.filters.unsatisfiableColumn? with
    | some column => exact htell _
    | none => exact Action.makesNoRows_bind fun _ => Action.makesNoRows_query_bind _ _ _
  | delete c =>
    refine Action.makesNoRows_bind fun _ => Action.makesNoRows_bind fun _ => ?_
    cases c.filters.unsatisfiableColumn? with
    | some column => exact htell _
    | none => exact Action.makesNoRows_bind fun _ => Action.makesNoRows_query_bind _ _ _

/-! ### The topmost tier -/

/-- `c.Topmost client es rows base`: the chain has sent the statement of a plan, and answers with
rows of the tier `base`, which are made of the rows in reply. -/
structure Chain.Topmost (client : Client) (c : Chain) (es : List Exchange) (rows : List Row)
    (base : Tier) : Prop where
  table : base.table = c.table
  wanted : c.wanted? = some base.expr
  first : ∃ plan later, c.Plans client plan ∧ es = ⟨plan.statement, .ok base.replied⟩ :: later
  sound : ∃ s, base.Sound client es s
  has : ∀ row ∈ rows, base.Has row

/-- **Rows of a tier.**  The rows that a chain answers with, if any, are those of its topmost
tier. -/
theorem Chain.exists_topmost {client : Client} {c : Chain} {es : List Exchange} {rows : List Row}
    (h : (c.run client).Course es (.ok rows)) :
    rows = [] ∨ ∃ base, c.Topmost client es rows base := by
  by_cases hes : es = []
  · subst hes
    exact .inl (c.makesNoRows_run client rows h)
  · obtain ⟨plan, hplan, hcarry⟩ := (course_run_iff hes).1 h
    obtain ⟨e, -, he⟩ | ⟨replied, later, rfl, hfinish⟩ := Plan.course_carryOut_iff.1 hcarry
    · cases he
    · obtain ⟨-, hnone⟩ | ⟨expr, projection, hexpr, hprojection, hcompile⟩ :=
        hplan.projection_of_wanted?
      · cases ((Plan.course_finish_none_iff hnone).1 hfinish).2
        exact .inl rfl
      · obtain ⟨embedded, hembed, hrows⟩ := (Plan.course_finish_iff hprojection).1 hfinish
        obtain ⟨s, columns, hparse, -, rfl⟩ := Projection.compile_eq_ok_iff.1 hcompile
        cases embedded with
        | error e => cases hrows
        | ok embedded =>
          cases hrows
          rw [hplan.table_eq] at hembed
          obtain ⟨account, haccount⟩ := Embed.exists_tells hembed
          -- The base rows are a tier: the first statement fetched them, the later ones filled them.
          have hsound : Tier.Sound client (⟨plan.statement, .ok replied⟩ :: later)
              ⟨c.table, expr, replied, embedded,
                (s.ensure (client.keyColumns c.table s.relations)).2, account⟩ s :=
            { parse := hparse
              helpers := ⟨none, rfl⟩
              answered := ⟨_, List.mem_cons_self⟩
              tells := ⟨later, fun x hx => List.mem_cons_of_mem _ hx, haccount⟩ }
          refine .inr ⟨_, rfl, hexpr, ⟨plan, later, hplan, rfl⟩, ⟨s, hsound⟩, ?_⟩
          intro row hrow
          obtain ⟨q, hq, rfl⟩ := List.mem_map.1 hrow
          exact ⟨q, hq, rfl⟩

/-- `c.Everywhere client es rows P`: at every depth, the rows of the answer and those embedded in
them are on tiers of the course, and satisfy `P` there. -/
def Chain.Everywhere (client : Client) (c : Chain) (es : List Exchange) (rows : List Row)
    (P : Tier → Selection → Row → Prop) : Prop :=
  rows = [] ∨ ∃ base, c.Topmost client es rows base ∧ ∀ row ∈ rows, ∀ t r, base.Embeds row t r →
    ∃ s, t.Sound client es s ∧ P t s r

/-- **From one tier to all rows.**  What holds of the rows of every tier of a course holds of all
rows that a chain without an error answers with, and of all that are embedded in these, at any
depth; be it run for all its rows or for a single one. -/
theorem Chain.everywhere {client : Client} {c : Chain} {es : List Exchange}
    {P : Tier → Selection → Row → Prop}
    (hP : ∀ t s, t.Sound client es s → ∀ r, t.Has r → P t s r) :
    (∀ response, (c.execute client).Course es response → response.error? = none →
      ∃ rows, response = .ran (some rows) ∧ c.Everywhere client es rows P) ∧
    ∀ response, (c.executeSingle client).Course es response → response.error? = none →
      ∃ rows : List Row, response = .ran rows.head? ∧ c.forSingle.Everywhere client es rows P := by
  -- Both ways to execute a chain come down to a run.
  have hrun : ∀ {c : Chain} {rows : List Row}, (c.run client).Course es (.ok rows) →
      c.Everywhere client es rows P := by
    intro c rows h
    obtain rfl | ⟨base, hbase⟩ := exists_topmost h
    · exact .inl rfl
    · refine .inr ⟨base, hbase, fun row hrow t r hembeds => ?_⟩
      obtain ⟨s, hs⟩ := hbase.sound
      obtain ⟨hhas, s', hs'⟩ := hembeds.sound (hbase.has row hrow) hs
      exact ⟨s', hs', hP t s' hs' r hhas⟩
  constructor
  · intro response h hok
    obtain ⟨e | rows, hcourse, rfl⟩ := course_execute_iff.1 h
    · cases hok
    · exact ⟨rows, rfl, hrun hcourse⟩
  · intro response h hok
    obtain ⟨e | rows, hcourse, rfl⟩ := course_executeSingle_iff.1 h
    · cases hok
    · exact ⟨rows, rfl, hrun hcourse⟩

end Graft
