/-
Graft/Proofs/Chain/Frame.lean

What a chain makes of the rows that its statement is answered with.

A chain asks for the columns of its select expression and for some more, the
helpers, which its relations are matched by (`Selection.appending`).  It embeds
the relations in the rows of the answer and takes the helpers out again.  So a
row that the chain answers with is a row of the answer

    with the field of each request set, in the order of the requests,
    and then without the helpers.

`Row.Reworked` says this of one row, with what it means for every cell and for
the order of the columns; `Selection.Finishes` says it of all rows, and which of
them are left out.  `Chain.rows_framed` is the law for chains of every verb.
-/
import Graft.Proofs.Chain.Sending
import Graft.Proofs.Embed.Frame
import Graft.Proofs.Selection.Items

namespace Graft

/-! ### Answered columns -/

/-- The columns of the rows that a statement answers with, if it answers with any. -/
def Query.answered? : Query → Option (List Column)
  | .select columns _ _ _ _ => some columns
  | .insert _ _ _ _ returning => some returning
  | .update _ _ _ returning => some returning
  | .delete _ _ returning? => returning?

/-- The statement of a plan answers with the columns of its projection. -/
theorem Chain.Plans.answered?_eq {client : Client} {c : Chain} {plan : Plan}
    (h : c.Plans client plan) :
    plan.query.answered? = plan.projection?.map (·.columns) := by
  cases h with
  | select _ _ hcompile =>
    obtain ⟨_, _, _, -, -, -, -, rfl⟩ := SelectChain.compile_eq_ok_iff.1 hcompile
    rfl
  | insert _ _ _ hcompile =>
    obtain ⟨_, -, -, rfl⟩ := InsertChain.compile_eq_ok_iff.1 hcompile
    rfl
  | upsert _ _ _ _ hcompile =>
    obtain ⟨_, _, _, -, -, -, -, rfl⟩ := UpsertChain.compile_eq_ok_iff.1 hcompile
    rfl
  | update _ _ _ _ hcompile =>
    obtain ⟨_, _, _, -, -, -, -, -, rfl⟩ := UpdateChain.compile_eq_ok_iff.1 hcompile
    rfl
  | delete _ _ _ hcompile =>
    obtain ⟨_, _, -, -, -, rfl⟩ := DeleteChain.compile_eq_ok_iff.1 hcompile
    rfl

/-! ### Finished rows -/

/-- `out` is `row` with some cells set, one after the other, and then without the helpers: it has
none of the helpers, what was set last under every other name that was set, and what the row had
under all the rest; and the columns of the row keep their order. -/
structure Row.Reworked (cells : List (String × Value)) (helpers : List String)
    (row out : Row) : Prop where
  eq_eraseAll : out = (row.setAll cells).eraseAll helpers
  get?_eq : ∀ k, out.get? k =
    if k ∈ helpers then none else (cells.reverse.lookup k).or (row.get? k)
  keys : (row.keys.filter fun k => !helpers.contains k) <+: out.keys

theorem Row.reworked (cells : List (String × Value)) (helpers : List String) (row : Row) :
    Reworked cells helpers row ((row.setAll cells).eraseAll helpers) where
  eq_eraseAll := rfl
  get?_eq k := by rw [get?_eraseAll, get?_setAll]
  keys := by
    rw [keys_eraseAll]
    exact (row.keys_prefix_setAll cells).filter _

/-- What a selection with helpers makes of the rows of an answer: it keeps some of them, in their
order, or all of them if no relation is for an inner join, sets the fields of the relations, and
takes the helpers out.  Without relations it leaves the rows as they are. -/
structure Selection.Finishes (s : Selection) (helpers : List String) (replied rows : List Row) :
    Prop where
  framed : ∃ kept : List Row, kept.Sublist replied ∧
    ((∀ request ∈ s.relations, request.inner = false) → kept = replied) ∧
    List.Forall₂ (fun row out => ∃ cells : List (String × Value),
      cells.map (·.1) = s.relations.map Request.field ∧ Row.Reworked cells helpers row out)
      kept rows
  unchanged : s.relations = [] → rows = replied

section

variable {client : Client} {plan : Plan} {projection : Projection} {replied rows : List Row}
variable {later : List Exchange} {s : Selection}

/-- Finishing the rows of an answer does what the selection of the plan says. -/
theorem Plan.finishes_of_course_finish (hprojection : plan.projection? = some projection)
    (hnesting : projection.nesting = .ofRequests s.relations)
    (hhelpers : s.relations = [] → projection.helpers = [])
    (h : (plan.finish client replied).Course later (.ok rows)) :
    s.Finishes projection.helpers replied rows := by
  obtain ⟨embedded, hembed, hrows⟩ := (course_finish_iff hprojection).1 h
  cases embedded with
  | error e => cases hrows
  | ok embedded =>
    cases hrows
    rw [hnesting] at hembed
    constructor
    -- Fields are set and helpers erased row by row, over the rows that are kept.
    · obtain ⟨kept, hsub, hall, hcells⟩ := Embed.frame_embedAll hembed
      rw [Nesting.requests_ofRequests] at hall
      refine ⟨kept, hsub, hall, List.forall₂_map_right_iff.2 (hcells.imp ?_)⟩
      rintro row out ⟨cells, hfields, rfl⟩
      rw [Nesting.fields_eq, Nesting.requests_ofRequests] at hfields
      exact ⟨cells, hfields, row.reworked cells projection.helpers⟩
    -- Without relations nothing is embedded, and there is no helper to erase.
    · intro hnone
      rw [hnone, Nesting.ofRequests_nil] at hembed
      obtain ⟨-, hout⟩ := Action.course_pure_iff.1 hembed
      cases hout
      rw [hhelpers hnone]
      exact List.map_id _

end

/-! ### The law -/

/-- `c.Framed client expr es rows`: the chain has sent the statement of a plan, which asks for the
columns of the expression with the helpers appended, and has made the rows of the answer. -/
def Chain.Framed (client : Client) (c : Chain) (expr : String) (es : List Exchange)
    (rows : List Row) : Prop :=
  ∃ (plan : Plan) (replied : List Row) (later : List Exchange) (s : Selection)
      (helpers : List String) (columns : List Column),
    c.Plans client plan ∧ es = ⟨plan.statement, .ok replied⟩ :: later ∧
    Selection.parse expr = .ok s ∧
    s.ensure (client.keyColumns c.table s.relations) = (s.appending helpers, helpers) ∧
    (s.appending helpers).columns = .ok columns ∧ plan.query.answered? = some columns ∧
    s.Finishes helpers replied rows

section

variable {client : Client} {c : Chain} {expr : String} {es : List Exchange} {rows : List Row}

theorem Chain.framed_of_course_run (hwanted : c.wanted? = some expr) (hes : es ≠ [])
    (h : (c.run client).Course es (.ok rows)) : c.Framed client expr es rows := by
  obtain ⟨plan, hplan, hcarry⟩ := (course_run_iff hes).1 h
  obtain ⟨e, -, he⟩ | ⟨replied, later, rfl, hfinish⟩ := Plan.course_carryOut_iff.1 hcarry
  · cases he
  · obtain ⟨hnone, -⟩ | ⟨expr', projection, hexpr, hprojection, hcompile⟩ :=
      hplan.projection_of_wanted?
    · rw [hwanted] at hnone
      cases hnone
    · obtain rfl := Option.some.inj (hwanted.symm.trans hexpr)
      obtain ⟨s, columns, hparse, hcolumns, rfl⟩ := Projection.compile_eq_ok_iff.1 hcompile
      -- the helpers are what `ensure` reports, and so what it appends
      have hensure := s.ensure_eq_appending (client.keyColumns c.table s.relations)
      refine ⟨plan, replied, later, s, _, columns, hplan, rfl, hparse, hensure, ?_, ?_, ?_⟩
      · rw [← hcolumns, congrArg Prod.fst hensure]
      · rw [hplan.answered?_eq, hprojection]
        rfl
      · refine Plan.finishes_of_course_finish hprojection rfl (fun hnone => ?_) hfinish
        rw [hnone]
        rfl

/-- **Rows are framed.**  Let a chain want something of its rows and have sent its statement.  If it
does not end in an error, it answers with rows of the reply to that statement, in their order, with
the fields of its relations set and the helper columns taken out; run for a single row, it answers
with the first of them. -/
theorem Chain.rows_framed (hwanted : c.wanted? = some expr) (hes : es ≠ []) :
    (∀ response, (c.execute client).Course es response → response.error? = none →
      ∃ rows, response = .ran (some rows) ∧ c.Framed client expr es rows) ∧
    ∀ response, (c.executeSingle client).Course es response → response.error? = none →
      ∃ rows : List Row, response = .ran rows.head? ∧ c.forSingle.Framed client expr es rows := by
  constructor
  · intro response h hok
    obtain ⟨e | rows, hrun, rfl⟩ := course_execute_iff.1 h
    · cases hok
    · exact ⟨rows, rfl, framed_of_course_run hwanted hes hrun⟩
  · intro response h hok
    obtain ⟨e | rows, hrun, rfl⟩ := course_executeSingle_iff.1 h
    · cases hok
    · exact ⟨rows, rfl, framed_of_course_run (c.wanted?_forSingle.trans hwanted) hes hrun⟩

end

/-- The law holds of the invoices with their buyers, of which one row is left and two helpers are
gone. -/
theorem Chain.rows_framed_invoicesOfBuyers :
    ((Chain.select invoicesOfBuyers).execute salesClient).Course buyersExchanges
        (.ran (some buyersAnswer)) ∧
      (Chain.select invoicesOfBuyers).Framed salesClient invoicesOfBuyers.columns buyersExchanges
        buyersAnswer := by
  have hexecute : ((Chain.select invoicesOfBuyers).execute salesClient).Course buyersExchanges
      (.ran (some buyersAnswer)) :=
    course_execute_iff.2 ⟨.ok buyersAnswer, course_run_invoicesOfBuyers, rfl⟩
  obtain ⟨rows, hrows, hframed⟩ :=
    (Chain.rows_framed rfl (List.cons_ne_nil _ _)).1 _ hexecute rfl
  cases hrows
  exact ⟨hexecute, hframed⟩

end Graft
