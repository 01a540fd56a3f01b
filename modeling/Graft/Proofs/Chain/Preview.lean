/-
Graft/Proofs/Chain/Preview.lean

The statement that a select tells is the statement that it sends.

A select can be asked for its statement (`SelectChain.toSql`) instead of being
run.  Both first report what was put off while the chain was built, and both
compile the chain; but before it is compiled to be run, its conditions are
searched for one that no row satisfies.  So the two come to the same statement
or to the same error, except where compiling fails and the search has found
such a condition before: then running the chain succeeds without any rows
(`SelectChain.execute_toSql`).

Where compiling succeeds, the search finds nothing
(`unsatisfiableColumn?_of_compile`), hence a statement that is told is always
sent.
-/
import Graft.Proofs.Chain.EmptyLists

namespace Graft

/-- A condition asks for membership in the empty list. -/
def Filters.AsksEmptyList (f : Filters) : Prop :=
  ∃ condition ∈ f.conditions, condition.operator = .oneOf ∧ condition.negated = false ∧
    condition.value = .arr []

theorem Filters.unsatisfiableColumn?_eq_none_iff {f : Filters} :
    f.unsatisfiableColumn? = none ↔ ¬ f.AsksEmptyList := by
  rw [unsatisfiableColumn?, Option.map_eq_none_iff, List.find?_eq_none]
  simp only [Condition.isUnsatisfiable_iff, AsksEmptyList, not_exists, not_and]

namespace SelectChain

variable {client : Client} {c : SelectChain} {es : List Exchange} {r : Except Error (List Row)}

/-! ### Telling the statement -/

theorem validate_eq_ok_iff : c.validate = .ok () ↔ (Chain.select c).Undeferred := by
  rw [validate, Filters.validate, Chain.Undeferred]
  cases c.refused? <;> cases c.filters.deferred <;> simp [bind, Except.bind]

theorem toSql_eq_ok_iff {sql : String} {params : List Value} :
    c.toSql client = .ok (sql, params) ↔
      c.validate = .ok () ∧ ∃ query projection, c.compile client = .ok (query, projection) ∧
        sql = query.sql ∧ params = query.params := by
  simp only [toSql, bind_eq_ok_iff, check_eq_ok_iff]
  constructor
  · rintro ⟨_, hvalid, ⟨query, projection⟩, hcompile, h⟩
    cases h
    exact ⟨hvalid, query, projection, hcompile, rfl, rfl⟩
  · rintro ⟨hvalid, query, projection, hcompile, rfl, rfl⟩
    exact ⟨(), hvalid, (query, projection), hcompile, rfl⟩

theorem toSql_eq_error_iff {e : Error} :
    c.toSql client = .error e ↔
      (∃ v, c.validate = .error v ∧ e = .validation v) ∨
        c.validate = .ok () ∧ c.compile client = .error e := by
  simp only [toSql, bind_eq_error_iff, check_eq_error_iff, check_eq_ok_iff]
  constructor
  · rintro (h | ⟨_, hvalid, h | ⟨_, -, h⟩⟩)
    · exact .inl h
    · exact .inr ⟨hvalid, h⟩
    · cases h
  · rintro (h | ⟨hvalid, h⟩)
    · exact .inl h
    · exact .inr ⟨(), hvalid, .inl h⟩

/-! ### Running the chain -/

/-- What was put off is reported, and nothing is sent. -/
theorem course_run_of_validate_error {v : Violation} (h : c.validate = .error v) :
    (c.run client).Course es r ↔ es = [] ∧ r = .error (.validation v) := by
  rw [run_eq_search]
  exact Action.course_check_bind_error_iff h

/-- Where nothing was put off, running the chain is to search its conditions and go on. -/
theorem course_run_of_validate_ok (h : c.validate = .ok ()) :
    (c.run client).Course es r ↔
      (Action.search c.filters (.unsatisfiable "select" c.table) (c.compile client)
        ("select " ++ c.table) fun q => q.2.finish client c.table).Course es r := by
  rw [run_eq_search]
  exact Action.course_check_bind_ok_iff h

/-- Where there is no statement, the reason is the error that the chain ends in. -/
theorem course_run_of_compile_error {e : Error} (h : c.validate = .ok ())
    (hnone : c.filters.unsatisfiableColumn? = none) (hcompile : c.compile client = .error e) :
    (c.run client).Course es r ↔ es = [] ∧ r = .error e := by
  rw [course_run_of_validate_ok h, Action.search, hnone, hcompile]
  refine Action.course_except_bind_iff.trans ⟨?_, ?_⟩
  · rintro (⟨_, he, hnil, hr⟩ | ⟨_, hok, -⟩)
    · cases he
      exact ⟨hnil, hr⟩
    · cases hok
  · rintro ⟨hnil, hr⟩
    exact .inl ⟨e, rfl, hnil, hr⟩

/-- A chain that is compiled has no condition that no row satisfies. -/
theorem unsatisfiableColumn?_of_compile {query : Query} {projection : Projection}
    (h : c.compile client = .ok (query, projection)) : c.filters.unsatisfiableColumn? = none := by
  obtain ⟨clause, _, _, -, hclause, -⟩ := compile_eq_ok_iff.1 h
  exact Clause.unsatisfiableColumn?_of_compile (Filters.compile_eq_ok_iff.1 hclause).2

/-- The statement of the chain is sent, and what is wanted of its rows is done if it is answered
with rows. -/
theorem course_run_of_compile {query : Query} {projection : Projection} (h : c.validate = .ok ())
    (hcompile : c.compile client = .ok (query, projection)) :
    (c.run client).Course es r ↔
      (∃ e, es = [⟨query.statement ("select " ++ c.table), .error e⟩] ∧ r = .error e) ∨
        ∃ rows later, es = ⟨query.statement ("select " ++ c.table), .ok rows⟩ :: later ∧
          (projection.finish client c.table rows).Course later r := by
  rw [course_run_of_validate_ok h, Action.search, unsatisfiableColumn?_of_compile hcompile,
    hcompile]
  refine Action.course_except_bind_iff.trans ⟨?_, ?_⟩
  · rintro (⟨_, he, -⟩ | ⟨_, hok, hsend⟩)
    · cases he
    · cases hok
      exact Action.course_query_bind_iff.1 hsend
  · exact fun hsend => .inr ⟨_, rfl, Action.course_query_bind_iff.2 hsend⟩

/-! ### The two compared -/

theorem course_execute_of_run {result : Except Error (List Row)}
    (h : ∀ {es r}, (c.run client).Course es r ↔ es = [] ∧ r = result) {es : List Exchange}
    {response : Response (List Row)} :
    ((Chain.select c).execute client).Course es response ↔
      es = [] ∧ response = .ofExcept result := by
  rw [Chain.course_execute_iff]
  constructor
  · rintro ⟨r, hrun, rfl⟩
    obtain ⟨hnil, rfl⟩ := h.1 hrun
    exact ⟨hnil, rfl⟩
  · rintro ⟨hnil, rfl⟩
    exact ⟨result, h.2 ⟨hnil, rfl⟩, rfl⟩

/-- Where there is a statement, it is sent first, and may be answered in any way. -/
theorem execute_of_compile {query : Query} {projection : Projection} (h : c.validate = .ok ())
    (hcompile : c.compile client = .ok (query, projection)) :
    (∀ es response, ((Chain.select c).execute client).Course es response →
      ∃ reply later, es = ⟨query.statement ("select " ++ c.table), reply⟩ :: later) ∧
    ∀ reply, ∃ later response, ((Chain.select c).execute client).Course
      (⟨query.statement ("select " ++ c.table), reply⟩ :: later) response := by
  have hrun : ∀ es r, (c.run client).Course es r ↔ _ := fun _ _ => course_run_of_compile h hcompile
  constructor
  · intro es response hcourse
    obtain ⟨r, hcourse, -⟩ := Chain.course_execute_iff.1 hcourse
    obtain ⟨e, hes, -⟩ | ⟨rows, later, hes, -⟩ := (hrun es r).1 hcourse
    · exact ⟨.error e, [], hes⟩
    · exact ⟨.ok rows, later, hes⟩
  · rintro (e | rows)
    · exact ⟨[], _, Chain.course_execute_iff.2 ⟨_, (hrun _ _).2 (.inl ⟨e, rfl, rfl⟩), rfl⟩⟩
    · obtain ⟨later, r, hfinish⟩ := Action.exists_course (projection.finish client c.table rows)
      exact ⟨later, _, Chain.course_execute_iff.2
        ⟨r, (hrun _ _).2 (.inr ⟨rows, later, rfl, hfinish⟩), rfl⟩⟩

/-- **Telling a statement and sending it agree.**  A statement that a select tells is the one that
it sends before anything else, whatever the engine answers.  If it tells an error instead, running
it sends nothing and fails with that error; only where nothing was put off and a condition asks for
membership in the empty list, it sends nothing and answers with no rows.

The last part, that to tell the statement nothing is sent, is a matter of types: `toSql` is no
action, so lifted into one it sends nothing, as any computation that only may fail.  The content is
in the three before it. -/
theorem execute_toSql (client : Client) (c : SelectChain) :
    (∀ sql params, c.toSql client = .ok (sql, params) →
      (∀ es response, ((Chain.select c).execute client).Course es response →
        ∃ reply later, es = ⟨⟨some ("select " ++ c.table), sql, params⟩, reply⟩ :: later) ∧
      ∀ reply, ∃ later response, ((Chain.select c).execute client).Course
        (⟨⟨some ("select " ++ c.table), sql, params⟩, reply⟩ :: later) response) ∧
    (∀ e, c.toSql client = .error e →
      ¬ c.filters.AsksEmptyList ∨ ¬ (c.refused? = none ∧ c.filters.deferred = none) →
      ∀ es response, ((Chain.select c).execute client).Course es response ↔
        es = [] ∧ response = .failed e) ∧
    (∀ e, c.toSql client = .error e →
      c.filters.AsksEmptyList → c.refused? = none ∧ c.filters.deferred = none →
      ∀ es response, ((Chain.select c).execute client).Course es response ↔
        es = [] ∧ response = .ran (some [])) ∧
    ∀ es r, Action.Course (liftM (c.toSql client)) es r ↔ es = [] ∧ r = c.toSql client := by
  refine ⟨fun sql params h => ?_, fun e h hcase es response => ?_,
    fun e h hempty hundeferred es response => ?_, fun es r => Action.course_except_iff⟩
  · obtain ⟨hvalid, query, projection, hcompile, rfl, rfl⟩ := toSql_eq_ok_iff.1 h
    exact execute_of_compile hvalid hcompile
  · obtain ⟨v, hv, rfl⟩ | ⟨hvalid, hcompile⟩ := toSql_eq_error_iff.1 h
    · exact course_execute_of_run (course_run_of_validate_error hv)
    · have hnone : c.filters.unsatisfiableColumn? = none := by
        rw [Filters.unsatisfiableColumn?_eq_none_iff]
        exact hcase.resolve_right fun hdeferred => hdeferred (validate_eq_ok_iff.1 hvalid)
      exact course_execute_of_run (course_run_of_compile_error hvalid hnone hcompile)
  -- The conditions are searched for an empty list before they are compiled.
  · obtain ⟨column, hfound⟩ := Option.ne_none_iff_exists'.1
      (mt Filters.unsatisfiableColumn?_eq_none_iff.1 (not_not_intro hempty))
    exact course_execute_of_run
      ((course_run_of_validate_ok (validate_eq_ok_iff.2 hundeferred)).trans
        (Action.course_search_iff hfound))

end SelectChain

end Graft
