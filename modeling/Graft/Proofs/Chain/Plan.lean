/-
Graft/Proofs/Chain/Plan.lean

What a chain has settled when its statement is sent.

A chain of any verb works in two halves.  In the first it checks what it was
given and compiles it, and sends nothing; in the second it sends one statement
and finishes the rows that come back.  A `Plan` is what the first half hands
to the second.  `Chain.Plans` says which plans a chain may come to, with all
the checks that it has passed by then, and `Chain.course_run_iff` says that
whatever a chain sends, it sends by carrying out such a plan.

A chain may come to several plans only because the identifiers of new rows are
drawn.
-/
import Graft.Chain
import Graft.Proofs.Dialogue.Course

namespace Graft

/-! ### Plans -/

/-- A statement that is about to be sent, and what is done with its rows. -/
structure Plan where
  query : Query
  tag : String
  table : String
  /-- What is wanted of the rows; nothing if not given. -/
  projection? : Option Projection

namespace Plan

/-- The statement of the plan. -/
def statement (p : Plan) : Statement :=
  p.query.statement p.tag

/-- What is done with the rows that the statement is answered with. -/
def finish (client : Client) (p : Plan) (rows : List Row) : Action (List Row) :=
  match p.projection? with
  | some projection => projection.finish client p.table rows
  | none => pure []

/-- Sends the statement and finishes its rows. -/
def carryOut (client : Client) (p : Plan) : Action (List Row) := do
  let rows ← p.query.send p.tag
  p.finish client rows

/-- The statement of a plan is sent before all others, and the others only if it is answered with
rows. -/
theorem course_carryOut_iff {client : Client} {p : Plan} {es : List Exchange}
    {r : Except Error (List Row)} :
    (p.carryOut client).Course es r ↔
      (∃ e, es = [⟨p.statement, .error e⟩] ∧ r = .error e) ∨
        ∃ rows later, es = ⟨p.statement, .ok rows⟩ :: later ∧
          (p.finish client rows).Course later r := by
  rw [carryOut, Action.course_query_bind_iff]
  rfl

end Plan

/-! ### Which plans a chain may come to -/

/-- `c.Plans client plan`: the chain passes its checks and may come to the plan. -/
inductive Chain.Plans (client : Client) : Chain → Plan → Prop
  | select {c : SelectChain} {query : Query} {projection : Projection}
      (hvalid : c.validate = .ok ())
      (hsatisfiable : c.filters.unsatisfiableColumn? = none)
      (hcompile : c.compile client = .ok (query, projection)) :
      Plans client (.select c) ⟨query, "select " ++ c.table, c.table, some projection⟩
  | insert {c : InsertChain} {rows keyed : List Row} {query : Query} {projection : Projection}
      (hrows : c.rows = .ok rows) (hsome : rows ≠ [])
      (hkeyed : (client.keyedRows rows).Course [] (.ok keyed))
      (hcompile : c.compile client keyed = .ok (query, projection)) :
      Plans client (.insert c) ⟨query, "insert " ++ c.table, c.table, some projection⟩
  | upsert {c : UpsertChain} {conflict : List String} {rows keyed : List Row} {query : Query}
      {projection : Projection}
      (hconflict : c.conflictColumns client = .ok conflict)
      (hrows : c.rows = .ok rows) (hsome : rows ≠ [])
      (hkeyed : (client.keyedRows rows).Course [] (.ok keyed))
      (hcompile : c.compile client conflict keyed = .ok (query, projection)) :
      Plans client (.upsert c) ⟨query, "upsert " ++ c.table, c.table, some projection⟩
  | update {c : UpdateChain} {values : Row} {query : Query} {projection : Projection}
      (hvalues : c.values = .ok values) (hvalid : c.filters.validate = .ok ())
      (hfiltered : c.filters.isEmpty = true → c.everyRow = true)
      (hsatisfiable : c.filters.unsatisfiableColumn? = none)
      (hcompile : c.compile client values = .ok (query, projection)) :
      Plans client (.update c) ⟨query, "update " ++ c.table, c.table, some projection⟩
  | delete {c : DeleteChain} {query : Query} {projection? : Option Projection}
      (hvalid : c.filters.validate = .ok ())
      (hfiltered : c.filters.isEmpty = true → c.everyRow = true)
      (hsatisfiable : c.filters.unsatisfiableColumn? = none)
      (hcompile : c.compile client = .ok (query, projection?)) :
      Plans client (.delete c) ⟨query, "delete " ++ c.table, c.table, projection?⟩

/-! ### What is done before -/

/-- Drawing identifiers sends nothing. -/
theorem Payload.eq_nil_of_course_fillKey {primaryKey : String} {row keyed : Row}
    {es : List Exchange} (h : Dialogue.Course (fillKey primaryKey row) es keyed) : es = [] := by
  have hdraw : ∀ f : String → Row,
      Dialogue.Course (Dialogue.fresh.bind fun id => .done (f id)) es keyed → es = [] := by
    intro f h
    obtain ⟨id, es₁, es₂, hid, hdone, rfl⟩ := Dialogue.course_bind_iff.1 h
    obtain ⟨id', hid⟩ := Dialogue.course_draw_iff.1 hid
    rw [(Dialogue.course_done_iff.1 hid).1, (Dialogue.course_done_iff.1 hdone).1]
    rfl
  unfold fillKey at h
  split at h
  · split at h
    · exact (Dialogue.course_done_iff.1 h).1
    · exact hdraw _ h
  · exact hdraw _ h

theorem Payload.eq_nil_of_course_fillKeys {primaryKey : String} {rows keyed : List Row}
    {es : List Exchange} (h : Dialogue.Course (fillKeys primaryKey rows) es keyed) : es = [] := by
  induction rows generalizing es keyed with
  | nil => exact (Dialogue.course_done_iff.1 h).1
  | cons row rest ih =>
    obtain ⟨row', es₁, es₂, hrow, hbind, rfl⟩ := Dialogue.course_bind_iff.1 h
    obtain ⟨rest', es₃, es₄, hrest, hdone, rfl⟩ := Dialogue.course_bind_iff.1 hbind
    rw [eq_nil_of_course_fillKey hrow, ih hrest, (Dialogue.course_done_iff.1 hdone).1]
    rfl

/-- Keying the rows of a chain sends nothing and does not fail. -/
theorem Client.course_keyedRows {client : Client} {rows : List Row} {es : List Exchange}
    {r : Except Error (List Row)} (h : (client.keyedRows rows).Course es r) :
    es = [] ∧ ∃ keyed, r = .ok keyed := by
  unfold keyedRows at h
  split at h
  · obtain ⟨keyed, hkeyed, rfl⟩ := Action.course_dialogue_iff.1 h
    exact ⟨Payload.eq_nil_of_course_fillKeys hkeyed, keyed, rfl⟩
  · obtain ⟨rfl, rfl⟩ := Action.course_pure_iff.1 h
    exact ⟨rfl, rows, rfl⟩

namespace Action

variable {α β : Type} {es : List Exchange} {r : Except Error β}

/-- Where something is sent after a check of the chain, the check found nothing. -/
theorem course_check_bind_sends_iff {x : Except Violation α} {f : α → Action β} (hes : es ≠ []) :
    Course (liftM x >>= f) es r ↔ ∃ a, x = .ok a ∧ Course (f a) es r := by
  rw [course_check_bind_iff]
  simp [hes]

/-- Where something is sent after a computation that may fail, it did not fail. -/
theorem course_except_bind_sends_iff {x : Except Error α} {f : α → Action β} (hes : es ≠ []) :
    Course (liftM x >>= f) es r ↔ ∃ a, x = .ok a ∧ Course (f a) es r := by
  rw [course_except_bind_iff]
  simp [hes]

/-- Where something is sent by a mutation, it has a filter or is meant for every row. -/
theorem course_requireFilter_bind_sends_iff {operation : Mutation} {table : String}
    {filters : Filters} {everyRow : Bool} {f : Unit → Action β} (hes : es ≠ []) :
    Course (requireFilter operation table filters everyRow >>= f) es r ↔
      (filters.isEmpty = true → everyRow = true) ∧ Course (f ()) es r := by
  unfold requireFilter
  split
  · next hempty =>
    split
    · next hevery =>
      rw [course_tell_bind_iff]
      simp [hevery]
    · next hevery =>
      rw [course_bind_iff]
      simp [course_throw_iff, hempty, hevery, hes]
  · next hempty =>
    rw [pure_bind]
    simp [hempty]

theorem course_keyedRows_bind_sends_iff {client : Client} {rows : List Row}
    {f : List Row → Action β} :
    Course (client.keyedRows rows >>= f) es r ↔
      ∃ keyed, (client.keyedRows rows).Course [] (.ok keyed) ∧ Course (f keyed) es r := by
  rw [course_bind_iff]
  constructor
  · rintro (⟨e, h, -⟩ | ⟨keyed, es₁, es₂, h, hf, rfl⟩)
    · obtain ⟨-, keyed, hkeyed⟩ := Client.course_keyedRows h
      cases hkeyed
    · obtain ⟨rfl, -⟩ := Client.course_keyedRows h
      exact ⟨keyed, h, hf⟩
  · rintro ⟨keyed, h, hf⟩
    exact .inr ⟨keyed, [], es, h, hf, rfl⟩

/-- Nothing is sent where it is only told that there is nothing to do. -/
theorem eq_nil_of_course_tell_pure {e : Event} {b : β}
    (h : Course (tell e >>= fun _ => pure b) es r) : es = [] := by
  rw [course_tell_bind_iff, course_pure_iff] at h
  exact h.1

/-- Where an insertion sends something, there are rows; they have got their keys, and the query is
compiled from them. -/
theorem course_insertion_sends_iff {p : Type} {client : Client} {rows : List Row} {e : Event}
    {b : β} {compile : List Row → Except Error p} {f : p → Action β} (hes : es ≠ []) :
    Course (if rows.isEmpty then tell e >>= fun _ => pure b
      else client.keyedRows rows >>= fun keyed => liftM (compile keyed) >>= f) es r ↔
      rows ≠ [] ∧ ∃ keyed, (client.keyedRows rows).Course [] (.ok keyed) ∧
        ∃ q, compile keyed = .ok q ∧ Course (f q) es r := by
  cases rows with
  | nil =>
    rw [if_pos List.isEmpty_nil]
    constructor
    · exact fun h => absurd (eq_nil_of_course_tell_pure h) hes
    · exact fun h => absurd rfl h.1
  | cons row rest =>
    have hsome : ¬(row :: rest).isEmpty = true := Bool.false_ne_true
    rw [if_neg hsome, course_keyedRows_bind_sends_iff]
    simp only [course_except_bind_sends_iff hes]
    exact (and_iff_right (List.cons_ne_nil row rest)).symm

end Action

/-! ### Chains that take filters -/

theorem Condition.isUnsatisfiable_iff {c : Condition} :
    c.isUnsatisfiable = true ↔ c.operator = .oneOf ∧ c.negated = false ∧ c.value = .arr [] := by
  unfold isUnsatisfiable
  split
  · next hoperator hnegated hvalue => simp [hoperator, hnegated, hvalue]
  · next hother =>
    constructor
    · intro h
      cases h
    · rintro ⟨hoperator, hnegated, hvalue⟩
      exact absurd hvalue (hother hoperator hnegated)

/-- What follows the search for an empty list is begun if there is none: a query is compiled and
sent. -/
def Action.search {p : Type} (f : Filters) (event : String → Event) (x : Except Error (Query × p))
    (tag : String) (next : Query × p → List Row → Action (List Row)) : Action (List Row) :=
  match f.unsatisfiableColumn? with
  | some column => Action.tell (event column) >>= fun _ => pure []
  | none => liftM x >>= fun q => q.1.send tag >>= next q

/-- Where a search sends something, there is no empty list, and the query is compiled. -/
theorem Action.course_search_sends_iff {p : Type} {f : Filters} {event : String → Event}
    {x : Except Error (Query × p)} {tag : String} {next : Query × p → List Row → Action (List Row)}
    {es : List Exchange} {r : Except Error (List Row)} (hes : es ≠ []) :
    Course (search f event x tag next) es r ↔
      f.unsatisfiableColumn? = none ∧ ∃ q, x = .ok q ∧ Course (q.1.send tag >>= next q) es r := by
  unfold search
  cases f.unsatisfiableColumn? with
  | some column =>
    constructor
    · exact fun h => absurd (eq_nil_of_course_tell_pure h) hes
    · rintro ⟨hnone, -⟩
      cases hnone
  | none =>
    rw [course_except_bind_sends_iff hes]
    exact (and_iff_right rfl).symm

/-! A chain that takes filters is such a search, after its checks. -/

theorem SelectChain.run_eq_search (client : Client) (c : SelectChain) :
    c.run client =
      (liftM c.validate >>= fun _ =>
        Action.search c.filters (.unsatisfiable "select" c.table) (c.compile client)
          ("select " ++ c.table) fun q => q.2.finish client c.table) := by
  unfold run Action.search
  cases c.filters.unsatisfiableColumn? <;> rfl

theorem UpdateChain.run_eq_search (client : Client) (c : UpdateChain) :
    c.run client =
      (liftM (c.values.mapError Payload.Fault.error) >>= fun values =>
        liftM c.filters.validate >>= fun _ =>
          requireFilter .update c.table c.filters c.everyRow >>= fun _ =>
            Action.search c.filters (.unsatisfiable "update" c.table) (c.compile client values)
              ("update " ++ c.table) fun q => q.2.finish client c.table) := by
  unfold run Action.search
  cases c.filters.unsatisfiableColumn? <;> rfl

theorem DeleteChain.run_eq_search (client : Client) (c : DeleteChain) :
    c.run client =
      (liftM c.filters.validate >>= fun _ =>
        requireFilter .delete c.table c.filters c.everyRow >>= fun _ =>
          Action.search c.filters (.unsatisfiable "delete" c.table) (c.compile client)
            ("delete " ++ c.table) fun q rows =>
              match q.2 with
              | some projection => projection.finish client c.table rows
              | none => pure []) := by
  unfold run Action.search
  cases c.filters.unsatisfiableColumn? <;> rfl

/-! ### The two halves of a chain -/

section

variable {client : Client} {es : List Exchange} {r : Except Error (List Row)}

theorem SelectChain.course_run_iff {c : SelectChain} (hes : es ≠ []) :
    (c.run client).Course es r ↔
      ∃ plan, (Chain.select c).Plans client plan ∧ (plan.carryOut client).Course es r := by
  rw [run_eq_search, Action.course_check_bind_sends_iff hes]
  simp only [Action.course_search_sends_iff hes]
  constructor
  · rintro ⟨_, hvalid, hsatisfiable, ⟨query, projection⟩, hcompile, h⟩
    exact ⟨_, .select hvalid hsatisfiable hcompile, h⟩
  · rintro ⟨_, hplan, h⟩
    cases hplan with
    | select hvalid hsatisfiable hcompile => exact ⟨(), hvalid, hsatisfiable, _, hcompile, h⟩

theorem InsertChain.course_run_iff {c : InsertChain} (hes : es ≠ []) :
    (c.run client).Course es r ↔
      ∃ plan, (Chain.insert c).Plans client plan ∧ (plan.carryOut client).Course es r := by
  rw [run, Action.course_except_bind_sends_iff hes]
  simp only [mapError_eq_ok_iff, Action.course_insertion_sends_iff hes]
  constructor
  · rintro ⟨rows, hrows, hsome, keyed, hkeyed, ⟨query, projection⟩, hcompile, h⟩
    exact ⟨_, .insert hrows hsome hkeyed hcompile, h⟩
  · rintro ⟨_, hplan, h⟩
    cases hplan with
    | insert hrows hsome hkeyed hcompile => exact ⟨_, hrows, hsome, _, hkeyed, _, hcompile, h⟩

theorem UpsertChain.course_run_iff {c : UpsertChain} (hes : es ≠ []) :
    (c.run client).Course es r ↔
      ∃ plan, (Chain.upsert c).Plans client plan ∧ (plan.carryOut client).Course es r := by
  rw [run, Action.course_check_bind_sends_iff hes]
  simp only [Action.course_except_bind_sends_iff hes, mapError_eq_ok_iff,
    Action.course_insertion_sends_iff hes]
  constructor
  · rintro ⟨_, hconflict, rows, hrows, hsome, keyed, hkeyed, ⟨query, projection⟩, hcompile, h⟩
    exact ⟨_, .upsert hconflict hrows hsome hkeyed hcompile, h⟩
  · rintro ⟨_, hplan, h⟩
    cases hplan with
    | upsert hconflict hrows hsome hkeyed hcompile =>
      exact ⟨_, hconflict, _, hrows, hsome, _, hkeyed, _, hcompile, h⟩

theorem UpdateChain.course_run_iff {c : UpdateChain} (hes : es ≠ []) :
    (c.run client).Course es r ↔
      ∃ plan, (Chain.update c).Plans client plan ∧ (plan.carryOut client).Course es r := by
  rw [run_eq_search, Action.course_except_bind_sends_iff hes]
  simp only [mapError_eq_ok_iff, Action.course_check_bind_sends_iff hes,
    Action.course_requireFilter_bind_sends_iff hes, Action.course_search_sends_iff hes]
  constructor
  · rintro ⟨values, hvalues, _, hvalid, hfiltered, hsatisfiable, ⟨query, projection⟩, hcompile, h⟩
    exact ⟨_, .update hvalues hvalid hfiltered hsatisfiable hcompile, h⟩
  · rintro ⟨_, hplan, h⟩
    cases hplan with
    | update hvalues hvalid hfiltered hsatisfiable hcompile =>
      exact ⟨_, hvalues, (), hvalid, hfiltered, hsatisfiable, _, hcompile, h⟩

theorem DeleteChain.course_run_iff {c : DeleteChain} (hes : es ≠ []) :
    (c.run client).Course es r ↔
      ∃ plan, (Chain.delete c).Plans client plan ∧ (plan.carryOut client).Course es r := by
  rw [run_eq_search, Action.course_check_bind_sends_iff hes]
  simp only [Action.course_requireFilter_bind_sends_iff hes, Action.course_search_sends_iff hes]
  constructor
  · rintro ⟨_, hvalid, hfiltered, hsatisfiable, ⟨query, projection?⟩, hcompile, h⟩
    refine ⟨_, .delete hvalid hfiltered hsatisfiable hcompile, ?_⟩
    -- Whether rows are read back makes no difference to what is sent first.
    cases projection? <;> exact h
  · rintro ⟨_, hplan, h⟩
    cases hplan with
    | @delete _ _ projection? hvalid hfiltered hsatisfiable hcompile =>
      refine ⟨(), hvalid, hfiltered, hsatisfiable, _, hcompile, ?_⟩
      cases projection? <;> exact h

/-- **The two halves of a chain.**  A chain that sends anything has come to a plan and carries it
out, and it may carry out every plan that it may come to. -/
theorem Chain.course_run_iff {c : Chain} (hes : es ≠ []) :
    (c.run client).Course es r ↔
      ∃ plan, c.Plans client plan ∧ (plan.carryOut client).Course es r := by
  cases c with
  | select c => exact c.course_run_iff hes
  | insert c => exact c.course_run_iff hes
  | upsert c => exact c.course_run_iff hes
  | update c => exact c.course_run_iff hes
  | delete c => exact c.course_run_iff hes

/-! ### How a chain ends -/

/-- `c.Ends client es error?`: run for all its rows or for a single one, the chain may have the
exchanges `es`, and then answers with that error, if any. -/
inductive Chain.Ends (client : Client) (c : Chain) (es : List Exchange) : Option Error → Prop
  | all {response : Response (List Row)} (h : (c.execute client).Course es response) :
      Ends client c es response.error?
  | single {response : Response Row} (h : (c.executeSingle client).Course es response) :
      Ends client c es response.error?

theorem Chain.course_execute_iff {c : Chain} {response : Response (List Row)} :
    (c.execute client).Course es response ↔
      ∃ r, (c.run client).Course es r ∧ response = .ofExcept r :=
  Dialogue.course_map_iff (f := Response.ofExcept)

theorem Chain.course_executeSingle_iff {c : Chain} {response : Response Row} :
    (c.executeSingle client).Course es response ↔
      ∃ r, (c.forSingle.run client).Course es r ∧ response = (Response.ofExcept r).first := by
  have hmap : c.executeSingle client = Response.first <$> c.forSingle.execute client := rfl
  rw [hmap, Dialogue.course_map_iff]
  simp only [course_execute_iff]
  constructor
  · rintro ⟨_, ⟨r, h, rfl⟩, rfl⟩
    exact ⟨r, h, rfl⟩
  · rintro ⟨r, h, rfl⟩
    exact ⟨_, ⟨r, h, rfl⟩, rfl⟩

/-- A chain ends as its run does, or as its run for a single row does. -/
theorem Chain.ends_iff {c : Chain} {error? : Option Error} :
    c.Ends client es error? ↔
      ∃ c' r, (c' = c ∨ c' = c.forSingle) ∧ (c'.run client).Course es r ∧
        error? = (Response.ofExcept r).error? := by
  constructor
  · intro h
    cases h with
    | all h =>
      obtain ⟨r, hrun, rfl⟩ := course_execute_iff.1 h
      exact ⟨c, r, .inl rfl, hrun, rfl⟩
    | single h =>
      obtain ⟨r, hrun, rfl⟩ := course_executeSingle_iff.1 h
      refine ⟨c.forSingle, r, .inr rfl, hrun, ?_⟩
      cases r <;> rfl
  · rintro ⟨c', r, rfl | rfl, h, rfl⟩
    · exact .all (course_execute_iff.2 ⟨r, h, rfl⟩)
    · have hsingle := course_executeSingle_iff.2 ⟨r, h, rfl⟩
      cases r <;> exact .single hsingle

end

end Graft
