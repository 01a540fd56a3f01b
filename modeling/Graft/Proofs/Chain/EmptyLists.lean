/-
Graft/Proofs/Chain/EmptyLists.lean

Membership in the empty list never reaches the engine.

Two places deal with it.  Before a chain is compiled, its filters are searched
for a condition that no row satisfies (`Filters.unsatisfiableColumn?`), and if
there is one, the chain has no rows and sends nothing.  Compiling the conditions
fails where it comes to such a condition.  The two agree on every list of
conditions (`Clause.unsatisfiableColumn?_of_compile_error`,
`Clause.unsatisfiableColumn?_of_compile`): what compiling complains of has been
found before.  So a chain never reports it (`Chain.ne_emptyInList_of_ends`), and
each list in a statement has something in it (`Chain.filled_of_ends`).
-/
import Graft.Proofs.Chain.Refusal
import Graft.Proofs.Chain.Stopping
import Graft.Proofs.Query.Parentheses

namespace Graft

/-! ### Conditions -/

namespace Condition

/-- Compiling complains of a condition only if no row satisfies it. -/
theorem isUnsatisfiable_of_conjunct_error {c : Condition} {column : String}
    (h : c.conjunct = .error (.emptyInList column)) :
    c.isUnsatisfiable = true ∧ c.column = column := by
  simp only [conjunct, bind_eq_error_iff, check_eq_error_iff, check_eq_ok_iff] at h
  obtain ⟨v, -, hv⟩ | ⟨ident, -, h⟩ := h
  · cases hv
  -- Only membership fails for an empty list, and only when it is not negated.
  · unfold conjunctOn at h
    split at h
    · cases h
    · next hoperator =>
      split at h
      · cases h
      · next hvalue =>
        split at h
        · cases h
        · next hnegated =>
          cases h
          exact ⟨isUnsatisfiable_iff.2 ⟨hoperator, by simpa using hnegated, hvalue⟩, rfl⟩
      · cases h
    · split at h
      · split at h <;> cases h
      · cases h

/-- Nothing is compiled from a condition that no row satisfies. -/
theorem not_isUnsatisfiable_of_conjunct {c : Condition} {conjunct : Conjunct}
    (h : c.conjunct = .ok conjunct) : c.isUnsatisfiable = false := by
  rw [Bool.eq_false_iff]
  intro hunsatisfiable
  obtain ⟨hoperator, hnegated, hvalue⟩ := isUnsatisfiable_iff.1 hunsatisfiable
  simp only [Condition.conjunct, bind_eq_ok_iff, check_eq_ok_iff] at h
  obtain ⟨ident, -, h⟩ := h
  simp [conjunctOn, hoperator, hnegated, hvalue] at h

end Condition

namespace Clause

variable {conditions : List Condition}

/-- What compiling complains of is the first condition that no row satisfies. -/
theorem unsatisfiableColumn?_of_compile_error {column : String}
    (h : compile conditions = .error (.emptyInList column)) :
    ({ conditions } : Filters).unsatisfiableColumn? = some column := by
  show (conditions.find? Condition.isUnsatisfiable).map (·.column) = some column
  rw [compile] at h
  induction conditions with
  | nil => cases h
  | cons c rest ih =>
    simp only [List.mapM_cons, bind_eq_error_iff] at h
    obtain h | ⟨conjunct, hconjunct, h | ⟨_, -, h⟩⟩ := h
    · obtain ⟨hunsatisfiable, hcolumn⟩ := Condition.isUnsatisfiable_of_conjunct_error h
      rw [List.find?_cons_of_pos hunsatisfiable, Option.map_some, hcolumn]
    · -- the conditions before the one that is complained of were compiled
      have hc := Condition.not_isUnsatisfiable_of_conjunct hconjunct
      rw [List.find?_cons_of_neg (Bool.eq_false_iff.1 hc)]
      exact ih h
    · cases h

/-- Nothing is found where compiling succeeds. -/
theorem unsatisfiableColumn?_of_compile {clause : Clause} (h : compile conditions = .ok clause) :
    ({ conditions } : Filters).unsatisfiableColumn? = none := by
  show (conditions.find? Condition.isUnsatisfiable).map (·.column) = none
  rw [Option.map_eq_none_iff, List.find?_eq_none]
  intro c hc
  obtain ⟨conjunct, -, hconjunct⟩ := exists_of_mapM_ok h hc
  rw [Condition.not_isUnsatisfiable_of_conjunct hconjunct]
  exact Bool.false_ne_true

end Clause

/-! ### Chains that take filters -/

namespace Chain

/-- The filters of a chain; an insert or an upsert takes none. -/
def filters? : Chain → Option Filters
  | .select c => some c.filters
  | .insert _ => none
  | .upsert _ => none
  | .update c => some c.filters
  | .delete c => some c.filters

/-- No violation was put off while the chain was built: every operator and every window was
accepted, and the payload, if the chain has one, was read. -/
def Undeferred : Chain → Prop
  | .select c => c.refused? = none ∧ c.filters.deferred = none
  | .insert c => ∃ rows, c.rows = .ok rows
  | .upsert c => ∃ rows, c.rows = .ok rows
  | .update c => (∃ values, c.values = .ok values) ∧ c.filters.deferred = none
  | .delete c => c.filters.deferred = none

@[simp] theorem filters?_forSingle (c : Chain) : c.forSingle.filters? = c.filters? := by
  cases c <;> rfl

theorem Undeferred.forSingle {c : Chain} (h : c.Undeferred) : c.forSingle.Undeferred := by
  cases c <;> exact h

end Chain

namespace Filters

variable {f : Filters} {column : String}

theorem validate_eq_ok (h : f.deferred = none) : f.validate = .ok () := by
  rw [validate, h]

theorem exists_unsatisfiableColumn? {c : Condition} (hc : c ∈ f.conditions)
    (h : c.isUnsatisfiable = true) : ∃ column, f.unsatisfiableColumn? = some column := by
  have hfound : (f.conditions.find? Condition.isUnsatisfiable).isSome :=
    List.find?_isSome.2 ⟨c, hc, h⟩
  obtain ⟨c', hc'⟩ := Option.isSome_iff_exists.1 hfound
  exact ⟨c'.column, by rw [unsatisfiableColumn?, hc', Option.map_some]⟩

theorem isEmpty_of_unsatisfiableColumn? (h : f.unsatisfiableColumn? = some column) :
    f.isEmpty = false := by
  obtain ⟨c, hc, -⟩ := Option.map_eq_some_iff.1 h
  rw [isEmpty, List.isEmpty_eq_false_iff]
  exact List.ne_nil_of_mem (List.mem_of_find?_eq_some hc)

end Filters

/-! ### Compiling a chain -/

section

variable {client : Client} {column : String}

/-- Filters fail to compile for the empty list only where it has been found. -/
theorem Filters.unsatisfiableColumn?_of_compile_error {f : Filters}
    (h : f.compile = .error (.emptyInList column)) : f.unsatisfiableColumn? = some column := by
  simp only [compile, bind_eq_error_iff, check_eq_error_iff] at h
  obtain ⟨v, -, hv⟩ | ⟨_, -, h⟩ := h
  · cases hv
  · exact Clause.unsatisfiableColumn?_of_compile_error h

theorem SelectChain.unsatisfiableColumn?_of_compile_error {c : SelectChain}
    (h : c.compile client = .error (.emptyInList column)) :
    c.filters.unsatisfiableColumn? = some column := by
  simp only [compile, bind_eq_error_iff, check_eq_error_iff] at h
  obtain ⟨v, -, hv⟩ | ⟨_, -, h | ⟨_, -, ⟨v, -, hv⟩ | ⟨_, -, ⟨v, -, hv⟩ | ⟨_, -, h⟩⟩⟩⟩ := h
  · cases hv
  · exact Filters.unsatisfiableColumn?_of_compile_error h
  · cases hv
  · cases hv
  · cases h

theorem UpdateChain.unsatisfiableColumn?_of_compile_error {c : UpdateChain} {values : Row}
    (h : c.compile client values = .error (.emptyInList column)) :
    c.filters.unsatisfiableColumn? = some column := by
  simp only [compile, bind_eq_error_iff, check_eq_error_iff] at h
  obtain ⟨v, -, hv⟩ | ⟨_, -, h⟩ := h
  · cases hv
  · split at h
    · cases h
    · simp only [bind_eq_error_iff, check_eq_error_iff] at h
      obtain h | ⟨_, -, ⟨v, -, hv⟩ | ⟨_, -, ⟨v, -, hv⟩ | ⟨_, -, h⟩⟩⟩ := h
      · exact Filters.unsatisfiableColumn?_of_compile_error h
      · cases hv
      · cases hv
      · cases h

theorem DeleteChain.unsatisfiableColumn?_of_compile_error {c : DeleteChain}
    (h : c.compile client = .error (.emptyInList column)) :
    c.filters.unsatisfiableColumn? = some column := by
  simp only [compile, bind_eq_error_iff, check_eq_error_iff] at h
  obtain h | ⟨_, -, ⟨v, -, hv⟩ | ⟨_, -, ⟨v, -, hv⟩ | ⟨_, -, h⟩⟩⟩ := h
  · exact Filters.unsatisfiableColumn?_of_compile_error h
  · cases hv
  · cases hv
  · cases h

end

/-! ### Running a chain -/

namespace Action

variable {α β : Type} {es : List Exchange} {r : Except Error β}

/-- A mutation is refused for want of a filter, or goes on. -/
theorem course_requireFilter_bind {operation : Mutation} {table : String} {filters : Filters}
    {everyRow : Bool} {f : Unit → Action β}
    (h : Course (requireFilter operation table filters everyRow >>= f) es r) :
    (es = [] ∧ r = .error (.missingFilter operation table)) ∨ Course (f ()) es r := by
  unfold requireFilter at h
  split at h
  · split at h
    · exact .inr (course_tell_bind_iff.1 h)
    · rw [course_bind_iff] at h
      obtain ⟨e, hthrow, rfl⟩ | ⟨_, _, _, hthrow, -⟩ := h
      · obtain ⟨rfl, he⟩ := course_throw_iff.1 hthrow
        cases he
        exact .inl ⟨rfl, rfl⟩
      · cases (course_throw_iff.1 hthrow).2
  · rw [pure_bind] at h
    exact .inr h

/-- A mutation with filters goes on. -/
theorem course_requireFilter_bind_iff {operation : Mutation} {table : String} {filters : Filters}
    {everyRow : Bool} {f : Unit → Action β} (hfilters : filters.isEmpty = false) :
    Course (requireFilter operation table filters everyRow >>= f) es r ↔ Course (f ()) es r := by
  have hnone : requireFilter operation table filters everyRow = pure () := by
    rw [requireFilter, hfilters]
    rfl
  rw [hnone, pure_bind]

section

variable {p : Type} {f : Filters} {event : String → Event} {x : Except Error (Query × p)}
variable {tag column : String} {next : Query × p → List Row → Action (List Row)}
variable {r : Except Error (List Row)}

/-- Where the search finds an empty list, there are no rows and nothing is sent. -/
theorem course_search_iff (hsome : f.unsatisfiableColumn? = some column) :
    Course (search f event x tag next) es r ↔ es = [] ∧ r = .ok [] := by
  rw [search, hsome]
  exact course_tell_bind_iff.trans course_pure_iff

/-- Where nothing is sent, no empty list is reported, as compiling reports only what the search
finds. -/
theorem ne_emptyInList_of_course_search_nil
    (hx : ∀ column, x = .error (.emptyInList column) → f.unsatisfiableColumn? = some column)
    (h : Course (search f event x tag next) [] r) : r ≠ .error (.emptyInList column) := by
  rintro rfl
  cases hfound : f.unsatisfiableColumn? with
  | some column' => cases ((course_search_iff hfound).1 h).2
  | none =>
    rw [search, hfound] at h
    obtain ⟨e, hcompile, -, he⟩ | ⟨q, -, h⟩ := course_except_bind_iff.1 h
    · cases he
      rw [hx column hcompile] at hfound
      cases hfound
    · obtain ⟨e, hes, -⟩ | ⟨rows, later, hes, -⟩ := course_query_bind_iff.1 h
      · cases hes
      · cases hes

end

end Action

namespace Chain

variable {client : Client} {c : Chain} {filters : Filters} {es : List Exchange}
variable {r : Except Error (List Row)} {column : String}

/-- A chain that sends nothing does not report an empty list. -/
theorem ne_emptyInList_of_course_run_nil (hfilters : c.filters? = some filters)
    (h : (c.run client).Course [] r) : r ≠ .error (.emptyInList column) := by
  have hother : ∀ {e : Error}, (∀ column, e ≠ .emptyInList column) →
      (.error e : Except Error (List Row)) ≠ .error (.emptyInList column) :=
    fun hne he => hne column (Except.error.inj he)
  cases c with
  | insert c => cases hfilters
  | upsert c => cases hfilters
  | select c =>
    rw [run, SelectChain.run_eq_search, Action.course_check_bind_iff] at h
    obtain ⟨v, -, -, rfl⟩ | ⟨_, -, h⟩ := h
    · exact hother fun _ he => by cases he
    · exact Action.ne_emptyInList_of_course_search_nil
        (fun _ => SelectChain.unsatisfiableColumn?_of_compile_error) h
  | update c =>
    rw [run, UpdateChain.run_eq_search, Action.course_except_bind_iff] at h
    obtain ⟨e, he, -, rfl⟩ | ⟨values, -, h⟩ := h
    · -- no fault of a payload is about an empty list
      obtain ⟨fault, -, rfl⟩ := mapError_eq_error_iff.1 he
      exact hother fun _ he => by cases fault <;> cases he
    · rw [Action.course_check_bind_iff] at h
      obtain ⟨v, -, -, rfl⟩ | ⟨_, -, h⟩ := h
      · exact hother fun _ he => by cases he
      · obtain ⟨-, rfl⟩ | h := Action.course_requireFilter_bind h
        · exact hother fun _ he => by cases he
        · exact Action.ne_emptyInList_of_course_search_nil
            (fun _ => UpdateChain.unsatisfiableColumn?_of_compile_error) h
  | delete c =>
    rw [run, DeleteChain.run_eq_search, Action.course_check_bind_iff] at h
    obtain ⟨v, -, -, rfl⟩ | ⟨_, -, h⟩ := h
    · exact hother fun _ he => by cases he
    · obtain ⟨-, rfl⟩ | h := Action.course_requireFilter_bind h
      · exact hother fun _ he => by cases he
      · exact Action.ne_emptyInList_of_course_search_nil
          (fun _ => DeleteChain.unsatisfiableColumn?_of_compile_error) h

/-- With an empty list among its filters a chain has no rows and sends nothing, if nothing else is
wrong with it. -/
theorem course_run_unsatisfiable (hfilters : c.filters? = some filters)
    (hundeferred : c.Undeferred) (hfound : filters.unsatisfiableColumn? = some column)
    (h : (c.run client).Course es r) : es = [] ∧ r = .ok [] := by
  -- The checks before the search pass, and a chain with such a condition has a filter.
  cases c with
  | insert c => cases hfilters
  | upsert c => cases hfilters
  | select c =>
    cases hfilters
    obtain ⟨hrefused, hdeferred⟩ := hundeferred
    have hvalid : c.validate = .ok () := by
      rw [SelectChain.validate, hrefused, Filters.validate_eq_ok hdeferred]
    rw [run, SelectChain.run_eq_search, Action.course_check_bind_ok_iff hvalid] at h
    exact (Action.course_search_iff hfound).1 h
  | update c =>
    cases hfilters
    obtain ⟨⟨values, hvalues⟩, hdeferred⟩ := hundeferred
    have hsome := Filters.isEmpty_of_unsatisfiableColumn? hfound
    rw [run, UpdateChain.run_eq_search,
      Action.course_except_bind_ok_iff (mapError_eq_ok_iff.2 hvalues),
      Action.course_check_bind_ok_iff (Filters.validate_eq_ok hdeferred),
      Action.course_requireFilter_bind_iff hsome] at h
    exact (Action.course_search_iff hfound).1 h
  | delete c =>
    cases hfilters
    have hsome := Filters.isEmpty_of_unsatisfiableColumn? hfound
    rw [run, DeleteChain.run_eq_search,
      Action.course_check_bind_ok_iff (Filters.validate_eq_ok hundeferred),
      Action.course_requireFilter_bind_iff hsome] at h
    exact (Action.course_search_iff hfound).1 h

end Chain

/-! ### Errors -/

/-- The engine answers with no error about an empty list. -/
def BlamesNoEmptyList (es : List Exchange) : Prop :=
  ∀ x ∈ es, ∀ column, x.reply ≠ .error (.emptyInList column)

/-- An error that the engine did not answer with is not among those that it is passed on as. -/
theorem Stops.ne_emptyInList {α : Type} {es : List Exchange} {r : Except Error α}
    {column : String} (h : Stops es r) (hes : BlamesNoEmptyList es)
    (hsome : ¬∀ x ∈ es, x.Answered) : r ≠ .error (.emptyInList column) := by
  cases h with
  | answered hanswered => exact absurd hanswered hsome
  | @failed before st e e' _ hpassed =>
    intro he
    cases he
    cases hpassed with
    | same => exact hes _ (List.mem_append_right _ (List.mem_singleton_self _)) column rfl

theorem blamesNoChain_of_answered {es : List Exchange} (h : ∀ x ∈ es, x.Answered) :
    BlamesNoChain es := by
  intro x hx e he
  obtain ⟨rows, hrows⟩ := h x hx
  rw [hrows] at he
  cases he

/-- Embedding reports no empty list of its own: a lookup asks for one key at least. -/
theorem Embed.ne_emptyInList_of_course_embedAll {client : Client} {n : Nesting} {owner : String}
    {rows : List Row} {es : List Exchange} {r : Except Error (List Row)} {column : String}
    (h : (embedAll client n owner rows).Course es r) (hes : BlamesNoEmptyList es) :
    r ≠ .error (.emptyInList column) := by
  by_cases hanswered : ∀ x ∈ es, x.Answered
  · rintro rfl
    obtain ⟨v, hv, -⟩ :=
      (course_embedAll_violation_iff (blamesNoChain_of_answered hanswered)).1 ⟨h, rfl⟩
    cases hv
  · exact (stops_of_course_embedAll h).ne_emptyInList hes hanswered

namespace Chain

variable {client : Client} {c : Chain} {filters : Filters} {es : List Exchange}
variable {error? : Option Error}

/-- A chain that takes filters reports no empty list, unless the engine does. -/
theorem ne_emptyInList_of_ends {column : String} (hfilters : c.filters? = some filters)
    (h : c.Ends client es error?) (hes : BlamesNoEmptyList es) :
    error? ≠ some (.emptyInList column) := by
  obtain ⟨c', r, hc, hrun, rfl⟩ := ends_iff.1 h
  suffices hr : r ≠ .error (.emptyInList column) by
    cases r with
    | ok rows => exact fun he => by cases he
    | error e => exact fun he => hr (congrArg Except.error (Option.some.inj he))
  -- Before the first statement the search has caught such a list; later only a reply can blame one.
  by_cases hsent : es = []
  · subst hsent
    have hfilters' : c'.filters? = some filters := by
      rcases hc with rfl | rfl
      · exact hfilters
      · rwa [filters?_forSingle]
    exact ne_emptyInList_of_course_run_nil hfilters' hrun
  · obtain ⟨plan, -, hcarry⟩ := (course_run_iff hsent).1 hrun
    obtain ⟨e, rfl, rfl⟩ | ⟨rows, later, rfl, hfinish⟩ := Plan.course_carryOut_iff.1 hcarry
    · exact hes _ (List.mem_singleton_self _) column
    · have hlater : BlamesNoEmptyList later := fun x hx => hes x (List.mem_cons_of_mem _ hx)
      cases hprojection : plan.projection? with
      | none =>
        rw [((Plan.course_finish_none_iff hprojection).1 hfinish).2]
        exact fun he => by cases he
      | some projection =>
        obtain ⟨embedded, hembed, rfl⟩ := (Plan.course_finish_iff hprojection).1 hfinish
        have hne : embedded ≠ .error (.emptyInList column) :=
          Embed.ne_emptyInList_of_course_embedAll hembed hlater
        cases embedded with
        | ok rows => exact fun he => by cases he
        | error e => exact fun he => hne (congrArg Except.error (Except.error.inj he))

/-! ### Statements -/

/-- The query of a chain that takes filters has their clause. -/
theorem Plans.exists_clause {plan : Plan} (hfilters : c.filters? = some filters)
    (h : c.Plans client plan) : ∃ clause, plan.query.clause? = some clause := by
  cases h with
  | select _ _ hcompile =>
    obtain ⟨clause, _, _, -, -, -, -, rfl⟩ := SelectChain.compile_eq_ok_iff.1 hcompile
    exact ⟨clause, rfl⟩
  | insert => cases hfilters
  | upsert => cases hfilters
  | update _ _ _ _ hcompile =>
    obtain ⟨clause, _, _, -, -, -, -, -, rfl⟩ := UpdateChain.compile_eq_ok_iff.1 hcompile
    exact ⟨clause, rfl⟩
  | delete _ _ _ hcompile =>
    obtain ⟨clause, _, -, -, -, rfl⟩ := DeleteChain.compile_eq_ok_iff.1 hcompile
    exact ⟨clause, rfl⟩

/-- Each list in a statement has something in it, in the chain's own statement and in lookups. -/
theorem filled_of_ends (hfilters : c.filters? = some filters) (h : c.Ends client es error?) :
    ∀ x ∈ es, Filled x.statement.sql := by
  have hlookup : ∀ x : Exchange, Embed.IsLookup x.statement → Filled x.statement.sql := by
    rintro x ⟨p, table, keys, hkeys, hst⟩
    obtain ⟨first, rest, rfl⟩ := List.exists_cons_of_ne_nil hkeys
    rw [hst, ← p.statement_query]
    have hclause : (p.query first rest).clause? = some [.member p.key false first rest] := rfl
    exact Query.filled hclause
  -- The first statement is the chain's own, every later one is a lookup.
  by_cases hes : es = []
  · rw [hes]
    intro x hx
    cases hx
  · obtain ⟨c', plan, hc, hplan, hsent⟩ := (ends_sends_iff hes).1 h
    have hown : Filled plan.statement.sql := by
      have hfilters' : c'.filters? = some filters := by
        rcases hc with rfl | rfl
        · exact hfilters
        · rwa [filters?_forSingle]
      obtain ⟨clause, hclause⟩ := hplan.exists_clause hfilters'
      exact Query.filled hclause
    obtain ⟨e, rfl, -⟩ | ⟨rows, later, r, rfl, hfinish, -⟩ := hsent
    · intro x hx
      rw [List.mem_singleton.1 hx]
      exact hown
    · intro x hx
      rcases List.mem_cons.1 hx with rfl | hx
      · exact hown
      · exact hlookup x (Plan.isLookup_of_course_finish hfinish x hx)

/-! ### The law -/

/-- **No empty list reaches the engine or comes back as an error.**  Let a chain take filters.
Whatever it sends, in each statement something stands between any two parentheses outside double
quotes, and if the engine reports no empty list, the chain reports none.  If its filters ask for
membership in the empty list and no violation was put off, it sends nothing and answers with no
rows.  Compiling complains of exactly the column that was searched for, and of none where the
search finds none. -/
theorem no_empty_lists (hfilters : c.filters? = some filters) :
    (∀ es error?, c.Ends client es error? →
      (∀ x ∈ es, ∃ out, outside? false x.statement.sql.toList = some out ∧
        ¬['(', ')'] <:+: out.filter (· ≠ ' ')) ∧
      ((∀ x ∈ es, ∀ column, x.reply ≠ .error (.emptyInList column)) →
        ∀ column, error? ≠ some (.emptyInList column))) ∧
    (c.Undeferred →
      (∃ condition ∈ filters.conditions, condition.operator = .oneOf ∧
        condition.negated = false ∧ condition.value = .arr []) →
      (∀ es response, (c.execute client).Course es response →
        es = [] ∧ response = .ran (some [])) ∧
      ∀ es response, (c.executeSingle client).Course es response →
        es = [] ∧ response = .ran none) ∧
    ∀ conditions : List Condition,
      (∀ column, Clause.compile conditions = .error (.emptyInList column) →
        ({ conditions } : Filters).unsatisfiableColumn? = some column) ∧
      ∀ clause, Clause.compile conditions = .ok clause →
        ({ conditions } : Filters).unsatisfiableColumn? = none := by
  refine ⟨fun es error? h => ⟨?_, fun hes column => ne_emptyInList_of_ends hfilters h hes⟩,
    fun hundeferred hunsatisfiable => ?_,
    fun conditions => ⟨fun column h => ?_, fun clause h => ?_⟩⟩
  · intro x hx
    obtain ⟨_, houtline, hfilled⟩ := filled_of_ends hfilters h x hx
    obtain ⟨out, hout, rfl⟩ := Option.map_eq_some_iff.1 houtline
    exact ⟨out, hout, hfilled.not_infix⟩
  · obtain ⟨condition, hcondition, hempty⟩ := hunsatisfiable
    obtain ⟨column, hfound⟩ := Filters.exists_unsatisfiableColumn? hcondition
      (Condition.isUnsatisfiable_iff.2 hempty)
    constructor
    · intro es response h
      obtain ⟨r, hrun, rfl⟩ := course_execute_iff.1 h
      obtain ⟨rfl, rfl⟩ := course_run_unsatisfiable hfilters hundeferred hfound hrun
      exact ⟨rfl, rfl⟩
    -- A chain for a single row has the same filters.
    · intro es response h
      obtain ⟨r, hrun, rfl⟩ := course_executeSingle_iff.1 h
      obtain ⟨rfl, rfl⟩ := course_run_unsatisfiable ((filters?_forSingle c).trans hfilters)
        hundeferred.forSingle hfound hrun
      exact ⟨rfl, rfl⟩
  · exact Clause.unsatisfiableColumn?_of_compile_error h
  · exact Clause.unsatisfiableColumn?_of_compile h

end Chain

/-- A delete of some invoices, unless they are void. -/
def deleteListed (ids : List Value) : DeleteChain :=
  let listed := Filterable.oneOf (Chain.deleteFrom "invoices") "id" ids
  Filterable.not listed "state" "eq" (.str "void")

/-- Its statement for two invoices. -/
def listedStatement : Statement where
  tag? := some "delete invoices"
  sql := "DELETE FROM invoices WHERE id IN (?, ?) AND NOT (state = ?)"
  params := [.str "1", .str "2", .str "void"]

/-- For two invoices both lists of the statement have something in them; for none, nothing is sent
and no row is deleted. -/
theorem Chain.no_empty_lists_deleteListed :
    ((Chain.delete (deleteListed [.str "1", .str "2"])).Ends {} [⟨listedStatement, .ok []⟩] none ∧
      ∃ out, outside? false listedStatement.sql.toList = some out ∧
        ¬['(', ')'] <:+: out.filter (· ≠ ' ')) ∧
    ((Chain.delete (deleteListed [])).execute {}).Course [] (.ran (some [])) ∧
      ∀ es response, ((Chain.delete (deleteListed [])).execute {}).Course es response →
        es = [] ∧ response = .ran (some []) := by
  have hends : (Chain.delete (deleteListed [.str "1", .str "2"])).Ends {}
      [⟨listedStatement, .ok []⟩] none :=
    .all (Dialogue.course_run Executor.scripted (fun _ => "")
      ((Chain.delete (deleteListed [.str "1", .str "2"])).execute {}) { engine := {} })
  have hnone : ((Chain.delete (deleteListed [])).execute {}).Course [] (.ran (some [])) :=
    Dialogue.course_run Executor.scripted (fun _ => "")
      ((Chain.delete (deleteListed [])).execute {}) { engine := {} }
  obtain ⟨hlisted, -⟩ :=
    (@Chain.no_empty_lists {} (.delete (deleteListed [.str "1", .str "2"])) _ rfl).1 _ _ hends
  obtain ⟨hempty, -⟩ :=
    (@Chain.no_empty_lists {} (.delete (deleteListed [])) _ rfl).2.1 rfl
      ⟨{ column := "id", operator := .oneOf, value := .arr [] }, List.mem_cons_self, rfl, rfl, rfl⟩
  exact ⟨⟨hends, hlisted _ List.mem_cons_self⟩, hnone, hempty⟩

end Graft
