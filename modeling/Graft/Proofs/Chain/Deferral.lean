/-
Graft/Proofs/Chain/Deferral.lean

How an operator that is none is reported.

A filter call never fails, not even if it names an operator that there is not.
The first such fault is remembered (`Filters.deferred_after`) and reported when
the filters are used (`Filters.compile_after`):

* by the filters themselves, before anything that is wrong with their
  conditions;
* by a chain, before anything is sent and, but for a refused window and a
  payload that is no object, before anything else that is wrong with it
  (`Chain.Reports`).

All of them report the same error, which is of the kind of the fault.  Its text
is not that of the fault: what is remembered is a text that has the heading of a
report already, and in the report it is given the heading once more
(`Filters.reports_first`, `Filters.not_forall_reported_as_occurred`).
-/
import Graft.Proofs.Chain.Window

namespace Graft

/-! ### Filters that take calls themselves -/

/-- Filters take filter calls as chains do. -/
instance : Filterable Filters where
  modifyFilters change f := change f

namespace Filters

/-- The filters after some calls. -/
def after (calls : List FilterCall) : Filters :=
  calls.foldl FilterCall.apply {}

theorem after_eq (calls : List FilterCall) : after calls = calls.foldl add {} := by
  have happly : (FilterCall.apply : Filters → FilterCall → Filters) = add :=
    funext fun f => funext fun call => FilterCall.apply_eq f call
  rw [after, happly]

theorem after_concat (calls : List FilterCall) (call : FilterCall) :
    after (calls ++ [call]) = (after calls).add call := by
  rw [after_eq, after_eq, List.foldl_concat]

/-- What is remembered is the first fault. -/
theorem deferred_after (calls : List FilterCall) :
    (after calls).deferred = calls.findSome? FilterCall.fault? := by
  rw [after_eq, deferred_foldl_add]
  exact Option.none_or

/-- The filters are not valid just if there is a fault, and then the first one is reported. -/
theorem validate_after_eq_error_iff {calls : List FilterCall} {w : Violation} :
    (after calls).validate = .error w ↔
      ∃ v, calls.findSome? FilterCall.fault? = some v ∧ w = .deferred v := by
  rw [validate, deferred_after]
  cases calls.findSome? FilterCall.fault? with
  | none => simp
  | some v => simp [eq_comm]

/-- Filters with a fault are not compiled, whatever else is wrong with them. -/
theorem compile_after {calls : List FilterCall} {v : Violation}
    (h : calls.findSome? FilterCall.fault? = some v) :
    (after calls).compile = .error (.validation (.deferred v)) := by
  rw [compile, validate_after_eq_error_iff.2 ⟨v, h, rfl⟩]
  rfl

end Filters

/-! ### Chains that report an error -/

/-- However the chain is run, it sends nothing and reports the error. -/
def Chain.Reports (client : Client) (c : Chain) (e : Error) : Prop :=
  ∀ es error?, c.Ends client es error? ↔ es = [] ∧ error? = some e

section

variable {client : Client} {v : Violation}

/-- It is enough that the chain reports the error when it is run for all its rows, and when it is
run for a single one. -/
theorem Chain.reports_of_run {c : Chain} {e : Error}
    (hrun : ∀ c', c' = c ∨ c' = c.forSingle → ∀ es r,
      (c'.run client).Course es r ↔ es = [] ∧ r = .error e) : c.Reports client e := by
  intro es error?
  rw [ends_iff]
  constructor
  · rintro ⟨c', r, hc, hcourse, rfl⟩
    obtain ⟨hnil, rfl⟩ := (hrun c' hc es r).1 hcourse
    exact ⟨hnil, rfl⟩
  · rintro ⟨hnil, rfl⟩
    exact ⟨c, .error e, .inl rfl, (hrun c (.inl rfl) es _).2 ⟨hnil, rfl⟩, rfl⟩

theorem SelectChain.reports_of_validate {c : SelectChain} (h : c.validate = .error v) :
    (Chain.select c).Reports client (.validation v) := by
  -- the limit that running for a single row sets is not looked at
  have hsingle : c.single.validate = .error v := h
  refine Chain.reports_of_run fun c' hc es r => ?_
  rcases hc with rfl | rfl
  · exact course_run_of_validate_error h
  · exact course_run_of_validate_error hsingle

/-! ### Selects -/

namespace SelectCall

/-- The filter call that a call is. -/
def filter? : SelectCall → Option FilterCall
  | .filter call => some call
  | _ => none

/-- The filter calls among some calls. -/
def filters (calls : List SelectCall) : List FilterCall :=
  calls.filterMap filter?

theorem filters_concat (calls : List SelectCall) (call : SelectCall) :
    filters (calls ++ [call]) = filters calls ++ call.filter?.toList := by
  rw [filters, List.filterMap_append]
  cases hfilter : call.filter? <;> simp [filters, hfilter]

end SelectCall

namespace SelectChain

theorem Beside.filters_eq {c bare : SelectChain} (h : c.Beside bare) :
    c.filters = bare.filters := by
  cases h
  rfl

/-- The filters of a select are those after its filter calls. -/
theorem filters_after (table columns : String) (calls : List SelectCall) :
    (after table columns calls).filters = Filters.after (SelectCall.filters calls) := by
  induction calls using List.reverseRecOn with
  | nil => rfl
  | append_singleton calls call ih =>
    rw [after_concat, SelectCall.filters_concat]
    generalize after table columns calls = c at ih
    -- Only a filter call touches the filters.
    cases call with
    | filter call =>
      rw [SelectCall.apply, FilterCall.apply_eq]
      show c.filters.add call = Filters.after (SelectCall.filters calls ++ [call])
      rw [Filters.after_concat, ih]
    | orderBy column direction =>
      simp only [SelectCall.filter?, Option.toList_none, List.append_nil]
      exact ih
    | window call =>
      simp only [SelectCall.filter?, Option.toList_none, List.append_nil]
      exact ((Beside.mk c c.window? c.refused?).window call).filters_eq.trans ih

/-- A select of which no window was refused is as valid as its filters. -/
theorem validate_after {table columns : String} {calls : List SelectCall}
    (haccepted : ∀ call ∈ SelectCall.windows calls, call.complaint? = none) :
    (after table columns calls).validate =
      (Filters.after (SelectCall.filters calls)).validate := by
  have hrefused := (windowed_after table columns calls).refused
  rw [List.findSome?_eq_none_iff.2 haccepted, Option.map_eq_none_iff] at hrefused
  rw [validate, hrefused, filters_after]

end SelectChain

/-! ### Updates and deletes -/

namespace BareMutation

/-- Nothing is wrong with the mutation before its filters: what an update sets is an object. -/
def Begins : BareMutation → Prop
  | .update _ payload => ∃ values, payload.read Payload.readValues = .ok values
  | .delete _ => True

/-- A mutation that begins reports what is wrong with its filters. -/
theorem reports_of_validate {b : BareMutation} (hbegins : b.Begins) {calls : List MutationCall}
    (h : (Filters.after (MutationCall.filters calls)).validate = .error v) :
    (b.after calls).Reports client (.validation v) := by
  rw [Filters.after_eq, ← Scope.filters_after] at h
  refine Chain.reports_of_run fun c' hc es r => ?_
  rw [forSingle_after, or_self] at hc
  subst hc
  cases b with
  | update table payload =>
    obtain ⟨values, hvalues⟩ := hbegins
    obtain ⟨returning, hafter⟩ := exists_after_update table payload calls
    rw [hafter, Chain.run, UpdateChain.run,
      Action.course_except_bind_ok_iff (mapError_eq_ok_iff.2 hvalues),
      Action.course_check_bind_error_iff h]
  | delete table =>
    obtain ⟨returning?, hafter⟩ := exists_after_delete table calls
    rw [hafter, Chain.run, DeleteChain.run, Action.course_check_bind_error_iff h]

end BareMutation

end

/-! ### The law -/

namespace Filters

/-- **The first fault is reported, in every place alike.**  Let some filter calls name an operator
that there is not, and let `v` be what is wrong with the first of them.  Then the filters are
neither valid nor compiled.  Nor is the statement of a select told or sent whose filter calls these
are, unless one of its windows is refused; nor is that of an update, unless it does not set an
object, or of a delete.  The error is the same each time, and it is a violation as `v` is one; but
in words it has the heading of a report twice. -/
theorem reports_first {calls : List FilterCall} {v : Violation}
    (h : calls.findSome? FilterCall.fault? = some v) :
    (after calls).validate = .error (.deferred v) ∧
    (after calls).compile = .error (.validation (.deferred v)) ∧
    (Error.validation (.deferred v)).message =
      "Validation error: " ++ (Error.validation v).message ∧
    (∀ client table columns selectCalls, SelectCall.filters selectCalls = calls →
      (∀ call ∈ SelectCall.windows selectCalls, call.complaint? = none) →
      (SelectChain.after table columns selectCalls).toSql client =
          .error (.validation (.deferred v)) ∧
        (Chain.select (SelectChain.after table columns selectCalls)).Reports client
          (.validation (.deferred v))) ∧
    ∀ client (b : BareMutation) mutationCalls, MutationCall.filters mutationCalls = calls →
      b.Begins → (b.after mutationCalls).Reports client (.validation (.deferred v)) := by
  have hvalidate : (after calls).validate = .error (.deferred v) :=
    validate_after_eq_error_iff.2 ⟨v, h, rfl⟩
  refine ⟨hvalidate, compile_after h, rfl, ?_, ?_⟩
  · rintro client table columns selectCalls rfl haccepted
    have hchain : (SelectChain.after table columns selectCalls).validate =
        .error (.deferred v) := (SelectChain.validate_after haccepted).trans hvalidate
    exact ⟨SelectChain.toSql_eq_error_iff.2 (.inl ⟨_, hchain, rfl⟩),
      SelectChain.reports_of_validate hchain⟩
  · rintro client b mutationCalls rfl hbegins
    exact BareMutation.reports_of_validate hbegins hvalidate

/-- Some filter calls, of which two name operators that there are not. -/
def betweenCalls : List FilterCall :=
  [.compare "1bad" .eq (.str "1"), .filter "total" ">=" (.str "9"),
    .filter "total" " Between " (.arr []), .not "state" "nope" (.str "void")]

/-- The first of them is reported, also by an update that is meant for every row and by a select
whose table is no name. -/
theorem reports_first_betweenCalls :
    betweenCalls.findSome? FilterCall.fault? = some (.unknownOperator "between") ∧
      (Error.validation (.deferred (.unknownOperator "between"))).message =
        "Validation error: Validation error: Unsupported filter operator 'between'" ∧
      (after betweenCalls).compile = .error (.validation (.deferred (.unknownOperator "between"))) ∧
      (SelectChain.after "1bad" "id"
          (.window (.limit 5) :: betweenCalls.map .filter)).toSql {} =
        .error (.validation (.deferred (.unknownOperator "between"))) ∧
      ((BareMutation.update "invoices" (.value (.obj []))).after
          (.all :: betweenCalls.map .filter)).Reports {}
        (.validation (.deferred (.unknownOperator "between"))) := by
  have hfault : betweenCalls.findSome? FilterCall.fault? = some (.unknownOperator "between") := by
    decide
  obtain ⟨-, hcompile, hmessage, hselect, hmutation⟩ := reports_first hfault
  refine ⟨hfault, hmessage.trans (by decide), hcompile, ?_, ?_⟩
  · exact (hselect {} "1bad" "id" (.window (.limit 5) :: betweenCalls.map .filter) rfl
      (by decide)).1
  · exact hmutation {} (.update "invoices" (.value (.obj [])))
      (.all :: betweenCalls.map .filter) rfl ⟨_, rfl⟩

/-- The first fault is not always reported in the words in which it was found. -/
theorem not_forall_reported_as_occurred :
    ¬ ∀ (calls : List FilterCall) (v : Violation) (e : Error),
      calls.findSome? FilterCall.fault? = some v → (after calls).compile = .error e →
      e.message = (Error.validation v).message := by
  intro h
  have hfault : [FilterCall.filter "status" "nope" (.str "x")].findSome? FilterCall.fault? =
      some (.unknownOperator "nope") := by
    decide
  have hmessage := h _ _ _ hfault (compile_after hfault)
  revert hmessage
  decide

end Filters

end Graft
