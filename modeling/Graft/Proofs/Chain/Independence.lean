/-
Graft/Proofs/Chain/Independence.lean

The text of a statement does not depend on values.

Two chains that make the same calls with values of the same shape
(`Chain.SameCalls`) differ in nothing but the conditions and the cells that they
hold, and these agree in shape again: that is what each call preserves
(`Chain.Alike`).  Alike chains run alike (`Chain.Alike.run`): both come to a
query of the same text, or both find the same thing wrong, or both find that
there is nothing to do.
-/
import Graft.Proofs.Chain.Shape

namespace Graft

/-! ### Calls -/

namespace Chain

/-- The chains make the same calls, with values of the same shape. -/
inductive SameCalls : Chain → Chain → Prop
  -- where a chain starts
  | selectFrom (table columns : String) :
      SameCalls (.select (selectFrom table columns)) (.select (selectFrom table columns))
  | insertInto (table : String) {p p' : Payload} (h : Payload.Same Payload.SameRows p p') :
      SameCalls (.insert (insertInto table p)) (.insert (insertInto table p'))
  | upsertInto (table : String) {p p' : Payload} (h : Payload.Same Payload.SameRows p p') :
      SameCalls (.upsert (upsertInto table p)) (.upsert (upsertInto table p'))
  | updateOf (table : String) {p p' : Payload} (h : Payload.Same Payload.SameKeys p p') :
      SameCalls (.update (updateOf table p)) (.update (updateOf table p'))
  | deleteFrom (table : String) :
      SameCalls (.delete (deleteFrom table)) (.delete (deleteFrom table))
  -- filters
  | filterSelect {c c' : SelectChain} {call call' : FilterCall}
      (h : SameCalls (.select c) (.select c')) (hcall : call.SameShape call') :
      SameCalls (.select (call.apply c)) (.select (call'.apply c'))
  | filterUpdate {c c' : UpdateChain} {call call' : FilterCall}
      (h : SameCalls (.update c) (.update c')) (hcall : call.SameShape call') :
      SameCalls (.update (call.apply c)) (.update (call'.apply c'))
  | filterDelete {c c' : DeleteChain} {call call' : FilterCall}
      (h : SameCalls (.delete c) (.delete c')) (hcall : call.SameShape call') :
      SameCalls (.delete (call.apply c)) (.delete (call'.apply c'))
  -- which rows of the table
  | orderBy {c c' : SelectChain} (column : String) (direction : Direction)
      (h : SameCalls (.select c) (.select c')) :
      SameCalls (.select (c.orderBy column direction)) (.select (c'.orderBy column direction))
  | limit {c c' : SelectChain} (count : UInt64) (h : SameCalls (.select c) (.select c')) :
      SameCalls (.select (c.limit count)) (.select (c'.limit count))
  | range {c c' : SelectChain} (first last : UInt64) (h : SameCalls (.select c) (.select c')) :
      SameCalls (.select (c.range first last)) (.select (c'.range first last))
  | allUpdate {c c' : UpdateChain} (h : SameCalls (.update c) (.update c')) :
      SameCalls (.update c.all) (.update c'.all)
  | allDelete {c c' : DeleteChain} (h : SameCalls (.delete c) (.delete c')) :
      SameCalls (.delete c.all) (.delete c'.all)
  -- what is done with rows that are there
  | onConflict {c c' : UpsertChain} (columns : String) (h : SameCalls (.upsert c) (.upsert c')) :
      SameCalls (.upsert (c.onConflict columns)) (.upsert (c'.onConflict columns))
  | ignoringDuplicates {c c' : UpsertChain} (ignore : Bool)
      (h : SameCalls (.upsert c) (.upsert c')) :
      SameCalls (.upsert (c.ignoringDuplicates ignore)) (.upsert (c'.ignoringDuplicates ignore))
  -- what is wanted of the rows
  | wantInserted {c c' : InsertChain} (columns : String) (h : SameCalls (.insert c) (.insert c')) :
      SameCalls (.insert (c.select columns)) (.insert (c'.select columns))
  | wantUpserted {c c' : UpsertChain} (columns : String) (h : SameCalls (.upsert c) (.upsert c')) :
      SameCalls (.upsert (c.select columns)) (.upsert (c'.select columns))
  | wantUpdated {c c' : UpdateChain} (columns : String) (h : SameCalls (.update c) (.update c')) :
      SameCalls (.update (c.select columns)) (.update (c'.select columns))
  | wantDeleted {c c' : DeleteChain} (columns : String) (h : SameCalls (.delete c) (.delete c')) :
      SameCalls (.delete (c.select columns)) (.delete (c'.select columns))

/-- The chains differ in their conditions and cells only, and these agree in shape. -/
inductive Alike : Chain → Chain → Prop
  | select {c : SelectChain} {filters : Filters} (h : c.filters.Alike filters) :
      Alike (.select c) (.select { c with filters })
  | insert {c : InsertChain} {rows : Except Payload.Fault (List Row)}
      (h : Agree Payload.AlikeRows c.rows rows) : Alike (.insert c) (.insert { c with rows })
  | upsert {c : UpsertChain} {rows : Except Payload.Fault (List Row)}
      (h : Agree Payload.AlikeRows c.rows rows) : Alike (.upsert c) (.upsert { c with rows })
  | update {c : UpdateChain} {values : Except Payload.Fault Row} {filters : Filters}
      (hvalues : Agree Row.Alike c.values values)
      (h : c.filters.Alike filters) : Alike (.update c) (.update { c with values, filters })
  | delete {c : DeleteChain} {filters : Filters} (h : c.filters.Alike filters) :
      Alike (.delete c) (.delete { c with filters })

/-- A start makes alike chains, and each call leaves them alike. -/
theorem SameCalls.alike {c c' : Chain} (h : c.SameCalls c') : c.Alike c' := by
  have hnone : Filters.Alike {} {} := ⟨.nil, rfl⟩
  -- By the last call.  A call is there for some verbs only, so the chain before it is one of these.
  induction h with
  | selectFrom table columns => exact .select hnone
  | insertInto table h => exact .insert (h.read Payload.SameRows.readRows)
  | upsertInto table h => exact .upsert (h.read Payload.SameRows.readRows)
  | updateOf table h => exact .update (h.read Payload.SameKeys.readValues) hnone
  | deleteFrom table => exact .delete hnone
  | filterSelect _ hcall ih =>
    rw [FilterCall.apply_eq, FilterCall.apply_eq]
    cases ih with
    | select h => exact .select (h.add hcall)
  | filterUpdate _ hcall ih =>
    rw [FilterCall.apply_eq, FilterCall.apply_eq]
    cases ih with
    | update hvalues h => exact .update hvalues (h.add hcall)
  | filterDelete _ hcall ih =>
    rw [FilterCall.apply_eq, FilterCall.apply_eq]
    cases ih with
    | delete h => exact .delete (h.add hcall)
  | orderBy column direction _ ih =>
    cases ih with
    | select h => exact .select h
  -- A window is refused for its numbers alone, and these are the same in both chains.
  | limit count _ ih =>
    cases ih with
    | select h =>
      unfold SelectChain.limit
      split
      · exact .select h
      · exact .select h
  | range first last _ ih =>
    cases ih with
    | select h =>
      unfold SelectChain.range
      split
      · exact .select h
      · split
        · exact .select h
        · exact .select h
  | allUpdate _ ih =>
    cases ih with
    | update hvalues h => exact .update hvalues h
  | allDelete _ ih =>
    cases ih with
    | delete h => exact .delete h
  | onConflict columns _ ih =>
    cases ih with
    | upsert h => exact .upsert h
  | ignoringDuplicates ignore _ ih =>
    cases ih with
    | upsert h => exact .upsert h
  | wantInserted columns _ ih =>
    cases ih with
    | insert h => exact .insert h
  | wantUpserted columns _ ih =>
    cases ih with
    | upsert h => exact .upsert h
  | wantUpdated columns _ ih =>
    cases ih with
    | update hvalues h => exact .update hvalues h
  | wantDeleted columns _ ih =>
    cases ih with
    | delete h => exact .delete h

theorem Alike.forSingle {c c' : Chain} (h : c.Alike c') : c.forSingle.Alike c'.forSingle := by
  cases h with
  | select h => exact .select h
  | insert h => exact .insert h
  | upsert h => exact .upsert h
  | update hvalues h => exact .update hvalues h
  | delete h => exact .delete h

end Chain

/-! ### Running chains -/

/-- Actions that send statements of the same text, or give no rows, or fail with the same error. -/
abbrev Action.AlikeRun (x x' : Action (List Row)) : Prop :=
  Action.Alike (fun rows rows' => rows = [] ∧ rows' = []) x x'

section

variable {client : Client}

theorem alike_requireFilter {f f' : Filters} (h : f.Alike f') (operation : Mutation)
    (table : String) (everyRow : Bool) :
    Action.Alike (fun _ _ => True) (requireFilter operation table f everyRow)
      (requireFilter operation table f' everyRow) := by
  unfold requireFilter
  rw [h.isEmpty_eq]
  split
  · split
    · exact .tellLeft (.tellRight (.done (.ok trivial)))
    · exact .done (.error _)
  · exact Action.alike_pure trivial

theorem Action.alike_search {p : Type} {f f' : Filters} {event : String → Event}
    {x x' : Except Error (Query × p)} {tag : String}
    {next next' : Query × p → List Row → Action (List Row)} (h : f.Alike f')
    (hx : Agree (fun q q' => q.1.Alike q'.1) x x') :
    AlikeRun (search f event x tag next) (search f' event x' tag next') := by
  unfold search
  rw [h.unsatisfiableColumn?_eq]
  split
  · exact alike_tell_bind (alike_pure ⟨rfl, rfl⟩)
  · exact (alike_except hx).bind fun q q' hq => alike_query_bind hq.sql_eq _ _ _ _

theorem SelectChain.alike_run (c : SelectChain) {filters : Filters} (h : c.filters.Alike filters) :
    Action.AlikeRun (c.run client) ({ c with filters }.run client) := by
  have hvalid : validate { c with filters } = c.validate := by
    unfold validate
    rw [h.validate_eq]
  rw [run_eq_search, run_eq_search, hvalid]
  refine (Action.alike_check (.refl _)).bind fun _ _ _ => ?_
  exact Action.alike_search h (c.alike_compile h)

/-- Where there are rows to insert, in one chain and in the other, what follows gets them with
their keys. -/
theorem Client.alike_keyedRows_bind {event : Event} {rows rows' : List Row}
    {x x' : List Row → Action (List Row)} (h : Payload.AlikeRows rows rows')
    (hx : ∀ keyed keyed', Payload.AlikeRows keyed keyed' → Action.AlikeRun (x keyed) (x' keyed')) :
    Action.AlikeRun
      (if rows.isEmpty then Action.tell event >>= fun _ => pure []
        else client.keyedRows rows >>= x)
      (if rows'.isEmpty then Action.tell event >>= fun _ => pure []
        else client.keyedRows rows' >>= x') := by
  have hempty : rows.isEmpty = rows'.isEmpty := by
    rw [Bool.eq_iff_iff, List.isEmpty_iff_length_eq_zero, List.isEmpty_iff_length_eq_zero,
      h.length_eq]
  rw [hempty]
  split
  · exact Action.alike_tell_bind (Action.alike_pure ⟨rfl, rfl⟩)
  · exact (client.alike_keyedRows h).bind hx

theorem InsertChain.alike_run (c : InsertChain) {rows : Except Payload.Fault (List Row)}
    (h : Agree Payload.AlikeRows c.rows rows) :
    Action.AlikeRun (c.run client) ({ c with rows }.run client) := by
  unfold run
  refine (Action.alike_except (h.mapError _)).bind fun rows rows' hrows => ?_
  refine Client.alike_keyedRows_bind hrows fun keyed keyed' hkeyed => ?_
  refine (Action.alike_except (c.alike_compile hkeyed)).bind fun q q' hq => ?_
  exact Action.alike_query_bind hq.sql_eq _ _ _ _

theorem UpsertChain.alike_run (c : UpsertChain) {rows : Except Payload.Fault (List Row)}
    (h : Agree Payload.AlikeRows c.rows rows) :
    Action.AlikeRun (c.run client) ({ c with rows }.run client) := by
  unfold run
  refine (Action.alike_check (.refl (c.conflictColumns client))).bind fun conflict _ hconflict => ?_
  subst hconflict
  refine (Action.alike_except (h.mapError _)).bind fun rows rows' hrows => ?_
  refine Client.alike_keyedRows_bind hrows fun keyed keyed' hkeyed => ?_
  refine (Action.alike_except (c.alike_compile conflict hkeyed)).bind fun q q' hq => ?_
  exact Action.alike_query_bind hq.sql_eq _ _ _ _

theorem UpdateChain.alike_run (c : UpdateChain) {values : Except Payload.Fault Row}
    {filters : Filters} (hvalues : Agree Row.Alike c.values values)
    (h : c.filters.Alike filters) :
    Action.AlikeRun (c.run client) ({ c with values, filters }.run client) := by
  rw [run_eq_search, run_eq_search, h.validate_eq]
  refine (Action.alike_except (hvalues.mapError _)).bind fun values values' hvalues => ?_
  refine (Action.alike_check (.refl _)).bind fun _ _ _ => ?_
  refine (alike_requireFilter h _ _ _).bind fun _ _ _ => ?_
  exact Action.alike_search h (c.alike_compile hvalues h)

theorem DeleteChain.alike_run (c : DeleteChain) {filters : Filters} (h : c.filters.Alike filters) :
    Action.AlikeRun (c.run client) ({ c with filters }.run client) := by
  rw [run_eq_search, run_eq_search, h.validate_eq]
  refine (Action.alike_check (.refl _)).bind fun _ _ _ => ?_
  refine (alike_requireFilter h _ _ _).bind fun _ _ _ => ?_
  exact Action.alike_search h (c.alike_compile h)

end

namespace Chain

/-- Alike chains run alike. -/
theorem Alike.run {c c' : Chain} (h : c.Alike c') (client : Client) :
    Action.AlikeRun (c.run client) (c'.run client) := by
  cases h with
  | select h => exact SelectChain.alike_run _ h
  | insert h => exact InsertChain.alike_run _ h
  | upsert h => exact UpsertChain.alike_run _ h
  | update hvalues h => exact UpdateChain.alike_run _ hvalues h
  | delete h => exact DeleteChain.alike_run _ h

/-- Of alike chains, both begin with a statement of the same text, or neither sends anything. -/
theorem Alike.outcome {client : Client} {c c' : Chain} (h : c.Alike c') {es es' : List Exchange}
    {r r' : Except Error (List Row)} (hrun : (c.run client).Course es r)
    (hrun' : (c'.run client).Course es' r') :
    Dialogue.BeginAlike es es' ∨
      es = [] ∧ es' = [] ∧ r = r' ∧ (r = .ok [] ∨ ∃ e, r = .error e) := by
  refine (Dialogue.Alike.courses (h.run client) hrun hrun').imp_right ?_
  rintro ⟨rfl, rfl, hr⟩
  cases hr with
  | ok hrows =>
    obtain ⟨rfl, rfl⟩ := hrows
    exact ⟨rfl, rfl, rfl, .inl rfl⟩
  | error e => exact ⟨rfl, rfl, rfl, .inr ⟨e, rfl⟩⟩

/-! ### The law -/

/-- **The text of a statement does not depend on values.**  Let two chains make the same calls, with
values of the same shape.  Whatever the engine replies, either both first send a statement of their
own and these have the same text, or neither sends anything, and both have the same outcome: the
same error, or no rows. -/
theorem sql_of_sameCalls {client : Client} {c c' : Chain} (h : c.SameCalls c')
    {es es' : List Exchange} :
    (∀ response response', (c.execute client).Course es response →
      (c'.execute client).Course es' response' →
      (∃ x later x' later', es = x :: later ∧ es' = x' :: later' ∧
          x.statement.sql = x'.statement.sql) ∨
        es = [] ∧ es' = [] ∧ response = response' ∧
          (response = .ran (some []) ∨ ∃ e, response = .failed e)) ∧
    ∀ response response', (c.executeSingle client).Course es response →
      (c'.executeSingle client).Course es' response' →
      (∃ x later x' later', es = x :: later ∧ es' = x' :: later' ∧
          x.statement.sql = x'.statement.sql) ∨
        es = [] ∧ es' = [] ∧ response = response' ∧
          (response = .ran none ∨ ∃ e, response = .failed e) := by
  constructor
  · intro response response' hexecute hexecute'
    obtain ⟨r, hrun, rfl⟩ := course_execute_iff.1 hexecute
    obtain ⟨r', hrun', rfl⟩ := course_execute_iff.1 hexecute'
    refine (h.alike.outcome hrun hrun').imp_right ?_
    rintro ⟨rfl, rfl, rfl, rfl | ⟨e, rfl⟩⟩
    · exact ⟨rfl, rfl, rfl, .inl rfl⟩
    · exact ⟨rfl, rfl, rfl, .inr ⟨e, rfl⟩⟩
  · intro response response' hexecute hexecute'
    obtain ⟨r, hrun, rfl⟩ := course_executeSingle_iff.1 hexecute
    obtain ⟨r', hrun', rfl⟩ := course_executeSingle_iff.1 hexecute'
    refine (h.alike.forSingle.outcome hrun hrun').imp_right ?_
    rintro ⟨rfl, rfl, rfl, rfl | ⟨e, rfl⟩⟩
    · exact ⟨rfl, rfl, rfl, .inl rfl⟩
    · exact ⟨rfl, rfl, rfl, .inr ⟨e, rfl⟩⟩

end Chain

/-- An invoice to be inserted, with its key and its total. -/
def newInvoice (id total : Value) : InsertChain :=
  Chain.insertInto "invoices" (.value (.obj [("id", id), ("total", total)]))

/-- The statement for an invoice without a key or a total. -/
def newStatement (id : String) : Statement where
  tag? := some "insert invoices"
  sql := "INSERT INTO invoices (id, total) VALUES (?, ?) RETURNING *"
  params := [.str id, .null]

/-- The key of the one invoice is drawn and that of the other is given, and the text is the
same. -/
theorem Chain.sql_of_sameCalls_newInvoice :
    (Chain.insert (newInvoice .null .null)).SameCalls
        (.insert (newInvoice (.str "7") (.bool true))) ∧
      ((Chain.insert (newInvoice .null .null)).execute {}).Course
        [⟨newStatement "fresh", .error (.backend "locked")⟩] (.failed (.backend "locked")) ∧
      ∀ es response,
        ((Chain.insert (newInvoice (.str "7") (.bool true))).execute {}).Course es response →
        ∃ x later, es = x :: later ∧
          x.statement.sql = "INSERT INTO invoices (id, total) VALUES (?, ?) RETURNING *" := by
  have hcalls : (Chain.insert (newInvoice .null .null)).SameCalls
      (.insert (newInvoice (.str "7") (.bool true))) :=
    .insertInto "invoices" (.value (.one (.row rfl) (by decide)))
  have hfresh : ((Chain.insert (newInvoice .null .null)).execute {}).Course
      [⟨newStatement "fresh", .error (.backend "locked")⟩] (.failed (.backend "locked")) :=
    Dialogue.course_run Executor.scripted (fun _ => "fresh")
      ((Chain.insert (newInvoice .null .null)).execute {})
      { engine := { replies := [.error (.backend "locked")] } }
  refine ⟨hcalls, hfresh, fun es response h => ?_⟩
  obtain ⟨x, later, x', later', hes, rfl, hsql⟩ | ⟨hes, -⟩ :=
    (Chain.sql_of_sameCalls hcalls).1 _ _ hfresh h
  · cases hes
    exact ⟨x', later', rfl, hsql.symm⟩
  · cases hes

end Graft
