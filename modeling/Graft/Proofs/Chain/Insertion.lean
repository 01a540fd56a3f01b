/-
Graft/Proofs/Chain/Insertion.lean

What inserts and upserts send of their payloads.

An insert and an upsert differ in what they check first, and in the end of their
statement.  Else they are the same: the rows of the payload get their keys, an
insertion of them is compiled, and the plan is carried out
(`Chain.Inserts.run_eq`).  So what becomes of a payload is said of both at once:
when it is refused, when there is nothing to do, and of which rows the statement
is an insertion (`Chain.Inserts.sends`).
-/
import Graft.Proofs.Chain.Alignment
import Graft.Proofs.Chain.Payload
import Graft.Proofs.Chain.Shape

namespace Graft

/-! ### The text of an insertion -/

namespace Payload

/-- An insertion of so many rows: the columns, and for each row a tuple with one question mark for
each column. -/
def insertSql (table : String) (names : List String) (count : Nat) : String :=
  "INSERT INTO " ++ nameSql table ++ " (" ++ ", ".intercalate (names.map nameSql) ++ ") VALUES " ++
    ", ".intercalate (List.replicate count
      ("(" ++ ", ".intercalate (names.map fun _ => "?") ++ ")"))

/-- An insertion that was compiled is written with the columns of all rows. -/
theorem Insertion.sql_insert {table : String} {rows : List Row} {i : Insertion}
    (h : compile table rows = .ok i) (conflict? : Option Conflict) (returning : List Column) :
    (Query.insert i.table i.columns i.rows conflict? returning).sql =
      insertSql table (columnUnion rows) rows.length ++ (conflict?.map Conflict.sql).getD "" ++
        Query.returningSql returning := by
  obtain ⟨columns, ident, hcolumns, hident, rfl⟩ := compile_eq_ok_iff.1 h
  have hnames : columns.map Ident.sql = (columnUnion rows).map nameSql :=
    map_eq_of_mapM_ok (fun _ _ => sql_eq_nameSql) hcolumns
  have htuples : (rows.map (cellsIn (columnUnion rows))).map Query.tupleSql =
      List.replicate rows.length
        ("(" ++ ", ".intercalate ((columnUnion rows).map fun _ => "?") ++ ")") := by
    rw [List.map_map, ← List.map_const']
    exact List.map_congr_left fun row _ => tupleSql_cellsIn _ row
  have htext : ∀ tuples, (Query.insert ident columns tuples conflict? returning).sql =
      "INSERT INTO " ++ ident.sql ++ " (" ++ ", ".intercalate (columns.map Ident.sql) ++
        ") VALUES " ++ ", ".intercalate (tuples.map Query.tupleSql) ++
        (conflict?.map Conflict.sql).getD "" ++ Query.returningSql returning := fun _ => rfl
  unfold insertSql
  rw [htext, htuples, hnames, sql_eq_nameSql hident]

end Payload

/-! ### Chains that insert a payload -/

namespace Chain

section

variable {σ : Type} (client : Client) (c : Chain) (ex : Executor σ) (ids : Nat → String)
variable (s : Session σ)

theorem transcript_execute :
    (c.execute client).transcript ex ids s = Dialogue.transcript ex ids (c.run client).run s :=
  Dialogue.transcript_map Response.ofExcept _ ex s

theorem run_execute :
    ((c.execute client).run ex ids s).1 =
      .ofExcept (Dialogue.run ex ids (c.run client).run s).1 :=
  congrArg Prod.fst (Dialogue.run_map Response.ofExcept _ ex s)

end

/-- `c.Inserts payload`: the chain begins as an insert or an upsert of the payload, and goes on with
any calls. -/
inductive Inserts (payload : Payload) : Chain → Prop
  -- where the chain starts
  | insertInto (table : String) : Inserts payload (.insert (insertInto table payload))
  | upsertInto (table : String) : Inserts payload (.upsert (upsertInto table payload))
  -- what is done with rows that are there
  | onConflict {c : UpsertChain} (columns : String) (h : Inserts payload (.upsert c)) :
      Inserts payload (.upsert (c.onConflict columns))
  | ignoringDuplicates {c : UpsertChain} (ignore : Bool) (h : Inserts payload (.upsert c)) :
      Inserts payload (.upsert (c.ignoringDuplicates ignore))
  -- what is wanted of the rows
  | wantInserted {c : InsertChain} (columns : String) (h : Inserts payload (.insert c)) :
      Inserts payload (.insert (c.select columns))
  | wantUpserted {c : UpsertChain} (columns : String) (h : Inserts payload (.upsert c)) :
      Inserts payload (.upsert (c.select columns))

/-- The rows that a chain inserts, if it is one that does. -/
def inserted? : Chain → Option (Except Payload.Fault (List Row))
  | .insert c => some c.rows
  | .upsert c => some c.rows
  | _ => none

/-- No call changes the rows of the payload. -/
theorem Inserts.inserted?_eq {payload : Payload} {c : Chain} (h : c.Inserts payload) :
    c.inserted? = some (payload.read Payload.readRows) := by
  induction h with
  | insertInto table => rfl
  | upsertInto table => rfl
  | onConflict columns _ ih => exact ih
  | ignoringDuplicates ignore _ ih => exact ih
  | wantInserted columns _ ih => exact ih
  | wantUpserted columns _ ih => exact ih

/-- For a single row the chain is run as for all of them. -/
theorem Inserts.executeSingle_eq {payload : Payload} {c : Chain} (h : c.Inserts payload)
    (client : Client) : c.executeSingle client = Response.first <$> c.execute client := by
  cases c with
  | select c => cases h
  | _ => rfl

/-- The chain names a column that tells whether a row is there, if it has to. -/
def Aimed (client : Client) : Chain → Prop
  | .upsert c => Selection.listItems (c.conflict?.getD client.settings.primaryKey) ≠ []
  | _ => True

end Chain

theorem UpsertChain.exists_conflictColumns_iff {client : Client} {c : UpsertChain} :
    (∃ conflict, c.conflictColumns client = .ok conflict) ↔ (Chain.upsert c).Aimed client := by
  unfold conflictColumns Chain.Aimed
  split
  · next hitems => simp [hitems]
  · next hitems => simpa using hitems

namespace Chain.Inserts

variable {client : Client} {payload : Payload} {c : Chain} {es : List Exchange}
variable {r : Except Error (List Row)}

/-- A payload that is no rows is refused, and so is an upsert without a column to go by. -/
theorem course_run_refused (h : c.Inserts payload)
    (hrefused : payload.objects? = none ∨ ¬c.Aimed client)
    (hrun : (c.run client).Course es r) :
    es = [] ∧ ∃ e, r = .error e ∧ ((∃ v, e = .validation v) ∨
      ∃ reason, payload = .unserialized reason ∧ e = .decode reason) := by
  have hrows := h.inserted?_eq
  cases c with
  | insert c =>
    obtain ⟨fault, hread, herror⟩ :=
      Payload.exists_read_rows_error (hrefused.resolve_right (not_not_intro trivial))
    rw [← Option.some.inj hrows] at hread
    rw [run, InsertChain.run, hread] at hrun
    obtain ⟨rfl, rfl⟩ := Action.course_throw_iff.1 hrun
    exact ⟨rfl, _, rfl, herror⟩
  | upsert c =>
    rw [run, UpsertChain.run, Action.course_check_bind_iff] at hrun
    obtain ⟨v, -, rfl, rfl⟩ | ⟨conflict, hconflict, hrun⟩ := hrun
    · -- nor is the payload looked at, without a column to go by
      exact ⟨rfl, _, rfl, .inl ⟨v, rfl⟩⟩
    · have haimed := UpsertChain.exists_conflictColumns_iff.1 ⟨conflict, hconflict⟩
      obtain ⟨fault, hread, herror⟩ :=
        Payload.exists_read_rows_error (hrefused.resolve_right (not_not_intro haimed))
      rw [← Option.some.inj hrows] at hread
      rw [hread] at hrun
      obtain ⟨rfl, rfl⟩ := Action.course_throw_iff.1 hrun
      exact ⟨rfl, _, rfl, herror⟩
  | select c => cases hrows
  | update c => cases hrows
  | delete c => cases hrows

/-- **One run for inserts and upserts.**  A chain that is not refused has nothing to do if there are
no rows in its payload; otherwise they get their keys, an insertion of them is compiled, and that is
carried out. -/
theorem run_eq (h : c.Inserts payload)
    (haccepted : ¬(payload.objects? = none ∨ ¬c.Aimed client)) :
    ∃ (objects : List (List (String × Value)))
      (compile : List Row → Except Error (Query × Projection)) (operation tag : String),
      payload.objects? = some objects ∧
      c.run client =
        (if objects = [] then Action.tell (.emptyPayload operation c.table) >>= fun _ => pure []
        else client.keyedRows (objects.map Row.ofFields) >>= fun keyed =>
          liftM (compile keyed) >>= fun q =>
            (Plan.mk q.1 tag c.table (some q.2)).carryOut client) ∧
      ∀ keyed query projection, compile keyed = .ok (query, projection) →
        ∃ i conflict?, Payload.Insertion.compile c.table keyed = .ok i ∧
          query = .insert i.table i.columns i.rows conflict? projection.columns := by
  obtain ⟨hsome, haimed⟩ := not_or.1 haccepted
  obtain ⟨objects, hobjects⟩ := Option.ne_none_iff_exists'.1 hsome
  have hread := h.inserted?_eq
  rw [Payload.read_rows_of_objects? hobjects] at hread
  have hempty : (objects.map Row.ofFields).isEmpty = true ↔ objects = [] := by simp
  -- The two verbs differ in how they compile, and an upsert needs its conflict columns before.
  cases c with
  | insert c =>
    refine ⟨objects, c.compile client, "insert", "insert " ++ c.table, hobjects, ?_, ?_⟩
    · rw [run, InsertChain.run, Option.some.inj hread, ← ite_congr (propext hempty) (fun _ => rfl)
        fun _ => rfl]
      rfl
    · intro keyed query projection hcompile
      obtain ⟨i, -, hi, rfl⟩ := InsertChain.compile_eq_ok_iff.1 hcompile
      exact ⟨i, none, hi, rfl⟩
  | upsert c =>
    obtain ⟨conflict, hconflict⟩ := UpsertChain.exists_conflictColumns_iff.2 (not_not.1 haimed)
    refine ⟨objects, c.compile client conflict, "upsert", "upsert " ++ c.table, hobjects, ?_, ?_⟩
    · rw [run, UpsertChain.run, hconflict, Option.some.inj hread,
        ← ite_congr (propext hempty) (fun _ => rfl) fun _ => rfl]
      rfl
    · intro keyed query projection hcompile
      obtain ⟨target, i, updates, -, hi, -, -, rfl⟩ := UpsertChain.compile_eq_ok_iff.1 hcompile
      exact ⟨i, _, hi, rfl⟩
  | select c => cases hread
  | update c => cases hread
  | delete c => cases hread

/-- Of the empty array nothing is inserted. -/
theorem course_run_empty (h : c.Inserts (.value (.arr []))) (haimed : c.Aimed client)
    (hrun : (c.run client).Course es r) : es = [] ∧ r = .ok [] := by
  obtain ⟨objects, compile, operation, tag, hobjects, heq, -⟩ :=
    h.run_eq (not_or.2 ⟨nofun, not_not_intro haimed⟩)
  obtain rfl : objects = [] := (Option.some.inj hobjects).symm
  rw [heq, if_pos rfl, Action.course_tell_bind_iff, Action.course_pure_iff] at hrun
  exact hrun

/-- Where nothing is sent, the chain fails, or it has nothing to insert. -/
theorem course_run_nil (h : c.Inserts payload) (hrun : (c.run client).Course [] r) :
    (∃ e, r = .error e) ∨ payload = .value (.arr []) ∧ r = .ok [] := by
  -- Nothing is sent where the call is refused, empty or does not compile; otherwise something is.
  by_cases hrefused : payload.objects? = none ∨ ¬c.Aimed client
  · obtain ⟨-, e, rfl, -⟩ := h.course_run_refused hrefused hrun
    exact .inl ⟨e, rfl⟩
  · obtain ⟨objects, compile, operation, tag, hobjects, heq, -⟩ := h.run_eq hrefused
    rw [heq] at hrun
    split at hrun
    · next hempty =>
      subst hempty
      rw [Action.course_tell_bind_iff, Action.course_pure_iff] at hrun
      exact .inr ⟨Payload.eq_arr_nil_of_objects?_nil hobjects, hrun.2⟩
    · obtain ⟨keyed, -, hrun⟩ := Action.course_keyedRows_bind_sends_iff.1 hrun
      obtain ⟨e, -, -, rfl⟩ | ⟨q, -, hcarry⟩ := Action.course_except_bind_iff.1 hrun
      · exact .inl ⟨e, rfl⟩
      · obtain ⟨e, hes, -⟩ | ⟨rows, later, hes, -⟩ := Plan.course_carryOut_iff.1 hcarry
        · cases hes
        · cases hes

/-- **What is sent of a payload.**  The first statement of a run is an insertion of the objects of
the payload with their keys, which come from the source of identifiers in order.  Whatever is sent
after it is a lookup. -/
theorem sends {σ : Type} (h : c.Inserts payload) (ex : Executor σ) (ids : Nat → String)
    (s : Session σ) {x : Exchange} {later : List Exchange}
    (hsent : Dialogue.transcript ex ids (c.run client).run s = x :: later) :
    ∃ objects generated keyed, ∃ (conflict? : Option Conflict) (returning : List Column),
      payload.objects? = some objects ∧ objects ≠ [] ∧
      client.Keys (objects.map Row.ofFields) generated keyed ∧
      generated = (List.range' s.drawn generated.length).map ids ∧
      (∀ name ∈ Payload.columnUnion keyed, ∃ ident, Ident.parse name = .ok ident) ∧
      x.statement.sql = Payload.insertSql c.table (Payload.columnUnion keyed) keyed.length ++
        ((conflict?.map Conflict.sql).getD "" ++ Query.returningSql returning) ∧
      x.statement.params = (keyed.map (Payload.cellsIn (Payload.columnUnion keyed))).flatten ∧
      ∀ y ∈ later, Embed.IsLookup y.statement := by
  by_cases hrefused : payload.objects? = none ∨ ¬c.Aimed client
  · have hcourse := Action.course_run ex ids (c.run client) s
    rw [hsent] at hcourse
    cases (h.course_run_refused hrefused hcourse).1
  · obtain ⟨objects, compile, operation, tag, hobjects, heq, hcompiled⟩ := h.run_eq hrefused
    rw [heq] at hsent
    split at hsent
    · cases hsent
    · next hne =>
      obtain ⟨generated, keyed, hkeys, hgenerated, htranscript⟩ :=
        client.transcript_keyedRows_bind (objects.map Row.ofFields) ex ids s fun keyed =>
          liftM (compile keyed) >>= fun q =>
            (Plan.mk q.1 tag c.table (some q.2)).carryOut client
      rw [htranscript] at hsent
      -- from here on no identifier is drawn, so what is sent can be read off the course
      have hrest := Action.course_run ex ids (liftM (compile keyed) >>= fun q =>
        (Plan.mk q.1 tag c.table (some q.2)).carryOut client)
        { s with drawn := s.drawn + generated.length }
      rw [hsent] at hrest
      obtain ⟨⟨query, projection⟩, hcompile, hcarry⟩ :=
        (Action.course_except_bind_sends_iff (List.cons_ne_nil _ _)).1 hrest
      obtain ⟨i, conflict?, hi, rfl⟩ := hcompiled _ _ _ hcompile
      have hsql := Payload.Insertion.sql_insert hi conflict? projection.columns
      obtain ⟨columns, ident, hcolumns, -, rfl⟩ := Payload.Insertion.compile_eq_ok_iff.1 hi
      refine ⟨objects, generated, keyed, conflict?, projection.columns, hobjects, hne, hkeys,
        hgenerated, fun name hname => ?_, ?_⟩
      · obtain ⟨column, -, hcolumn⟩ := exists_of_mapM_ok hcolumns hname
        exact ⟨column, hcolumn⟩
      · rw [String.append_assoc] at hsql
        obtain ⟨e, hes, -⟩ | ⟨rows, later', hes, hfinish⟩ := Plan.course_carryOut_iff.1 hcarry
        · obtain ⟨rfl, rfl⟩ := List.cons.inj hes
          exact ⟨hsql, rfl, fun y hy => (List.not_mem_nil hy).elim⟩
        · obtain ⟨rfl, rfl⟩ := List.cons.inj hes
          exact ⟨hsql, rfl, Plan.isLookup_of_course_finish hfinish⟩

end Chain.Inserts

end Graft
