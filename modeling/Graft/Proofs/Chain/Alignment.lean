/-
Graft/Proofs/Chain/Alignment.lean

Which value each question mark of a chain's statements takes.

An engine that reads a statement puts its values in from left to right
(`fill`).  Here it is said of chains, and not of the queries they compile to,
what comes of that:

* a condition is read with its own values (`Condition.tokens`), and a clause is
  its conditions in the order of the calls (`whereTokens`);
* an insert has a tuple for each row, once the rows have their keys, and in it
  the row's cell for each of the listed columns (`insertTokens`);
* an update assigns the values of its payload in their order, and its clause
  comes after that (`setTokens`).

A chain sends its own statement, which is read like that, and then nothing but
lookups, which are read with one key for each question mark
(`Chain.statements_read`).
-/
import Graft.Proofs.Chain.Sending
import Graft.Proofs.Query.Reading

namespace Graft

/-! ### Names -/

/-- A name as it stands in a statement; nothing if it is none. -/
def nameSql (raw : String) : String :=
  match Ident.parse raw with
  | .ok i => i.sql
  | .error _ => ""

theorem sql_eq_nameSql {raw : String} {i : Ident} (h : Ident.parse raw = .ok i) :
    i.sql = nameSql raw := by
  rw [nameSql, h]

/-! ### Conditions -/

/-- A condition with its own values: a test for null has none, membership has one for each element
of the list, and every other condition has one.  That no row is in the empty list is not written. -/
def Condition.tokens (c : Condition) : List Token :=
  match c.operator with
  | .nullity =>
    lit (nameSql c.column ++ if c.value.isNull != c.negated then " IS NULL" else " IS NOT NULL")
  | .oneOf =>
    match c.value with
    | .arr [] => lit "1 = 1"
    | .arr values =>
      lit (nameSql c.column ++ if c.negated then " NOT IN (" else " IN (") ++
        (lit ", ").intercalate (values.map slot) ++ lit ")"
    | _ => []
  | op =>
    if c.negated then
      if op = .like ∨ op = .ilike then lit (nameSql c.column ++ " NOT LIKE ") ++ slot c.value
      else lit ("NOT (" ++ nameSql c.column ++ " " ++ op.sql ++ " ") ++ slot c.value ++ lit ")"
    else lit (nameSql c.column ++ " " ++ op.sql ++ " ") ++ slot c.value

/-- The conditions of a chain in the order of the calls. -/
def whereTokens (conditions : List Condition) : List Token :=
  if conditions.isEmpty then []
  else lit " WHERE " ++ (lit " AND ").intercalate (conditions.map Condition.tokens)

/-- A conjunct is read as its condition. -/
theorem Condition.tokens_of_conjunct {c : Condition} {conjunct : Conjunct}
    (h : c.conjunct = .ok conjunct) : conjunct.tokens = c.tokens := by
  simp only [Condition.conjunct, bind_eq_ok_iff, check_eq_ok_iff] at h
  obtain ⟨column, hcolumn, h⟩ := h
  have hname := sql_eq_nameSql hcolumn
  rw [conjunctOn] at h
  split at h
  · next hop =>
    cases h
    simp only [tokens, hop, Conjunct.tokens, hname]
  · next hop =>
    split at h
    · next first rest hvalue =>
      cases h
      simp only [tokens, hop, hvalue, Conjunct.tokens, hname]
    · next hvalue =>
      split at h
      · cases h
        simp only [tokens, hop, hvalue, Conjunct.tokens]
      · cases h
    · cases h
  · next hnullity honeOf =>
    -- all other operators take one value, and differ in the text around it
    have htokens : c.tokens =
        if c.negated then
          if c.operator = .like ∨ c.operator = .ilike then
            lit (nameSql c.column ++ " NOT LIKE ") ++ slot c.value
          else lit ("NOT (" ++ nameSql c.column ++ " " ++ c.operator.sql ++ " ") ++ slot c.value ++
            lit ")"
        else lit (nameSql c.column ++ " " ++ c.operator.sql ++ " ") ++ slot c.value := by
      rw [tokens]
      split
      · next hop => exact absurd hop hnullity
      · next hop => exact absurd hop honeOf
      · rfl
    rw [htokens]
    split at h
    · next hnegated =>
      rw [if_pos hnegated]
      split at h
      · next hlike =>
        cases h
        rw [if_pos hlike, Conjunct.tokens, hname]
      · next hlike =>
        cases h
        rw [if_neg hlike, Conjunct.tokens, hname]
    · next hnegated =>
      cases h
      rw [if_neg hnegated, Conjunct.tokens, hname]

theorem Clause.tokens_of_compile {conditions : List Condition} {clause : Clause}
    (h : compile conditions = .ok clause) : clause.tokens = whereTokens conditions := by
  have hmap : clause.map Conjunct.tokens = conditions.map Condition.tokens :=
    map_eq_of_mapM_ok (fun _ _ => Condition.tokens_of_conjunct) h
  have hempty : clause.isEmpty = conditions.isEmpty := by
    rw [← List.isEmpty_map (f := Conjunct.tokens), hmap, List.isEmpty_map]
  rw [tokens, whereTokens, hempty, hmap]

/-! ### Payloads -/

/-- The rows of an insert: a tuple for each row, and in it the row's cell for each of the columns,
null where it has none.  The columns are listed before, in the same order. -/
def insertTokens (table : String) (columns : List String) (rows : List Row) : List Token :=
  lit ("INSERT INTO " ++ nameSql table ++ " (" ++ ", ".intercalate (columns.map nameSql) ++
      ") VALUES ") ++
    (lit ", ").intercalate (rows.map fun row =>
      lit "(" ++ (lit ", ").intercalate (columns.map fun c => slot ((row.get? c).getD .null)) ++
        lit ")")

/-- The assignments of an update: the cells of the payload in their order. -/
def setTokens (table : String) (values : Row) : List Token :=
  lit ("UPDATE " ++ nameSql table ++ " SET ") ++
    (lit ", ").intercalate (values.cells.map fun cell => assignmentTokens (nameSql cell.1) cell.2)

theorem Query.tokens_insert {table : String} {rows : List Row} {i : Payload.Insertion}
    (h : Payload.Insertion.compile table rows = .ok i) (conflict? : Option Conflict)
    (returning : List Column) :
    (insert i.table i.columns i.rows conflict? returning).tokens =
      insertTokens table (Payload.columnUnion rows) rows ++
        lit ((conflict?.map Conflict.sql).getD "" ++ returningSql returning) := by
  obtain ⟨columns, ident, hcolumns, hident, rfl⟩ := Payload.Insertion.compile_eq_ok_iff.1 h
  have hnames : columns.map Ident.sql = (Payload.columnUnion rows).map nameSql :=
    map_eq_of_mapM_ok (fun _ _ => sql_eq_nameSql) hcolumns
  have htuples : ∀ row, tupleTokens (Payload.cellsIn (Payload.columnUnion rows) row) =
      lit "(" ++ (lit ", ").intercalate ((Payload.columnUnion rows).map fun c =>
        slot ((row.get? c).getD .null)) ++ lit ")" := by
    intro row
    rw [tupleTokens, Payload.cellsIn, List.map_map]
    rfl
  rw [tokens, insertTokens, hnames, sql_eq_nameSql hident, List.map_map]
  simp only [Function.comp_def, htuples]

theorem Query.tokens_update {c : UpdateChain} {values : Row} {assigned : List (Ident × Value)}
    {table : Ident} {clause : Clause} (hassigned : UpdateChain.assignments values = .ok assigned)
    (htable : Ident.parse c.table = .ok table)
    (hclause : Clause.compile c.filters.conditions = .ok clause) (returning : List Column) :
    (update table assigned clause returning).tokens =
      setTokens c.table values ++ whereTokens c.filters.conditions ++
        lit (returningSql returning) := by
  have hcells : (assigned.map fun a => assignmentTokens a.1.sql a.2) =
      values.cells.map fun cell => assignmentTokens (nameSql cell.1) cell.2 := by
    refine map_eq_of_mapM_ok ?_ hassigned
    rintro ⟨name, v⟩ ⟨column, v'⟩ h
    cases hname : Ident.parse name with
    | error e => simp only [hname] at h; cases h
    | ok i =>
      simp only [hname] at h
      cases h
      rw [sql_eq_nameSql hname]
  rw [tokens, setTokens, hcells, sql_eq_nameSql htable, Clause.tokens_of_compile hclause]

/-! ### Statements of chains -/

/-- `c.Writes client ts`: the chain may send a statement that is read as `ts`. -/
inductive Chain.Writes (client : Client) : Chain → List Token → Prop
  | select {c : SelectChain} (before after : String) :
      Writes client (.select c) (lit before ++ whereTokens c.filters.conditions ++ lit after)
  | insert {c : InsertChain} {rows keyed : List Row} (hrows : c.rows = .ok rows)
      (hkeyed : (client.keyedRows rows).Course [] (.ok keyed)) (after : String) :
      Writes client (.insert c)
        (insertTokens c.table (Payload.columnUnion keyed) keyed ++ lit after)
  | upsert {c : UpsertChain} {rows keyed : List Row} (hrows : c.rows = .ok rows)
      (hkeyed : (client.keyedRows rows).Course [] (.ok keyed)) (after : String) :
      Writes client (.upsert c)
        (insertTokens c.table (Payload.columnUnion keyed) keyed ++ lit after)
  | update {c : UpdateChain} {values : Row} (hvalues : c.values = .ok values) (after : String) :
      Writes client (.update c)
        (setTokens c.table values ++ whereTokens c.filters.conditions ++ lit after)
  | delete {c : DeleteChain} (after : String) :
      Writes client (.delete c)
        (lit ("DELETE FROM " ++ nameSql c.table) ++ whereTokens c.filters.conditions ++ lit after)

/-- The query of a plan is read as its chain says. -/
theorem Chain.Plans.writes {client : Client} {c : Chain} {plan : Plan}
    (h : c.Plans client plan) : c.Writes client plan.query.tokens := by
  -- Each verb's compilation is inverted; the tokens of the query are then those of the call's data.
  cases h with
  | select _ _ hcompile =>
    obtain ⟨clause, table, order, -, hclause, -, -, rfl⟩ := SelectChain.compile_eq_ok_iff.1 hcompile
    rw [Query.tokens, Clause.tokens_of_compile (Filters.compile_eq_ok_iff.1 hclause).2]
    exact .select _ _
  | insert hrows _ hkeyed hcompile =>
    obtain ⟨i, -, hi, rfl⟩ := InsertChain.compile_eq_ok_iff.1 hcompile
    rw [Query.tokens_insert hi]
    exact .insert hrows hkeyed _
  | upsert _ hrows _ hkeyed hcompile =>
    obtain ⟨target, i, updates, -, hi, -, -, rfl⟩ := UpsertChain.compile_eq_ok_iff.1 hcompile
    rw [Query.tokens_insert hi]
    exact .upsert hrows hkeyed _
  | update hvalues _ _ _ hcompile =>
    obtain ⟨clause, assigned, table, -, -, hclause, hassigned, htable, rfl⟩ :=
      UpdateChain.compile_eq_ok_iff.1 hcompile
    rw [Query.tokens_update hassigned htable (Filters.compile_eq_ok_iff.1 hclause).2]
    exact .update hvalues _
  | delete _ _ _ hcompile =>
    obtain ⟨clause, table, hclause, htable, -, rfl⟩ := DeleteChain.compile_eq_ok_iff.1 hcompile
    rw [Query.tokens, Clause.tokens_of_compile (Filters.compile_eq_ok_iff.1 hclause).2,
      sql_eq_nameSql htable]
    exact .delete _

theorem Chain.writes_forSingle {client : Client} {c : Chain} {ts : List Token}
    (h : c.forSingle.Writes client ts) : c.Writes client ts := by
  cases c with
  | select c =>
    cases h with
    | select before after => exact .select before after
  | insert c => exact h
  | upsert c => exact h
  | update c => exact h
  | delete c => exact h

/-! ### All statements -/

/-- A lookup takes one key for each question mark. -/
theorem Embed.Lookup.Parts.reads (p : Lookup.Parts) (table : String) (keys : List Value) :
    Reads (p.statement table keys).sql keys
      (lit ("SELECT " ++ Column.listSql p.columns ++ " FROM " ++ p.table.sql ++ " WHERE " ++
        p.key.sql ++ " IN (") ++ (lit ", ").intercalate (keys.map slot) ++ lit ")") := by
  have hselect : Quiet "SELECT " := quiet_of_all rfl
  have hfrom : Quiet " FROM " := quiet_of_all rfl
  have hwhere : Quiet " WHERE " := quiet_of_all rfl
  have hopen : Quiet " IN (" := quiet_of_all rfl
  have hclose : Quiet ")" := quiet_of_all rfl
  have hhead := ((((hselect.append (wording_quiet.columns p.columns)).append hfrom).append
    p.table.quiet).append hwhere).append p.key.quiet
  exact ((hhead.append hopen).append_reads (reads_marks keys)).append_quiet hclose

/-- **Every statement takes its values where they belong.**  Whatever a chain of any verb sends, and
whatever the replies, each statement has as many question marks outside double quotes as it has
parameters.  The first statement is the chain's own and is read as the chain says; the others are
lookups, which are read with one of the keys for each question mark. -/
theorem Chain.statements_read {client : Client} {c : Chain} {es : List Exchange}
    {error? : Option Error} (h : c.Ends client es error?) :
    (∀ x ∈ es, marks false x.statement.sql.toList = x.statement.params.length) ∧
      (es = [] ∨ ∃ x later, es = x :: later ∧
        (∃ ts, c.Writes client ts ∧
          fill false x.statement.sql.toList x.statement.params = some ts) ∧
        ∀ y ∈ later, ∃ (p : Embed.Lookup.Parts) (table : String) (keys : List Value),
          keys ≠ [] ∧ y.statement = p.statement table keys ∧
          fill false y.statement.sql.toList y.statement.params = some
            (lit ("SELECT " ++ Column.listSql p.columns ++ " FROM " ++ p.table.sql ++ " WHERE " ++
              p.key.sql ++ " IN (") ++ (lit ", ").intercalate (keys.map slot) ++ lit ")")) := by
  obtain ⟨c', r, hc, hrun, -⟩ := ends_iff.1 h
  by_cases hes : es = []
  · subst hes
    exact ⟨fun x hx => (List.not_mem_nil hx).elim, .inl rfl⟩
  · obtain ⟨plan, hplan, hcarry⟩ := (course_run_iff hes).1 hrun
    -- the limit that running for a single row sets has no value
    have hwrites : c.Writes client plan.query.tokens := by
      rcases hc with rfl | rfl
      · exact hplan.writes
      · exact writes_forSingle hplan.writes
    have hbase : fill false plan.statement.sql.toList plan.statement.params =
        some plan.query.tokens := plan.query.reads.fill_eq
    have hlookup : ∀ y : Exchange, Embed.IsLookup y.statement →
        ∃ (p : Embed.Lookup.Parts) (table : String) (keys : List Value),
          keys ≠ [] ∧ y.statement = p.statement table keys ∧
          fill false y.statement.sql.toList y.statement.params = some
            (lit ("SELECT " ++ Column.listSql p.columns ++ " FROM " ++ p.table.sql ++ " WHERE " ++
              p.key.sql ++ " IN (") ++ (lit ", ").intercalate (keys.map slot) ++ lit ")") := by
      rintro y ⟨p, table, keys, hkeys, hst⟩
      refine ⟨p, table, keys, hkeys, hst, ?_⟩
      rw [hst]
      exact (p.reads table keys).fill_eq
    obtain ⟨x, later, hcons, hx, hlater⟩ : ∃ x later, es = x :: later ∧
        x.statement = plan.statement ∧ ∀ y ∈ later, Embed.IsLookup y.statement := by
      obtain ⟨e, rfl, -⟩ | ⟨rows, later, rfl, hfinish⟩ := Plan.course_carryOut_iff.1 hcarry
      · exact ⟨_, [], rfl, rfl, fun y hy => (List.not_mem_nil hy).elim⟩
      · exact ⟨_, later, rfl, rfl, Plan.isLookup_of_course_finish hfinish⟩
    subst hcons
    refine ⟨?_, .inr ⟨x, later, rfl, ⟨_, hwrites, hx ▸ hbase⟩, fun y hy => hlookup y (hlater y hy)⟩⟩
    intro y hy
    rcases List.mem_cons.1 hy with rfl | hy
    · rw [hx]
      exact marks_eq_of_fill hbase
    · obtain ⟨_, _, _, -, -, hfill⟩ := hlookup y (hlater y hy)
      exact marks_eq_of_fill hfill

/-- An update of a table whose name holds a question mark. -/
def updateOddTable : UpdateChain :=
  { table := "\"in?voices\""
    values := .ok (Row.ofFields [("total", .str "5"), ("paid", .bool true)])
    filters := { conditions := [
      { column := "state", operator := .oneOf, value := .arr [.str "new", .str "sent"] },
      { column := "note", operator := .nullity, value := .null },
      { column := "id", operator := .eq, value := .str "7" }] } }

/-- Its statement, with five values. -/
def updateOddStatement : Statement where
  tag? := some "update \"in?voices\""
  sql := "UPDATE \"in?voices\" SET total = ?, paid = ? WHERE state IN (?, ?) AND note IS NULL " ++
    "AND id = ? RETURNING *"
  params := [.str "5", .bool true, .str "new", .str "sent", .str "7"]

theorem exists_query_of_updateOddTable : ∃ query projection,
    updateOddTable.compile {} (Row.ofFields [("total", .str "5"), ("paid", .bool true)]) =
        .ok (query, projection) ∧
      projection.nesting = .nil ∧
      query.statement "update \"in?voices\"" = updateOddStatement := by
  -- The parts are evaluated one by one, and the query is put together from their texts.
  obtain ⟨columns, hcolumns, hcolumnsSql⟩ : ∃ columns, Selection.columns ⟨"*", []⟩ = .ok columns ∧
      columns.map Column.sql = ["*"] := by
    refine ⟨_, rfl, ?_⟩
    rfl
  obtain ⟨clause, hclause, hclauseSql, hclauseParams⟩ : ∃ clause,
      Filters.compile { conditions := [
        { column := "state", operator := .oneOf, value := .arr [.str "new", .str "sent"] },
        { column := "note", operator := .nullity, value := .null },
        { column := "id", operator := .eq, value := .str "7" }] } = .ok clause ∧
      clause.map Conjunct.sql = ["state IN (?, ?)", "note IS NULL", "id = ?"] ∧
      clause.map Conjunct.params = [[.str "new", .str "sent"], [], [.str "7"]] := by
    refine ⟨_, rfl, ?_, ?_⟩ <;> rfl
  obtain ⟨assigned, hassigned, hnames, hvalues⟩ : ∃ assigned,
      UpdateChain.assignments (Row.ofFields [("total", .str "5"), ("paid", .bool true)]) =
        .ok assigned ∧ (assigned.map fun a => a.1.sql ++ " = ?") = ["total = ?", "paid = ?"] ∧
        assigned.map (·.2) = [.str "5", .bool true] := by
    refine ⟨_, rfl, ?_, ?_⟩ <;> rfl
  obtain ⟨table, htable, htableSql⟩ : ∃ table, Ident.parse "\"in?voices\"" = .ok table ∧
      table.sql = "\"in?voices\"" := by
    refine ⟨_, rfl, ?_⟩
    rfl
  have hselection : Selection.parse "*" = .ok ⟨"*", []⟩ := rfl
  have hprojection : Projection.compile {} "\"in?voices\"" "*" =
      .ok ⟨columns, .ofRequests [], []⟩ :=
    Projection.compile_eq_ok_iff.2 ⟨_, columns, hselection, hcolumns, rfl⟩
  have hsome : clause.isEmpty = false := by
    rw [← List.isEmpty_map (f := Conjunct.sql), hclauseSql]
    rfl
  have hsql : (Query.update table assigned clause columns).sql = updateOddStatement.sql := by
    have h : (Query.update table assigned clause columns).sql = "UPDATE " ++ table.sql ++ " SET " ++
        ", ".intercalate (assigned.map fun a => a.1.sql ++ " = ?") ++
        (if clause.isEmpty then "" else
          " " ++ if clause.isEmpty then "" else
            "WHERE " ++ " AND ".intercalate (clause.map Conjunct.sql)) ++
        (" RETURNING " ++ ", ".intercalate (columns.map Column.sql)) := rfl
    rw [h, htableSql, hnames, hsome, hclauseSql, hcolumnsSql]
    rfl
  have hparams : (Query.update table assigned clause columns).params =
      updateOddStatement.params := by
    rw [Query.params, Clause.params, hvalues, List.flatMap_def, hclauseParams]
    rfl
  refine ⟨.update table assigned clause columns, _, UpdateChain.compile_eq_ok_iff.2
    ⟨clause, assigned, table, hprojection, List.cons_ne_nil _ _, hclause, hassigned, htable, rfl⟩,
    Nesting.ofRequests_nil, ?_⟩
  rw [Query.statement, hsql, hparams]
  rfl

/-- The mark in the name of the table takes none of its values. -/
theorem Chain.statements_read_updateOddTable :
    (Chain.update updateOddTable).Ends {} [⟨updateOddStatement, .ok []⟩] none ∧
      marks false updateOddStatement.sql.toList = updateOddStatement.params.length := by
  obtain ⟨query, projection, hcompile, hnesting, hstatement⟩ := exists_query_of_updateOddTable
  have hplan : (Chain.update updateOddTable).Plans {} _ :=
    .update rfl rfl (fun h => by cases h) rfl hcompile
  have hfinish : (Plan.finish {} ⟨query, "update \"in?voices\"", "\"in?voices\"",
      some projection⟩ []).Course [] (.ok []) := by
    show (projection.finish {} "\"in?voices\"" []).Course [] (.ok [])
    rw [Projection.finish, hnesting]
    exact Action.course_bind_pure_iff.2 ⟨.ok [], Action.course_pure_iff.2 ⟨rfl, rfl⟩, rfl⟩
  have hends : (Chain.update updateOddTable).Ends {} [⟨updateOddStatement, .ok []⟩] none := by
    refine ends_iff.2 ⟨_, .ok [], .inl rfl, ?_, rfl⟩
    refine (course_run_iff (List.cons_ne_nil _ _)).2 ⟨_, hplan, ?_⟩
    refine Plan.course_carryOut_iff.2 (.inr ⟨[], [], ?_, hfinish⟩)
    rw [← hstatement]
    rfl
  have hmarks := (Chain.statements_read hends).1 _ List.mem_cons_self
  exact ⟨hends, hmarks⟩

end Graft
