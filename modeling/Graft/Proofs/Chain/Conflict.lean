/-
Graft/Proofs/Chain/Conflict.lean

What an upsert takes over into a row that is there already.

An upsert takes over the columns that it inserts, except the primary key and the
columns of its conflict target.  It tells these by the texts that it was given,
while a statement has these texts without the blanks around them.  So a column
may stand in the statement as one of the exceptions does, and be taken over all
the same, because it is spelled with blanks (`UpsertChain.Overlooked`).  Where no
name is spelled like that, an upsert takes over just the columns that it should
(`Chain.upsert_takes_over`).
-/
import Graft.Proofs.Chain.Cells
import Graft.Proofs.Ident.Grammar
import Graft.Proofs.Selection.Items

namespace Graft

/-! ### Names with blanks around them -/

/-- There are no blanks around the name. -/
def Tidy (name : String) : Prop :=
  Text.trim name.toList = name.toList

/-- A name stands in a statement as another does if they are the same but for the blanks around
them. -/
theorem nameSql_eq_iff {name other : String} {i : Ident} (h : Ident.parse name = .ok i) :
    nameSql name = nameSql other ↔ Text.trim name.toList = Text.trim other.toList := by
  have hname := Ident.sql_of_parse h
  constructor
  · intro heq
    rw [← sql_eq_nameSql h, hname] at heq
    cases hother : Ident.parse other with
    | ok j =>
      rw [← sql_eq_nameSql hother, Ident.sql_of_parse hother] at heq
      exact String.ofList_inj.1 heq
    | error v =>
      -- what is no name does not stand in a statement at all, but this one does
      rw [nameSql, hother] at heq
      have hempty : Text.trim name.toList = [] := String.ofList_eq_empty_iff.1 heq
      rw [Ident.parse_eq_ok_iff, readParts, if_pos hempty] at h
      cases h
  · intro htrim
    have hother : Ident.parse other = .ok i := by
      rw [← Ident.parse_trim_eq_ok_iff, ← htrim, Ident.parse_trim_eq_ok_iff]
      exact h
    rw [← sql_eq_nameSql h, ← sql_eq_nameSql hother]

/-- Names without blanks around them that stand in a statement alike are the same. -/
theorem eq_of_nameSql_eq {name other : String} {i : Ident} (h : Ident.parse name = .ok i)
    (hname : Tidy name) (hother : Tidy other) (heq : nameSql name = nameSql other) :
    name = other := by
  have htrim := (nameSql_eq_iff h).1 heq
  rw [hname, hother] at htrim
  exact String.toList_inj.1 htrim

namespace UpsertChain

variable {client : Client} {conflict names : List String} {name : String}

/-! ### Columns that are not taken over -/

/-- The columns of a conflict target have no blanks around them. -/
theorem tidy_of_conflictColumns {c : UpsertChain} (h : c.conflictColumns client = .ok conflict) :
    ∀ column ∈ conflict, Tidy column := by
  unfold conflictColumns at h
  split at h
  · cases h
  · cases h
    intro column hcolumn
    obtain ⟨item, hitem, rfl⟩ := List.mem_map.1 hcolumn
    obtain ⟨⟨piece, -, rfl⟩, -⟩ := Selection.mem_itemTexts_iff.1 hitem
    rw [Tidy, String.toList_ofList, Text.trim_trim]

/-- The column stands in a statement as the primary key does, or as a column of the conflict target
does. -/
def Shielded (client : Client) (conflict : List String) (name : String) : Prop :=
  ∃ other ∈ client.settings.primaryKey :: conflict, nameSql name = nameSql other

/-- The column stands in a statement like one of these, but is spelled like none of them. -/
def Overlooked (client : Client) (conflict : List String) (name : String) : Prop :=
  Shielded client conflict name ∧ name ∉ client.settings.primaryKey :: conflict

/-- Taken over is what is not to be shielded, or is overlooked. -/
theorem mem_updatedColumns_iff :
    name ∈ updatedColumns client conflict names ↔
      name ∈ names ∧ (¬Shielded client conflict name ∨ Overlooked client conflict name) := by
  have hspelled : name ∈ client.settings.primaryKey :: conflict → Shielded client conflict name :=
    fun hmem => ⟨name, hmem, rfl⟩
  have hmem : name ∈ updatedColumns client conflict names ↔
      name ∈ names ∧ name ∉ client.settings.primaryKey :: conflict := by
    simp [updatedColumns, and_comm]
  rw [hmem, Overlooked]
  refine and_congr_right fun _ => ⟨fun hother => ?_, ?_⟩
  · by_cases hshielded : Shielded client conflict name
    · exact .inr ⟨hshielded, hother⟩
    · exact .inl hshielded
  · rintro (hshielded | ⟨-, hother⟩)
    · exact mt hspelled hshielded
    · exact hother

/-- A column is overlooked only for the blanks around it, or around the primary key. -/
theorem Overlooked.not_tidy {i : Ident} (h : Overlooked client conflict name)
    (hparse : Ident.parse name = .ok i) (hconflict : ∀ column ∈ conflict, Tidy column) :
    ¬Tidy name ∨ ¬Tidy client.settings.primaryKey := by
  obtain ⟨⟨other, hother, heq⟩, hspelled⟩ := h
  by_contra hboth
  obtain ⟨hname, hkey⟩ := not_or.1 hboth
  have htidy : Tidy other := (List.mem_cons.1 hother).elim (· ▸ not_not.1 hkey) (hconflict other)
  exact hspelled (eq_of_nameSql_eq hparse (not_not.1 hname) htidy heq ▸ hother)

/-- What is done with a row that is there already: nothing, or the columns are taken over from the
inserted row, each assigned to itself. -/
def actionSql (ignore : Bool) (assigned : List String) : String :=
  if ignore = true ∨ assigned = [] then "DO NOTHING"
  else "DO UPDATE SET " ++
    ", ".intercalate (assigned.map fun n => nameSql n ++ " = excluded." ++ nameSql n)

/-- The treatment of conflicts is written with the columns that are taken over. -/
theorem sql_conflict {ignore : Bool} {target updates : List Ident}
    {assigned : List String} (htarget : Ident.parseAll conflict = .ok target)
    (hupdates : Ident.parseAll assigned = .ok updates) :
    Conflict.sql ⟨target, if ignore then [] else updates⟩ =
      " ON CONFLICT (" ++ ", ".intercalate (conflict.map nameSql) ++ ") " ++
        actionSql ignore assigned := by
  have htargetSql : target.map Ident.sql = conflict.map nameSql :=
    map_eq_of_mapM_ok (fun _ _ => sql_eq_nameSql) htarget
  have hupdatesSql : updates.map excludedSql =
      assigned.map fun n => nameSql n ++ " = excluded." ++ nameSql n :=
    map_eq_of_mapM_ok (fun _ _ h => by rw [excludedSql, sql_eq_nameSql h]) hupdates
  have hempty : updates = [] ↔ assigned = [] := by
    rw [← List.length_eq_zero_iff, ← List.length_eq_zero_iff, length_of_mapM_ok hupdates]
  unfold Conflict.sql
  rw [htargetSql]
  -- With nothing to assign the action is that of ignored duplicates.
  cases ignore with
  | true => rfl
  | false =>
    cases updates with
    | nil =>
      obtain rfl := hempty.1 rfl
      rfl
    | cons first rest =>
      have hsome : assigned ≠ [] := mt hempty.2 (List.cons_ne_nil _ _)
      have haction : actionSql false assigned = "DO UPDATE SET " ++
          ", ".intercalate (assigned.map fun n => nameSql n ++ " = excluded." ++ nameSql n) :=
        if_neg (not_or.2 ⟨Bool.false_ne_true, hsome⟩)
      rw [haction, ← hupdatesSql]
      rfl

end UpsertChain

/-! ### Upserts -/

/-- The first statement of a chain is the statement of a plan that it may come to. -/
theorem Chain.exists_plan_of_ends {client : Client} {c : Chain} {x : Exchange}
    {later : List Exchange} {error? : Option Error} (h : c.Ends client (x :: later) error?) :
    ∃ c' plan, (c' = c ∨ c' = c.forSingle) ∧ c'.Plans client plan ∧
      x.statement = plan.statement := by
  obtain ⟨c', r, hc, hrun, -⟩ := ends_iff.1 h
  obtain ⟨plan, hplan, hcarry⟩ := (course_run_iff (List.cons_ne_nil _ _)).1 hrun
  refine ⟨c', plan, hc, hplan, ?_⟩
  obtain ⟨e, hes, -⟩ | ⟨rows, later', hes, -⟩ := Plan.course_carryOut_iff.1 hcarry
  · rw [(List.cons.inj hes).1]
  · rw [(List.cons.inj hes).1]

/-- **What an upsert takes over.**  Its first statement inserts the rows with their keys and, where
a row is there already by the columns of the conflict target, assigns some of the inserted columns,
in their order and each once; it does nothing there if duplicates are ignored or there is no such
column.  Assigned are the columns that are not to be shielded, and those that are overlooked, for
which there are blanks around a name.  Where there are none, each column of the insertion stands in
the statement once, and assigned are just those that do not stand there as the primary key does, or
as a column of the conflict target does. -/
theorem Chain.upsert_takes_over {client : Client} {c : UpsertChain} {x : Exchange}
    {later : List Exchange} {error? : Option Error}
    (h : (Chain.upsert c).Ends client (x :: later) error?) :
    ∃ (conflict : List String) (rows keyed : List Row) (names assigned : List String)
      (returning : List Column),
      c.conflictColumns client = .ok conflict ∧ c.rows = .ok rows ∧
      (client.keyedRows rows).Course [] (.ok keyed) ∧
      Payload.FirstSeen (keyed.flatMap Row.keys) names ∧
      x.statement.sql = Payload.insertSql c.table names keyed.length ++
        (" ON CONFLICT (" ++ ", ".intercalate (conflict.map nameSql) ++ ") " ++
          UpsertChain.actionSql c.ignoreDuplicates assigned) ++ Query.returningSql returning ∧
      assigned.Sublist names ∧
      (∀ n, n ∈ assigned ↔ n ∈ names ∧ (¬UpsertChain.Shielded client conflict n ∨
        UpsertChain.Overlooked client conflict n)) ∧
      (∀ n ∈ names, UpsertChain.Overlooked client conflict n →
        ¬Tidy n ∨ ¬Tidy client.settings.primaryKey) ∧
      ((∀ n ∈ client.settings.primaryKey :: names, Tidy n) → (names.map nameSql).Nodup ∧
        ∀ n, n ∈ assigned ↔ n ∈ names ∧ ¬UpsertChain.Shielded client conflict n) := by
  obtain ⟨c', plan, hc, hplan, hx⟩ := exists_plan_of_ends h
  obtain rfl : c' = .upsert c := hc.elim id id
  cases hplan with
  | @upsert _ conflict rows keyed query projection hconflict hrows hsome hkeyed hcompile =>
    obtain ⟨target, i, updates, htarget, hi, hupdates, -, rfl⟩ :=
      UpsertChain.compile_eq_ok_iff.1 hcompile
    have hsql := Payload.Insertion.sql_insert hi
      (some ⟨target, if c.ignoreDuplicates then [] else updates⟩) projection.columns
    obtain ⟨columns, ident, hcolumns, -, rfl⟩ := Payload.Insertion.compile_eq_ok_iff.1 hi
    have hseen := Payload.firstSeen_eraseDups (keyed.flatMap Row.keys)
    have hnamed : ∀ n ∈ Payload.columnUnion keyed, ∃ i, Ident.parse n = .ok i := fun n hn =>
      (exists_of_mapM_ok hcolumns hn).imp fun _ hi => hi.2
    -- A column is overlooked only where blanks surround a name, its own or the key's.
    have hoverlooked : ∀ n ∈ Payload.columnUnion keyed,
        UpsertChain.Overlooked client conflict n →
          ¬Tidy n ∨ ¬Tidy client.settings.primaryKey := fun n hn h => by
      obtain ⟨i, hi⟩ := hnamed n hn
      exact h.not_tidy hi (UpsertChain.tidy_of_conflictColumns hconflict)
    refine ⟨conflict, rows, keyed, Payload.columnUnion keyed,
      UpsertChain.updatedColumns client conflict (Payload.columnUnion keyed), projection.columns,
      hconflict, hrows, hkeyed, hseen, ?_, List.filter_sublist,
      fun n => UpsertChain.mem_updatedColumns_iff, hoverlooked, fun htidy => ⟨?_, fun n => ?_⟩⟩
    · rw [hx, ← UpsertChain.sql_conflict htarget hupdates]
      exact hsql
    -- A tidy name can be read back from its SQL, so two of them are not written alike.
    · refine List.pairwise_map.2 (hseen.nodup.imp_of_mem fun {a b} ha hb hne heq => hne ?_)
      obtain ⟨i, hi⟩ := hnamed a ha
      exact eq_of_nameSql_eq hi (htidy a (List.mem_cons_of_mem _ ha))
        (htidy b (List.mem_cons_of_mem _ hb)) heq
    · rw [UpsertChain.mem_updatedColumns_iff]
      refine and_congr_right fun hn => or_iff_left fun h => ?_
      exact (hoverlooked n hn h).elim (absurd (htidy n (List.mem_cons_of_mem _ hn)))
        (absurd (htidy _ List.mem_cons_self))

/-- Products by their code, which the payload spells with blanks around it. -/
def spacedCode : UpsertChain :=
  (Chain.upsertInto "products" (.value (.obj [("id", .str "1"), (" code ", .str "A"),
    ("name", .str "Pen")]))).onConflict "code"

/-- The statement for them. -/
def spacedStatement : Statement where
  tag? := some "upsert products"
  sql := "INSERT INTO products (id, code, name) VALUES (?, ?, ?) ON CONFLICT (code) " ++
    "DO UPDATE SET code = excluded.code, name = excluded.name RETURNING *"
  params := [.str "1", .str "A", .str "Pen"]

theorem Chain.ends_spacedCode :
    (Chain.upsert spacedCode).Ends {} [⟨spacedStatement, .error (.backend "")⟩]
      (some (.backend "")) :=
  .all (Dialogue.course_run Executor.scripted (fun _ => "")
    ((Chain.upsert spacedCode).execute {}) { engine := { replies := [.error (.backend "")] } })

/-- The code is overlooked: it is spelled with blanks, and is taken over for that. -/
theorem Chain.upsert_takes_over_spacedCode :
    (Chain.upsert spacedCode).Ends {} [⟨spacedStatement, .error (.backend "")⟩]
      (some (.backend "")) ∧
    ∃ (conflict : List String) (keyed : List Row) (names assigned : List String)
      (returning : List Column), spacedCode.conflictColumns {} = .ok conflict ∧
      spacedStatement.sql = Payload.insertSql "products" names keyed.length ++
        (" ON CONFLICT (" ++ ", ".intercalate (conflict.map nameSql) ++ ") " ++
          UpsertChain.actionSql false assigned) ++ Query.returningSql returning ∧
      ∀ n, n ∈ assigned ↔ n ∈ names ∧ (¬UpsertChain.Shielded {} conflict n ∨
        UpsertChain.Overlooked {} conflict n) := by
  obtain ⟨conflict, rows, keyed, names, assigned, returning, hconflict, -, -, -, hsql, -,
    hassigned, -⟩ := Chain.upsert_takes_over ends_spacedCode
  exact ⟨ends_spacedCode, conflict, keyed, names, assigned, returning, hconflict, hsql, hassigned⟩

/-- So it is not so that nothing is assigned to a column of the conflict target. -/
theorem Chain.not_forall_conflict_columns_kept :
    ¬∀ (client : Client) (c : UpsertChain) (x : Exchange) (later : List Exchange)
      (error? : Option Error) (conflict names assigned : List String) (count : Nat)
      (after : String), (Chain.upsert c).Ends client (x :: later) error? →
        c.conflictColumns client = .ok conflict →
        x.statement.sql = Payload.insertSql c.table names count ++
          (" ON CONFLICT (" ++ ", ".intercalate (conflict.map nameSql) ++ ") " ++
            UpsertChain.actionSql c.ignoreDuplicates assigned) ++ after →
        ∀ n ∈ assigned, ¬UpsertChain.Shielded client conflict n := by
  intro h
  have hsql : spacedStatement.sql = Payload.insertSql "products" ["id", " code ", "name"] 1 ++
      (" ON CONFLICT (" ++ ", ".intercalate (["code"].map nameSql) ++ ") " ++
        UpsertChain.actionSql false [" code ", "name"]) ++ " RETURNING *" := by
    rfl
  exact h {} spacedCode _ _ _ ["code"] _ _ _ _ ends_spacedCode rfl hsql " code " List.mem_cons_self
    ⟨"code", List.mem_cons_of_mem _ List.mem_cons_self, rfl⟩

end Graft
