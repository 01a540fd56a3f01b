/-
Graft/Proofs/Selection/Appending.lean

What it does to a selection to append a column.

The column list of a selection is a text that is read in two ways: it is
searched for a column (`selects`), and it is made the column list of a
statement (`columnsSql`).  `ensureOne` writes a column at the end of that text.
Whether both readings see one more item there, and nothing else, depends on the
column: cut at a comma it would be two items, and behind a colon it would be
another name for what follows.  A column that is one item as it stands is
`Listable`.

`Ensured` says what the selection is like after such a column was appended, in
terms of what it was like before.  It holds after every history of appended
columns, listable or not (`ensureOne_ensured`).  What the history has to keep is
only that the list has an item at all (`listItems_foldl_ensureOne_ne_nil`): the
statement's list for a text without items would be a star, and appending to the
text would take that star away.
-/
import Graft.Proofs.Selection.Names

namespace Graft.Selection

/-! ### Columns that are one item -/

/-- A column that stands in a list as it is: a name without blanks around it, in which the list is
cut neither at a comma nor at a colon. -/
structure Listable (column : String) : Prop where
  named : ∃ i, Ident.parse column = .ok i
  trimmed : Text.trim column.toList = column.toList
  noComma : ',' ∉ column.toList
  noColon : ':' ∉ column.toList

namespace Listable

variable {column : String}

/-- The item that the column adds to a list is taken from the column. -/
theorem sourceOf_space_cons (h : Listable column) :
    sourceOf (' ' :: column.toList) = column.toList := by
  rw [sourceOf, trim_space_cons, h.trimmed, Text.cut_eq_none_iff.2 h.noColon]

theorem splitOn_space_cons (h : Listable column) :
    (' ' :: column.toList).splitOn ',' = [' ' :: column.toList] := by
  apply List.splitOn_eq_singleton
  intro hmem
  rcases List.mem_cons.1 hmem with hblank | hmem
  · cases hblank
  · exact h.noComma hmem

/-- As a list it has one item, which is read as the column itself. -/
theorem listItems_eq (h : Listable column) : listItems column = [column.toList] := by
  obtain ⟨i, hi⟩ := h.named
  have hsome := Ident.trim_ne_nil_of_parse hi
  rw [h.trimmed] at hsome
  rw [listItems, List.splitOn_eq_singleton h.noComma]
  simp [itemTexts, h.trimmed, hsome]

theorem exists_read (h : Listable column) :
    ∃ i, Column.read column.toList = .ok (.named i) ∧ i.sql = column := by
  obtain ⟨i, hi⟩ := h.named
  refine ⟨i, Column.read_eq_named ?_ h.noColon, ?_⟩
  · rw [String.ofList_toList]
    exact hi
  · rw [Ident.sql_of_parse hi, h.trimmed, String.ofList_toList]

end Listable

/-! ### Searching the list -/

theorem ensureOne_of_selects {s : Selection} {column : String} (h : s.selects column = true) :
    s.ensureOne column = s :=
  if_pos h

theorem ensureOne_of_not_selects {s : Selection} {column : String}
    (h : ¬ s.selects column = true) :
    s.ensureOne column = { s with base := s.base ++ ", " ++ column } :=
  if_neg h

/-- A list that something was appended to is not the star. -/
theorem append_comma_ne_star (base column : String) : base ++ ", " ++ column ≠ "*" := by
  intro h
  have hcomma : ',' ∈ (base ++ ", " ++ column).toList := by
    rw [toList_append_comma]
    simp
  rw [h] at hcomma
  exact absurd hcomma (by decide)

/-- The search finds what it found before, and the column. -/
theorem Listable.selects_ensureOne_iff {column : String} (h : Listable column) {s : Selection}
    {other : String} :
    (s.ensureOne column).selects other = true ↔ s.selects other = true ∨ other = column := by
  by_cases hselects : s.selects column = true
  · -- the list stays as it is
    rw [ensureOne_of_selects hselects]
    constructor
    · exact .inl
    · rintro (hother | rfl)
      · exact hother
      · exact hselects
  · -- a star selects everything, so the list was none, and it is none now
    have hbase : s.base ≠ "*" := fun hstar => hselects (selects_iff.2 (.inl hstar))
    rw [ensureOne_of_not_selects hselects, selects_iff, selects_iff, toList_append_comma,
      List.splitOn_append_cons_self, h.splitOn_space_cons]
    simp only [append_comma_ne_star, hbase, false_or, List.mem_append, List.mem_singleton,
      or_and_right, exists_or, exists_eq_left, h.sourceOf_space_cons, String.toList_inj]
    rw [eq_comm (a := column)]

/-! ### The list of a statement -/

theorem ne_nil_of_mapM_read {items : List (List Char)} {columns : List Column}
    (hread : items.mapM Column.read = .ok columns) (hitems : items ≠ []) : columns ≠ [] := by
  rintro rfl
  have hlength := length_of_mapM_ok hread
  exact hitems (List.length_eq_zero_iff.1 hlength.symm)

/-- A list with items is read item by item. -/
theorem columns_eq_mapM {s : Selection} (h : listItems s.base ≠ []) :
    s.columns = (listItems s.base).mapM Column.read := by
  rw [columns]
  cases hread : (listItems s.base).mapM Column.read with
  | error v => rfl
  | ok read =>
    have hsome := ne_nil_of_mapM_read hread h
    show Except.ok (if read.isEmpty then [.star] else read) = _
    rw [if_neg (by simpa using hsome)]

theorem Column.listSql_concat {columns : List Column} (h : columns ≠ []) (last : Column) :
    Column.listSql (columns ++ [last]) = Column.listSql columns ++ ", " ++ last.sql := by
  have hmap : columns.map Column.sql ≠ [] := by simpa using h
  rw [Column.listSql, List.map_append, List.map_singleton,
    String.intercalate_append_of_ne_nil hmap (List.cons_ne_nil _ _), String.intercalate_singleton]
  rfl

/-- A column that is appended comes last in the list of the statement, if there is that list. -/
theorem Listable.columnsSql_append {column : String} (h : Listable column) {s : Selection}
    (hitems : listItems s.base ≠ []) :
    columnsSql { s with base := s.base ++ ", " ++ column } =
      s.columnsSql.map fun list => list ++ ", " ++ column := by
  obtain ⟨i, hread, hsql⟩ := h.exists_read
  have hlast : [column.toList].mapM Column.read = .ok [.named i] := by
    rw [List.mapM_cons, hread]
    rfl
  have happended : listItems (s.base ++ ", " ++ column) = listItems s.base ++ [column.toList] := by
    rw [listItems_append, h.listItems_eq]
  rw [columnsSql, columnsSql, columns_eq_mapM hitems, columns_eq_mapM (by simp [happended])]
  show ((listItems (s.base ++ ", " ++ column)).mapM Column.read).map Column.listSql = _
  rw [happended, List.mapM_append, hlast]
  cases hcolumns : (listItems s.base).mapM Column.read with
  | error v => rfl
  | ok columns =>
    have hsome := ne_nil_of_mapM_read hcolumns hitems
    show Except.ok (Column.listSql (columns ++ [.named i])) =
      Except.ok (Column.listSql columns ++ ", " ++ column)
    rw [Column.listSql_concat hsome, Column.sql, hsql]

/-! ### Appending to what was read -/

/-- The list of an expression has an item. -/
theorem listItems_ne_nil_of_parse {expr : String} {s : Selection} (h : parse expr = .ok s) :
    listItems s.base ≠ [] := by
  obtain ⟨texts, hsome, hbase, hplain⟩ := columns_of_parse h
  rw [hbase, listItems_intercalate hplain]
  exact hsome

/-- Appending takes no item away. -/
theorem listItems_ensureOne_ne_nil {s : Selection} (h : listItems s.base ≠ []) (column : String) :
    listItems (s.ensureOne column).base ≠ [] := by
  by_cases hselects : s.selects column = true
  · rwa [ensureOne_of_selects hselects]
  · rw [ensureOne_of_not_selects hselects, listItems_append]
    exact List.append_ne_nil_of_left_ne_nil h _

/-- **Every history leaves an item in the list**, by induction on the columns appended so far. -/
theorem listItems_foldl_ensureOne_ne_nil {s : Selection} (h : listItems s.base ≠ [])
    (history : List String) : listItems (history.foldl ensureOne s).base ≠ [] := by
  induction history generalizing s with
  | nil => exact h
  | cons column rest ih => exact ih (listItems_ensureOne_ne_nil h column)

/-- The second selection is the first one with a column ensured, and nothing else. -/
structure Ensured (column : String) (s s' : Selection) : Prop where
  selected : s'.selects column = true
  /-- Ensuring the column once more changes nothing. -/
  settled : s'.ensureOne column = s'
  others : ∀ other, other ≠ column → s'.selects other = s.selects other
  relations : s'.relations = s.relations
  /-- The statement's list is the same, or goes on with the column; it fails as it did. -/
  columnsSql : s'.columnsSql =
    s.columnsSql.map fun list => if s.selects column = true then list else list ++ ", " ++ column

theorem Listable.ensured {column : String} (h : Listable column) {s : Selection}
    (hitems : listItems s.base ≠ []) : Ensured column s (s.ensureOne column) := by
  have hselected : (s.ensureOne column).selects column = true :=
    h.selects_ensureOne_iff.2 (.inr rfl)
  refine ⟨hselected, ensureOne_of_selects hselected, fun other hother => ?_, ?_, ?_⟩
  · rw [Bool.eq_iff_iff, h.selects_ensureOne_iff]
    simp [hother]
  · rw [ensureOne]
    split <;> rfl
  · by_cases hselects : s.selects column = true
    · simp only [ensureOne_of_selects hselects, hselects, if_true]
      cases s.columnsSql <;> rfl
    · simp only [ensureOne_of_not_selects hselects, hselects]
      exact h.columnsSql_append hitems

/-- **A column is ensured once, and nothing else changes.**  Let a selection be read from an
expression, and any columns be ensured.  If then a name without blanks around it, commas or colons
is ensured, the selection selects it, and all others as before; its relations are the same; the
list of a statement fails as before, or is the same if the name was selected already, and else goes
on with it; and to ensure it again changes nothing. -/
theorem ensureOne_ensured {expr : String} {s : Selection} (hs : parse expr = .ok s)
    (history : List String) {column : String} (hcolumn : Listable column) :
    Ensured column (history.foldl ensureOne s)
      ((history.foldl ensureOne s).ensureOne column) :=
  hcolumn.ensured (listItems_foldl_ensureOne_ne_nil (listItems_ne_nil_of_parse hs) history)

/-- The history may hold what is selected under another name, and what is no column at all. -/
theorem ensureOne_ensured_netDue :
    ∃ s, parse "ref:id, number, lines(qty)" = .ok s ∧ Listable "main.\"Net due\"" ∧
      Ensured "main.\"Net due\"" (["id", "total"].foldl ensureOne s)
        ((["id", "total"].foldl ensureOne s).ensureOne "main.\"Net due\"") ∧
      ((["id", "total"].foldl ensureOne s).ensureOne "main.\"Net due\"").columnsSql =
        .ok "id AS ref, number, total, main.\"Net due\"" := by
  obtain ⟨s, hs, hsql⟩ : ∃ s, parse "ref:id, number, lines(qty)" = .ok s ∧
      (["id", "total"].foldl ensureOne s).columnsSql = .ok "id AS ref, number, total" ∧
      (["id", "total"].foldl ensureOne s).selects "main.\"Net due\"" = false :=
    ⟨_, rfl, rfl, rfl⟩
  have hcolumn : Listable "main.\"Net due\"" := ⟨⟨_, rfl⟩, rfl, by decide, by decide⟩
  have hensured := ensureOne_ensured hs ["id", "total"] hcolumn
  refine ⟨s, hs, hcolumn, hensured, ?_⟩
  rw [hensured.columnsSql, hsql.1, hsql.2]
  rfl

end Graft.Selection
