/-
Graft/Proofs/Selection/Names.lean

Which names can be selected.

A select expression is cut at commas, parentheses and colons wherever they
stand, also between double quotes.  So a name with one of them in a quoted part
is no select expression for the column of that name, and cannot be selected at
all; every other name can (`parse_name`).

In a name these characters stand only between double quotes, and what stands
before one of them leaves a double quote open (`Guarded`).  It is no name then,
nor is it a column.  But whatever the reader cuts off at such a character, it
reads as a name or as a column in the end.
-/
import Graft.Proofs.Selection.Printing

namespace Graft

/-- A name without a colon is read as the column of that name. -/
theorem Column.read_eq_named {item : List Char} {i : Ident}
    (hname : Ident.parse (String.ofList item) = .ok i) (hcolon : ':' ∉ item) :
    read item = .ok (.named i) := by
  have hstar : item ≠ ['*'] := by
    rintro rfl
    cases hname
  rw [read, if_neg hstar, Text.cut_eq_none_iff.2 hcolon, hname]
  rfl

namespace Selection

/-! ### Between double quotes -/

/-- The characters that an expression is cut at. -/
def separators : List Char :=
  [',', ':', '(', ')']

theorem forall_mem_separators_iff {P : Char → Prop} :
    (∀ c ∈ separators, P c) ↔ P ',' ∧ P ':' ∧ P '(' ∧ P ')' := by
  simp [separators]

/-- Separators are no blanks. -/
theorem mem_trim_of_mem {c : Char} (hc : c ∈ separators) {s : List Char} (h : c ∈ s) :
    c ∈ Text.trim s := by
  have hblank : ∀ c ∈ separators, Text.isBlank c ≠ true :=
    forall_mem_separators_iff.2 (by decide)
  obtain ⟨l, r, hl, hr, hs⟩ := Text.trim_decompose s
  rw [hs, List.append_assoc] at h
  rcases List.mem_append.1 h with h | h
  · exact absurd (hl c h) (hblank c hc)
  · exact (List.mem_append.1 h).resolve_right fun h => hblank c hc (hr c h)

/-- Where a text could be cut, a double quote is open: the number of those before is odd. -/
def Guarded (s : List Char) : Prop :=
  ∀ before c after, s = before ++ c :: after → c ∈ '!' :: separators → before.count '"' % 2 = 1

theorem guarded_of_parse {raw : String} {i : Ident} (h : Ident.parse raw = .ok i) :
    Guarded raw.toList := by
  intro before c after hraw hc
  obtain ⟨out, hout, hchars⟩ := Ident.exists_outside?_of_parse h
  have hmark : ∀ c ∈ '!' :: separators,
      c ≠ '"' ∧ ¬(Part.isTail c = true ∨ c = '.' ∨ Text.isBlank c = true) := by
    rw [List.forall_mem_cons, forall_mem_separators_iff]
    decide
  rw [hraw] at hout
  exact count_quote_odd hout (hmark c hc).1 fun hmem => (hmark c hc).2 (hchars c hmem)

namespace Guarded

variable {s t : List Char}

theorem of_append (h : Guarded (s ++ t)) : Guarded s := by
  intro before c after hs hc
  refine h before c (after ++ t) ?_ hc
  rw [hs, List.append_assoc, List.cons_append]

theorem trim (h : Guarded s) : Guarded (Text.trim s) := by
  intro before c after htrim hc
  obtain ⟨l, r, hl, -, hs⟩ := Text.trim_decompose s
  have hodd := h (l ++ before) c (after ++ r) (by rw [hs, htrim]; simp) hc
  have hblank : l.count '"' = 0 :=
    List.count_eq_zero.2 fun hquote => absurd (hl _ hquote) (by decide)
  rwa [List.count_append, hblank, Nat.zero_add] at hodd

/-- What is cut off before such a character is no name. -/
theorem not_parse_cut {before after : List Char} {c : Char} (h : Guarded s)
    (hcut : Text.cut c s = some (before, after)) (hc : c ∈ '!' :: separators) (i : Ident) :
    Ident.parse (String.ofList (Text.trim before)) ≠ .ok i := by
  intro hparse
  have hodd := h before c after (Text.cut_eq_some_iff.1 hcut).1 hc
  have heven := Ident.count_quote_of_parse hparse
  rw [String.toList_ofList, Text.count_quote_trim] at heven
  omega

/-- Before the parenthesis of a relation every double quote is closed. -/
theorem count_quote_head {head table : List Char} {alias? hint? : Option (List Char)}
    (h : Guarded head) (hhead : readHead head = (alias?, table, hint?))
    (htable : ∃ i, Ident.parse (String.ofList table) = .ok i)
    (halias : ∀ a, alias? = some a → ∃ i, Ident.parse (String.ofList a) = .ok i) :
    head.count '"' % 2 = 0 := by
  obtain ⟨i, hi⟩ := htable
  cases hcolon : Text.cut ':' (Text.trim head) with
  | some cut =>
    -- the alias stands before the colon
    rw [readHead_of_cut_some hcolon] at hhead
    have hsome : some (Text.trim cut.1) = alias? := by
      rw [readTarget] at hhead
      split at hhead <;> cases hhead <;> rfl
    obtain ⟨j, hj⟩ := halias _ hsome.symm
    exact absurd hj (h.trim.not_parse_cut hcolon (by decide) j)
  | none =>
    rw [readHead_of_cut_none hcolon, readTarget] at hhead
    split at hhead
    · next before after hmark =>
      cases hhead
      exact absurd hi (h.trim.not_parse_cut hmark (by decide) i)
    · -- all of the head is the table
      cases hhead
      have heven := Ident.count_quote_of_parse hi
      rwa [String.toList_ofList, Text.count_quote_trim] at heven

/-- An item whose parentheses stand between double quotes is a column if it can be read. -/
theorem column_of_readItem {item : Item} (h : Guarded s) (hitem : readItem s = .ok item) :
    '(' ∉ s ∧ item = .column s := by
  obtain hcolumn | ⟨head, tail, r, rfl, -, hr, -⟩ := readItem_eq_ok_iff.1 hitem
  · exact hcolumn
  · obtain ⟨_, alias?, table, hint?, -, hhead, -, htable, halias, -⟩ := readRelation_eq_ok_iff.1 hr
    have hodd := h head '(' tail rfl (by decide)
    have heven := h.of_append.count_quote_head hhead htable halias
    omega

end Guarded

/-! ### Selecting a name -/

/-- A name without separators is an expression for one column. -/
theorem parse_of_no_separator {raw : String} {i : Ident} (h : Ident.parse raw = .ok i)
    (hfree : ∀ c ∈ separators, c ∉ raw.toList) :
    parse raw = .ok ⟨String.ofList (Text.trim raw.toList), []⟩ := by
  have hsome := Ident.trim_ne_nil_of_parse h
  -- Without a parenthesis or a comma the whole text is one piece, and its item a column.
  have hpiece : IsPiece raw.toList :=
    uncut?_of_plain (hfree '(' (by decide)) (hfree ')' (by decide))
      (hfree ',' (by decide)) 0
  have hps : splitTopLevel raw.toList = .ok [raw.toList] :=
    splitTopLevel_eq_ok_iff_joined.2
      ⟨List.cons_ne_nil _ _, List.forall_mem_singleton.2 hpiece, List.intercalate_singleton⟩
  have htexts : itemTexts [raw.toList] = [Text.trim raw.toList] := by
    simp [itemTexts, hsome]
  have hitem : readItem (Text.trim raw.toList) = .ok (.column (Text.trim raw.toList)) :=
    readItem_eq_ok_iff.2
      (.inl ⟨fun hopen => hfree '(' (by decide) (Text.mem_of_mem_trim hopen), rfl⟩)
  refine parse_eq_ok_iff.2 ⟨_, [.column (Text.trim raw.toList)], hps, ?_, ?_⟩
  · rw [htexts, List.mapM_cons, hitem]
    rfl
  · simp [ofItems, Item.column?, Item.request?, orStar, hsome]

/-- Its column is the one of that name. -/
theorem columns_of_no_separator {raw : String} {i : Ident} (h : Ident.parse raw = .ok i)
    (hfree : ∀ c ∈ separators, c ∉ raw.toList) :
    columns ⟨String.ofList (Text.trim raw.toList), []⟩ = .ok [.named i] := by
  have htrim : ∀ c ∈ separators, c ∉ Text.trim raw.toList :=
    fun c hc hmem => hfree c hc (Text.mem_of_mem_trim hmem)
  have hitems : listItems (String.ofList (Text.trim raw.toList)) = [Text.trim raw.toList] := by
    rw [listItems, String.toList_ofList, List.splitOn_eq_singleton (htrim ',' (by decide))]
    simp [itemTexts, Ident.trim_ne_nil_of_parse h]
  rw [columns, hitems, List.mapM_cons,
    Column.read_eq_named (Ident.parse_trim_eq_ok_iff.2 h) (htrim ':' (by decide))]
  rfl

/-- The text of each column is an item of the column list. -/
theorem listItems_ofItems {items : List Item} (hsome : items.filterMap Item.column? ≠ [])
    (hplain : ∀ t ∈ items.filterMap Item.column?, Plain t) :
    listItems (ofItems items).base = items.filterMap Item.column? := by
  rw [ofItems, orStar_intercalate hplain hsome, listItems_intercalate hplain]

section

variable {expr : String} {ps : List (List Char)} {items : List Item} {columns : List Column}

/-- An item whose parentheses stand between double quotes is read as a column. -/
theorem exists_read_of_guarded (hps : splitTopLevel expr.toList = .ok ps)
    (hitems : (itemTexts ps).mapM readItem = .ok items)
    (hcolumns : (ofItems items).columns = .ok columns) {t : List Char} (ht : t ∈ itemTexts ps)
    (hguarded : Guarded t) : Plain t ∧ ∃ column, Column.read t = .ok column := by
  obtain ⟨item, hmem, hitem⟩ := exists_of_mapM_ok hitems ht
  obtain ⟨-, rfl⟩ := hguarded.column_of_readItem hitem
  have htext : t ∈ items.filterMap Item.column? := List.mem_filterMap.2 ⟨.column t, hmem, rfl⟩
  have hplain := plain_of_mapM_readItem hps hitems
  have hlist : t ∈ listItems (ofItems items).base := by
    rwa [listItems_ofItems (List.ne_nil_of_mem htext) hplain]
  obtain ⟨column, -, hread⟩ := exists_column_of_mem_listItems hcolumns hlist
  exact ⟨hplain t htext, column, hread⟩

end

/-- A name that can be selected has no separators. -/
theorem no_separator_of_columns {raw : String} {i : Ident} (h : Ident.parse raw = .ok i)
    {s : Selection} (hs : parse raw = .ok s) {columns : List Column}
    (hcolumns : s.columns = .ok columns) : ∀ c ∈ separators, c ∉ raw.toList := by
  obtain ⟨ps, items, hps, hitems, rfl⟩ := parse_eq_ok_iff.1 hs
  obtain ⟨hsome, -, hjoined⟩ := splitTopLevel_eq_ok_iff_joined.1 hps
  obtain ⟨first, rest, rfl⟩ := List.exists_cons_of_ne_nil hsome
  have hguarded := guarded_of_parse h
  have hitem : ∀ {t}, t = Text.trim first → t ≠ [] → t ∈ itemTexts (first :: rest) :=
    fun ht hne => mem_itemTexts_iff.2 ⟨⟨first, List.mem_cons_self, ht.symm⟩, hne⟩
  cases rest with
  | nil =>
    rw [List.intercalate_singleton] at hjoined
    subst hjoined
    obtain ⟨hplain, column, hread⟩ := exists_read_of_guarded hps hitems hcolumns
      (hitem rfl (Ident.trim_ne_nil_of_parse h)) hguarded.trim
    have hcolon := (Column.read_of_name (Ident.parse_trim_eq_ok_iff.2 h) hread).1
    rw [Text.cut_eq_none_iff] at hcolon
    have htrim : ∀ c ∈ separators, c ∉ Text.trim raw.toList :=
      forall_mem_separators_iff.2 ⟨hplain.noComma, hcolon, hplain.noOpen, hplain.noClose⟩
    exact fun c hc hmem => htrim c hc (mem_trim_of_mem hc hmem)
  | cons next rest =>
    -- the first piece would be a column with an open quote
    rw [List.intercalate_cons_cons, List.append_assoc, List.singleton_append] at hjoined
    have hodd := hguarded first ',' _ hjoined.symm (by decide)
    rw [← hjoined] at hguarded
    have hne : Text.trim first ≠ [] := by
      intro hnil
      rw [← Text.count_quote_trim, hnil] at hodd
      cases hodd
    obtain ⟨-, column, hread⟩ := exists_read_of_guarded hps hitems hcolumns (hitem rfl hne)
      hguarded.of_append.trim
    have heven := Column.count_quote_of_read hread
    rw [Text.count_quote_trim] at heven
    omega

/-- **Which names can be selected.**  A name is a select expression for the column of that name, and
for nothing else, if it has no comma, colon or parenthesis.  If it has one, between double quotes,
it is no expression, or one whose column list cannot be read. -/
theorem parse_name {raw : String} {i : Ident} (h : Ident.parse raw = .ok i) :
    ((∀ c ∈ separators, c ∉ raw.toList) → ∃ s, parse raw = .ok s ∧ s.relations = [] ∧
      s.columnsSql = .ok (String.ofList (Text.trim raw.toList))) ∧
    ∀ c ∈ separators, c ∈ raw.toList → ∃ v, (parse raw >>= columnsSql) = .error v := by
  constructor
  · intro hfree
    refine ⟨_, parse_of_no_separator h hfree, rfl, ?_⟩
    rw [columnsSql, columns_of_no_separator h hfree, ← Ident.sql_of_parse h]
    rfl
  · intro c hc hmem
    cases hsql : parse raw >>= columnsSql with
    | error v => exact ⟨v, rfl⟩
    | ok sql =>
      obtain ⟨s, hs, hcompile⟩ := bind_eq_ok_iff.1 hsql
      obtain ⟨columns, hcolumns, -⟩ := map_eq_ok_iff.1 hcompile
      exact absurd hmem (no_separator_of_columns h hs hcolumns c hc)

/-- A dot and an exclamation mark are no separators, a parenthesis is one. -/
theorem parse_name_quoted :
    (∃ s, parse " main.\"Net. due!\"" = .ok s ∧ s.relations = [] ∧
      s.columnsSql = .ok "main.\"Net. due!\"") ∧
    ∃ v, (parse "\"Total (EUR)\"" >>= columnsSql) = .error v := by
  obtain ⟨due, hdue⟩ : ∃ i, Ident.parse " main.\"Net. due!\"" = .ok i := ⟨_, rfl⟩
  obtain ⟨total, htotal⟩ : ∃ i, Ident.parse "\"Total (EUR)\"" = .ok i := ⟨_, rfl⟩
  exact ⟨(parse_name hdue).1 (forall_mem_separators_iff.2 (by decide)),
    (parse_name htotal).2 '(' (by decide) (by decide)⟩

/-- Not every name can be selected. -/
theorem not_forall_names_selected :
    ¬ ∀ raw i, Ident.parse raw = .ok i → ∃ s, parse raw = .ok s ∧ s.relations = [] ∧
      s.columnsSql = .ok (String.ofList (Text.trim raw.toList)) := by
  intro h
  obtain ⟨s, hs, -⟩ := h "\"Total (EUR)\"" _ rfl
  cases hs

end Selection

end Graft
