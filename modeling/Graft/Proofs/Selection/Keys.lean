/-
Graft/Proofs/Selection/Keys.lean

Which keys the column list of a statement has.

A key that rows are matched by is appended to a column list unless the list
selects it already.  Then the column list of the statement offers the key: it
has a star, or the key under its own name (`Column.Offers`).  An appended key
is one item of the list though it may hold commas and colons, as these stand
between its double quotes (`listItems_of_name`): cut there, it would leave a
quote open, and no column can be read from that (`Column.count_quote_of_read`).

There is one exception.  A list also selects a key that it has under another
name only, and then the key is not appended (`Selection.Renames`).  These are
all the possibilities (`offers_or_renames`).

An engine that names the columns of its rows by the list returns every key that
is offered (`Column.Offers.contains`).
-/
import Graft.Proofs.Ident.Grammar
import Graft.Proofs.Selection.Items
import Graft.Row

namespace Graft

/-! ### Double quotes in columns -/

/-- Outside its double quotes, the text of a name has only characters of bare parts, dots and
blanks. -/
theorem Ident.exists_outside?_of_parse {raw : String} {i : Ident} (h : parse raw = .ok i) :
    ∃ out, outside? false raw.toList = some out ∧
      ∀ c ∈ out, Part.isTail c = true ∨ c = '.' ∨ Text.isBlank c = true := by
  obtain ⟨l, r, hl, hr, hraw⟩ := Text.trim_decompose raw.toList
  have hblank : ∀ {s : List Char}, (∀ c ∈ s, Text.isBlank c = true) → outside? false s = some s :=
    fun hs => outside?_of_not_mem fun hquote => absurd (hs _ hquote) (by decide)
  obtain ⟨out, hout, hchars⟩ := i.exists_outside?
  rw [chars_of_parse h] at hout
  rw [hraw, List.append_assoc, outside?_append (hblank hl), outside?_append hout, hblank hr]
  refine ⟨l ++ (out ++ r), rfl, fun c hc => ?_⟩
  rcases List.mem_append.1 hc with hc | hc
  · exact .inr (.inr (hl c hc))
  · rcases List.mem_append.1 hc with hc | hc
    · rcases hchars c hc with hc | hc
      · exact .inl hc
      · exact .inr (.inl hc)
    · exact .inr (.inr (hr c hc))

theorem Ident.count_quote_of_parse {raw : String} {i : Ident} (h : parse raw = .ok i) :
    raw.toList.count '"' % 2 = 0 := by
  obtain ⟨out, hout, -⟩ := exists_outside?_of_parse h
  exact count_quote_of_outside? hout

namespace Column

/-- What a column was read from: a star, a name, or a name behind another one and a colon. -/
theorem read_eq_ok {item : List Char} {column : Column} (h : read item = .ok column) :
    (item = ['*'] ∧ column = .star) ∨
    (∃ name source n s, Text.cut ':' item = some (name, source) ∧
      Ident.parse (String.ofList source) = .ok s ∧ Ident.parse (String.ofList name) = .ok n ∧
      column = .renamed s n) ∨
    (Text.cut ':' item = none ∧ ∃ i, Ident.parse (String.ofList item) = .ok i ∧
      column = .named i) := by
  rw [read] at h
  split at h
  · next hstar =>
    cases h
    exact .inl ⟨hstar, rfl⟩
  · split at h
    · next name source hcut =>
      obtain ⟨s, hsource, h⟩ := bind_eq_ok_iff.1 h
      obtain ⟨n, hname, h⟩ := bind_eq_ok_iff.1 h
      cases h
      exact .inr (.inl ⟨name, source, n, s, hcut, hsource, hname, rfl⟩)
    · next hcut =>
      obtain ⟨i, hitem, rfl⟩ := map_eq_ok_iff.1 h
      exact .inr (.inr ⟨hcut, i, hitem, rfl⟩)

/-- The item of a column closes all its double quotes. -/
theorem count_quote_of_read {item : List Char} {column : Column} (h : read item = .ok column) :
    item.count '"' % 2 = 0 := by
  rcases read_eq_ok h with ⟨rfl, -⟩ | ⟨name, source, n, s, hcut, hs, hn, -⟩ | ⟨-, i, hi, -⟩
  · rfl
  · have hsource := Ident.count_quote_of_parse hs
    have hname := Ident.count_quote_of_parse hn
    rw [String.toList_ofList] at hsource hname
    obtain ⟨rfl, -⟩ := Text.cut_eq_some_iff.1 hcut
    have hcolon : (':' : Char) ≠ '"' := by decide
    rw [List.count_append, List.count_cons_of_ne hcolon]
    omega
  · have hitem := Ident.count_quote_of_parse hi
    rw [String.toList_ofList] at hitem
    exact hitem

end Column

/-! ### A name in a column list -/

theorem Text.count_quote_trim (s : List Char) : (Text.trim s).count '"' = s.count '"' := by
  have hblank : ∀ {t : List Char}, (∀ c ∈ t, Text.isBlank c = true) → t.count '"' = 0 :=
    fun ht => List.count_eq_zero.2 fun hquote => absurd (ht _ hquote) (by decide)
  obtain ⟨l, r, hl, hr, hs⟩ := Text.trim_decompose s
  have hcount := congrArg (List.count '"') hs
  rw [List.count_append, List.count_append, hblank hl, hblank hr] at hcount
  omega

theorem Ident.trim_ne_nil_of_parse {raw : String} {i : Ident} (h : parse raw = .ok i) :
    Text.trim raw.toList ≠ [] := by
  intro hnil
  rw [parse_eq_ok_iff, readParts, hnil] at h
  cases h

/-- A name that can be read as a column is the column of that name. -/
theorem Column.read_of_name {item : List Char} {i : Ident}
    (hname : Ident.parse (String.ofList item) = .ok i) {column : Column}
    (hread : read item = .ok column) : Text.cut ':' item = none ∧ column = .named i := by
  obtain ⟨out, hout, hchars⟩ := Ident.exists_outside?_of_parse hname
  rw [String.toList_ofList] at hout
  rcases read_eq_ok hread with ⟨rfl, -⟩ | ⟨name, source, n, s, hcut, -, hn, -⟩ | ⟨hcut, j, hj, rfl⟩
  · -- a star is no name
    cases hout
    exact absurd (hchars '*' List.mem_cons_self) (by decide)
  · -- nor is what stands before a colon, with an open quote
    obtain ⟨rfl, -⟩ := Text.cut_eq_some_iff.1 hcut
    have hodd := count_quote_odd hout (by decide) fun hc => absurd (hchars _ hc) (by decide)
    have heven := Ident.count_quote_of_parse hn
    rw [String.toList_ofList] at heven
    omega
  · rw [hname] at hj
    cases hj
    exact ⟨hcut, rfl⟩

namespace Selection

/-- A name is one item of a list and read as the column of that name, if the items that it is cut
into can be read at all. -/
theorem listItems_of_name {k : String} {i : Ident} (hk : Ident.parse k = .ok i)
    (hread : ∀ item ∈ listItems k, ∃ column, Column.read item = .ok column) :
    listItems k = [Text.trim k.toList] := by
  have hcomma : ',' ∉ k.toList := by
    intro hmem
    cases hcut : Text.cut ',' k.toList with
    | none => exact Text.cut_eq_none_iff.1 hcut hmem
    | some cut =>
      obtain ⟨l, r⟩ := cut
      obtain ⟨hsplit, hl⟩ := Text.cut_eq_some_iff.1 hcut
      obtain ⟨out, hout, hchars⟩ := Ident.exists_outside?_of_parse hk
      rw [hsplit] at hout
      have hodd := count_quote_odd hout (by decide) fun hc => absurd (hchars _ hc) (by decide)
      -- what stands before the comma would be an item with an open quote
      have hitem : Text.trim l ∈ listItems k := by
        rw [listItems, hsplit, List.splitOn_append_cons_self, List.splitOn_eq_singleton hl]
        refine mem_itemTexts_iff.2 ⟨⟨l, List.mem_cons_self, rfl⟩, fun hnil => ?_⟩
        rw [← Text.count_quote_trim, hnil] at hodd
        cases hodd
      obtain ⟨column, hcolumn⟩ := hread _ hitem
      have heven := Column.count_quote_of_read hcolumn
      rw [Text.count_quote_trim] at heven
      omega
  rw [listItems, List.splitOn_eq_singleton hcomma]
  simp [itemTexts, Ident.trim_ne_nil_of_parse hk]

end Selection

/-! ### Offered columns -/

/-- The columns of a statement offer a column: all are selected, or that one under its own name. -/
def Column.Offers (columns : List Column) (k : String) : Prop :=
  .star ∈ columns ∨ ∃ i, Ident.parse k = .ok i ∧ .named i ∈ columns

namespace Selection

/-- The column list has a column under another name only: some item is taken from it, but none is
the column itself, and there is no star. -/
structure Renames (s : Selection) (k : String) : Prop where
  renamed : ∃ item ∈ listItems s.base, ∃ name source,
    Text.cut ':' item = some (name, source) ∧ Text.trim source = k.toList
  unnamed : k.toList ∉ listItems s.base
  unstarred : ['*'] ∉ listItems s.base

/-- The columns of a list are read from its items. -/
theorem exists_column_of_mem_listItems {s : Selection} {columns : List Column}
    (h : s.columns = .ok columns) {item : List Char} (hitem : item ∈ listItems s.base) :
    ∃ column ∈ columns, Column.read item = .ok column := by
  rw [Selection.columns] at h
  cases hmap : (listItems s.base).mapM Column.read with
  | error v =>
    rw [hmap] at h
    cases h
  | ok read =>
    rw [hmap] at h
    obtain ⟨column, hcolumn, hread⟩ := exists_of_mapM_ok hmap hitem
    refine ⟨column, ?_, hread⟩
    have hsome : read.isEmpty = false := by
      cases read with
      | nil => cases hcolumn
      | cons _ _ => rfl
    have hcolumns : (if read.isEmpty then [.star] else read) = columns := Except.ok.inj h
    rw [hsome, if_neg Bool.false_ne_true] at hcolumns
    rw [← hcolumns]
    exact hcolumn

section

variable {s : Selection} {columns : List Column}

theorem offers_of_star_mem (h : s.columns = .ok columns) (hstar : ['*'] ∈ listItems s.base)
    (k : String) : Column.Offers columns k := by
  obtain ⟨column, hcolumn, hread⟩ := exists_column_of_mem_listItems h hstar
  cases hread
  exact .inl hcolumn

/-- A name among the items of a list is offered. -/
theorem offers_of_mem (h : s.columns = .ok columns) {k : String} {i : Ident}
    (hk : Ident.parse k = .ok i) (hmem : Text.trim k.toList ∈ listItems s.base) :
    Column.Offers columns k := by
  obtain ⟨column, hcolumn, hread⟩ := exists_column_of_mem_listItems h hmem
  obtain ⟨-, rfl⟩ := Column.read_of_name (Ident.parse_trim_eq_ok_iff.2 hk) hread
  exact .inr ⟨i, hk, hcolumn⟩

end

theorem listItems_ensure (s : Selection) (wanted : List String) :
    listItems (s.ensure wanted).1.base =
      listItems s.base ++ (s.ensure wanted).2.flatMap listItems := by
  rw [congrArg Prod.fst (s.ensure_eq_appending wanted), listItems_appending]

section

variable {s : Selection} {wanted : List String} {columns : List Column}

/-- An appended name is one item of the list, without a colon outside its double quotes. -/
theorem listItems_of_appended (hnames : ∀ k ∈ wanted, ∃ i, Ident.parse k = .ok i)
    (hcolumns : (s.ensure wanted).1.columns = .ok columns) {name : String}
    (hname : name ∈ (s.ensure wanted).2) :
    listItems name = [Text.trim name.toList] ∧ Text.cut ':' (Text.trim name.toList) = none := by
  obtain ⟨i, hi⟩ := hnames name (mem_of_mem_ensure hname)
  have hread : ∀ item ∈ listItems name, ∃ column, Column.read item = .ok column := by
    intro item hitem
    have hmem : item ∈ listItems (s.ensure wanted).1.base := by
      rw [listItems_ensure]
      exact List.mem_append_right _ (List.mem_flatMap.2 ⟨name, hname, hitem⟩)
    obtain ⟨column, -, hread⟩ := exists_column_of_mem_listItems hcolumns hmem
    exact ⟨column, hread⟩
  have hone := listItems_of_name hi hread
  rw [hone] at hread
  obtain ⟨column, hcolumn⟩ := hread _ List.mem_cons_self
  exact ⟨hone, (Column.read_of_name (Ident.parse_trim_eq_ok_iff.2 hi) hcolumn).1⟩

/-- A name that the list has under another name is offered all the same, if it is there as well or
if there is a star; and the other name was not appended. -/
theorem offers_or_renames_of_cut (hnames : ∀ k ∈ wanted, ∃ i, Ident.parse k = .ok i)
    (hcolumns : (s.ensure wanted).1.columns = .ok columns) {k : String} {i : Ident}
    (hk : Ident.parse k = .ok i) {item name source : List Char}
    (hitem : item ∈ listItems (s.ensure wanted).1.base)
    (hcut : Text.cut ':' item = some (name, source)) (hsource : Text.trim source = k.toList) :
    Column.Offers columns k ∨ s.Renames k := by
  rw [listItems_ensure] at hitem
  rcases List.mem_append.1 hitem with hbase | hhelper
  · by_cases hstar : ['*'] ∈ listItems s.base
    · refine .inl (offers_of_star_mem hcolumns ?_ k)
      rw [listItems_ensure]
      exact List.mem_append_left _ hstar
    · by_cases hnamed : k.toList ∈ listItems s.base
      · obtain ⟨⟨p, -, hp⟩, -⟩ := mem_itemTexts_iff.1 hnamed
        refine .inl (offers_of_mem hcolumns hk ?_)
        rw [listItems_ensure, ← hp, Text.trim_trim, hp]
        exact List.mem_append_left _ hnamed
      · exact .inr ⟨⟨item, hbase, name, source, hcut, hsource⟩, hnamed, hstar⟩
  · -- an appended name has no colon outside its quotes
    obtain ⟨added, hadded, hmem⟩ := List.mem_flatMap.1 hhelper
    obtain ⟨hone, hnone⟩ := listItems_of_appended hnames hcolumns hadded
    rw [hone, List.mem_singleton] at hmem
    rw [hmem, hnone] at hcut
    cases hcut

/-- **Offered or renamed.**  Let some names be wanted of a selection, which appends those that it
does not select.  If columns can be read from the list, then they offer each of the names, unless
the selection has it under another name only. -/
theorem offers_or_renames (hnames : ∀ k ∈ wanted, ∃ i, Ident.parse k = .ok i)
    (hcolumns : (s.ensure wanted).1.columns = .ok columns) {k : String} (hk : k ∈ wanted) :
    Column.Offers columns k ∨ s.Renames k := by
  obtain ⟨i, hi⟩ := hnames k hk
  rcases mem_ensure_or_selects (s := s) hk with hadded | hselects
  · refine .inl (offers_of_mem hcolumns hi ?_)
    rw [listItems_ensure]
    refine List.mem_append_right _ (List.mem_flatMap.2 ⟨k, hadded, ?_⟩)
    rw [(listItems_of_appended hnames hcolumns hadded).1]
    exact List.mem_cons_self
  · rcases selects_iff.1 hselects with hstar | ⟨p, hp, hsource⟩
    · refine .inl (offers_of_star_mem hcolumns ?_ k)
      rw [hstar]
      exact List.mem_cons_self
    · have hitem : Text.trim p ∈ listItems (s.ensure wanted).1.base := by
        refine mem_itemTexts_iff.2 ⟨⟨p, hp, rfl⟩, fun hnil => ?_⟩
        rw [sourceOf, hnil] at hsource
        exact Ident.trim_ne_nil_of_parse hi (by rw [← hsource]; rfl)
      rw [sourceOf] at hsource
      cases hcut : Text.cut ':' (Text.trim p) with
      | none =>
        -- an item without a colon is the key itself
        rw [hcut] at hsource
        refine .inl (offers_of_mem hcolumns hi ?_)
        rw [← hsource, Text.trim_trim]
        exact hitem
      | some cut =>
        rw [hcut] at hsource
        exact offers_or_renames_of_cut hnames hcolumns hi hitem hcut hsource

end

end Selection

/-- A column that is offered stands in the list as a star or as itself. -/
theorem Column.Offers.mem_sqls {columns : List Column} {k : String} (h : Offers columns k) :
    "*" ∈ columns.map sql ∨ String.ofList (Text.trim k.toList) ∈ columns.map sql := by
  rcases h with hstar | ⟨i, hi, hmem⟩
  · exact .inl (List.mem_map_of_mem hstar)
  · right
    rw [← Ident.sql_of_parse hi]
    exact List.mem_map_of_mem hmem

/-! ### Engines that name their columns by the list -/

/-- The names under which a column is returned, where `all` are the columns of the table. -/
def Column.outputs (all : List String) : Column → List String
  | .star => all
  | .named source => [source.sql]
  | .renamed _ name => [name.sql]

/-- The row has a cell for each of the columns, under the name that the column list gives it. -/
def Row.Answers (all : List String) (columns : List Column) (row : Row) : Prop :=
  ∀ column ∈ columns, ∀ name ∈ column.outputs all, row.contains name = true

/-- A column that is offered is there in each row that answers the list, if the table has it. -/
theorem Column.Offers.contains {columns : List Column} {k : String} (h : Offers columns k)
    (hname : Text.trim k.toList = k.toList) {all : List String} (hall : k ∈ all) {row : Row}
    (hrow : row.Answers all columns) : row.contains k = true := by
  rcases h with hstar | ⟨i, hi, hmem⟩
  · exact hrow _ hstar k hall
  · have hsql : i.sql = k := by
      rw [Ident.sql_of_parse hi, hname, String.ofList_toList]
    have houtput : k ∈ outputs all (.named i) := by
      rw [outputs, hsql]
      exact List.mem_cons_self
    exact hrow _ hmem k houtput

end Graft
