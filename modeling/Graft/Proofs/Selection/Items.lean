/-
Graft/Proofs/Selection/Items.lean

The items of a column list.

A column list is kept as text, and is cut at its commas when it is read.  The
list of a selection that was read from an expression has just the columns of
that expression for its items (`listItems_base_of_parse`): a column has no
comma in it, because the expression was cut at that comma if it had
(`columns_of_parse`).  A list that is appended to another adds its items
(`listItems_append`).

`Selection.selects` searches the items for one that is taken from a column.
The columns that `ensure` appends are those for which the search finds none
(`not_selects_of_mem_ensure`, `mem_ensure_or_selects`), and it does nothing but
append these (`ensure_eq_appending`).
-/
import Graft.Proofs.Selection.Pieces

namespace Graft.Selection

/-! ### Items -/

theorem itemTexts_append (ps qs : List (List Char)) :
    itemTexts (ps ++ qs) = itemTexts ps ++ itemTexts qs := by
  rw [itemTexts, List.map_append, List.filter_append]
  rfl

theorem trim_space_cons (s : List Char) : Text.trim (' ' :: s) = Text.trim s := rfl

/-- A blank before a list belongs to no item. -/
theorem itemTexts_splitOn_space_cons (s : List Char) :
    itemTexts ((' ' :: s).splitOn ',') = itemTexts (s.splitOn ',') := by
  have hsep : (' ' == ',') = false := rfl
  rw [List.splitOn_cons_eq_if_modifyHead, hsep, if_neg Bool.false_ne_true]
  cases s.splitOn ',' with
  | nil => rfl
  | cons p ps => rw [List.modifyHead_cons, itemTexts, itemTexts, List.map_cons, List.map_cons,
      trim_space_cons]

theorem toList_append_comma (x y : String) :
    (x ++ ", " ++ y).toList = x.toList ++ ',' :: (' ' :: y.toList) := by
  have hcomma : ", ".toList = [',', ' '] := rfl
  rw [String.toList_append, String.toList_append, hcomma, List.append_assoc]
  rfl

/-- A list appended to another adds its items. -/
theorem listItems_append (x y : String) :
    listItems (x ++ ", " ++ y) = listItems x ++ listItems y := by
  rw [listItems, toList_append_comma, List.splitOn_append_cons_self, itemTexts_append,
    itemTexts_splitOn_space_cons]
  rfl

theorem mem_itemTexts_iff {item : List Char} {ps : List (List Char)} :
    item ∈ itemTexts ps ↔ (∃ p ∈ ps, Text.trim p = item) ∧ item ≠ [] := by
  simp [itemTexts]

/-! ### Searching for a column -/

theorem sourceOf_trim (item : List Char) : sourceOf (Text.trim item) = sourceOf item := by
  rw [sourceOf, sourceOf, Text.trim_trim]

theorem selects_iff {s : Selection} {column : String} :
    s.selects column = true ↔
      s.base = "*" ∨ ∃ p ∈ s.base.toList.splitOn ',', sourceOf p = column.toList := by
  simp [selects, isStar]

/-- A selection selects the columns that its items are taken from. -/
theorem selects_of_mem_listItems {s : Selection} {column : String} {item : List Char}
    (hitem : item ∈ listItems s.base) (hsource : sourceOf item = column.toList) :
    s.selects column = true := by
  obtain ⟨⟨p, hp, rfl⟩, -⟩ := mem_itemTexts_iff.1 hitem
  rw [sourceOf_trim] at hsource
  exact selects_iff.2 (.inr ⟨p, hp, hsource⟩)

/-- A column that is selected stays selected when others are appended. -/
theorem selects_ensureOne {s : Selection} {column : String} (h : s.selects column = true)
    (other : String) : (s.ensureOne other).selects column = true := by
  rw [ensureOne]
  split
  · exact h
  · next hother =>
    obtain hstar | ⟨p, hp, hsource⟩ := selects_iff.1 h
    · -- nothing is appended to a star
      exact absurd (selects_iff.2 (.inl hstar)) hother
    · refine selects_iff.2 (.inr ⟨p, ?_, hsource⟩)
      rw [toList_append_comma, List.splitOn_append_cons_self]
      exact List.mem_append_left _ hp

/-- Columns are appended only if the selection does not select them. -/
theorem not_selects_of_mem_ensure {s : Selection} {columns : List String} {column : String}
    (h : column ∈ (s.ensure columns).2) : ¬ s.selects column = true := by
  induction columns generalizing s with
  | nil => cases h
  | cons first rest ih =>
    simp only [ensure] at h
    by_cases hfirst : s.selects first = true
    · rw [if_pos hfirst, ensureOne, if_pos hfirst] at h
      exact ih h
    · rw [if_neg hfirst] at h
      rcases List.mem_cons.1 h with rfl | h
      · exact hfirst
      · exact fun hselects => ih h (selects_ensureOne hselects first)

/-- A column that is wanted is appended, or the selection selects it in the end. -/
theorem mem_ensure_or_selects {s : Selection} {columns : List String} {column : String}
    (h : column ∈ columns) :
    column ∈ (s.ensure columns).2 ∨ (s.ensure columns).1.selects column = true := by
  -- What is selected stays so, whatever is ensured after it.
  have hkeeps : ∀ {columns : List String} {s : Selection}, s.selects column = true →
      (s.ensure columns).1.selects column = true := by
    intro columns
    induction columns with
    | nil => exact id
    | cons first rest ih => exact fun hselects => ih (selects_ensureOne hselects first)
  induction columns generalizing s with
  | nil => cases h
  | cons first rest ih =>
    simp only [ensure]
    rcases List.mem_cons.1 h with rfl | h
    · by_cases hselects : s.selects column = true
      · exact .inr (hkeeps (selects_ensureOne hselects column))
      · rw [if_neg hselects]
        exact .inl List.mem_cons_self
    · rcases @ih (s.ensureOne first) h with hmem | hselects
      · left
        split
        · exact hmem
        · exact List.mem_cons_of_mem _ hmem
      · exact .inr hselects

theorem mem_of_mem_ensure {s : Selection} {columns : List String} {column : String}
    (h : column ∈ (s.ensure columns).2) : column ∈ columns := by
  induction columns generalizing s with
  | nil => cases h
  | cons first rest ih =>
    simp only [ensure] at h
    split at h
    · exact List.mem_cons_of_mem _ (ih h)
    · rcases List.mem_cons.1 h with rfl | h
      · exact List.mem_cons_self
      · exact List.mem_cons_of_mem _ (ih h)

/-! ### Appended columns -/

/-- The selection with some columns appended to its list. -/
def appending (s : Selection) (columns : List String) : Selection :=
  { s with base := columns.foldl (fun list column => list ++ ", " ++ column) s.base }

/-- The columns that `ensure` reports are the ones that it appends. -/
theorem ensure_eq_appending (s : Selection) (columns : List String) :
    s.ensure columns = (s.appending (s.ensure columns).2, (s.ensure columns).2) := by
  induction columns generalizing s with
  | nil => rfl
  | cons column rest ih =>
    rw [ensure]
    have ih := congrArg Prod.fst (ih (s.ensureOne column))
    -- a column that is selected already is neither appended nor reported
    by_cases hselects : s.selects column = true
    · simp only [ensureOne, hselects, if_true] at ih ⊢
      rw [← ih]
    · simp only [ensureOne, hselects] at ih ⊢
      exact Prod.ext ih rfl

theorem listItems_appending (s : Selection) (columns : List String) :
    listItems (s.appending columns).base = listItems s.base ++ columns.flatMap listItems := by
  rw [appending]
  induction columns generalizing s with
  | nil => simp
  | cons column rest ih =>
    have ih := ih { s with base := s.base ++ ", " ++ column }
    rw [List.foldl_cons, ih, listItems_append, List.flatMap_cons, List.append_assoc]

/-! ### The items of an expression -/

/-- What the text of a column is like: it is not blank and has no blanks around it, and it has
neither parentheses nor commas. -/
structure Plain (t : List Char) : Prop where
  nonempty : t ≠ []
  trimmed : Text.trim t = t
  noOpen : '(' ∉ t
  noClose : ')' ∉ t
  noComma : ',' ∉ t

/-- The item texts of an expression are pieces, not blank, and without blanks around them. -/
theorem isPiece_of_mem_itemTexts {expr : List Char} {ps : List (List Char)}
    (hps : splitTopLevel expr = .ok ps) {t : List Char} (ht : t ∈ itemTexts ps) :
    t ≠ [] ∧ Text.trim t = t ∧ IsPiece t := by
  obtain ⟨⟨p, hp, rfl⟩, hsome⟩ := mem_itemTexts_iff.1 ht
  refine ⟨hsome, Text.trim_trim p, ?_⟩
  rw [IsPiece, follows_uncut?.trim]
  exact (splitTopLevel_eq_ok_iff_joined.1 hps).2.1 p hp

/-- The texts that are read as columns are plain. -/
theorem plain_of_mapM_readItem {expr : List Char} {ps : List (List Char)} {items : List Item}
    (hps : splitTopLevel expr = .ok ps) (hitems : (itemTexts ps).mapM readItem = .ok items) :
    ∀ t ∈ items.filterMap Item.column?, Plain t := by
  have hplain : ∀ item ∈ items, ∀ t, item.column? = some t → Plain t := by
    refine forall_of_mapM_ok hitems fun text htext item hitem t ht => ?_
    obtain ⟨hsome, htrim, hpiece⟩ := isPiece_of_mem_itemTexts hps htext
    obtain ⟨hopen, rfl⟩ | ⟨head, tail, r, -, -, -, rfl⟩ := readItem_eq_ok_iff.1 hitem
    · cases ht
      obtain ⟨hclose, hcomma⟩ := plain_of_uncut? hpiece hopen
      exact ⟨hsome, htrim, hopen, hclose, hcomma⟩
    · cases ht
  intro t ht
  obtain ⟨item, hitem, hcolumn⟩ := List.mem_filterMap.1 ht
  exact hplain item hitem t hcolumn

/-- What the column list of an expression is made of. -/
theorem columns_of_parse {expr : String} {s : Selection} (h : parse expr = .ok s) :
    ∃ texts : List (List Char), texts ≠ [] ∧
      s.base = String.ofList ([',', ' '].intercalate texts) ∧ ∀ t ∈ texts, Plain t := by
  obtain ⟨ps, items, hps, hitems, rfl⟩ := parse_eq_ok_iff.1 h
  by_cases hnone : [',', ' '].intercalate (items.filterMap Item.column?) = []
  · -- then it is a star
    refine ⟨[['*']], List.cons_ne_nil _ _, ?_, ?_⟩
    · simp only [ofItems, hnone]
      rfl
    · rw [List.forall_mem_singleton]
      exact ⟨by decide, rfl, by decide, by decide, by decide⟩
  · refine ⟨items.filterMap Item.column?, fun hnil => hnone (by rw [hnil]; rfl), ?_,
      plain_of_mapM_readItem hps hitems⟩
    simp only [ofItems, orStar, if_neg hnone]

theorem listItems_intercalate {texts : List (List Char)} (h : ∀ t ∈ texts, Plain t) :
    listItems (String.ofList ([',', ' '].intercalate texts)) = texts := by
  induction texts with
  | nil => rfl
  | cons t rest ih =>
    have ht := h t List.mem_cons_self
    have hrest := ih fun u hu => h u (List.mem_cons_of_mem _ hu)
    have hone : itemTexts (t.splitOn ',') = [t] := by
      rw [List.splitOn_eq_singleton ht.noComma]
      simp [itemTexts, ht.trimmed, ht.nonempty]
    cases rest with
    | nil =>
      rw [List.intercalate_singleton, listItems, String.toList_ofList, hone]
    | cons u rest =>
      rw [listItems, String.toList_ofList] at hrest ⊢
      rw [List.intercalate_cons_cons, List.append_assoc, List.cons_append, List.singleton_append,
        List.splitOn_append_cons_self, itemTexts_append, itemTexts_splitOn_space_cons, hone, hrest]
      rfl

/-- **The items of a column list** are the columns of its expression, or a star if there is none. -/
theorem listItems_base_of_parse {expr : String} {s : Selection} (h : parse expr = .ok s) :
    ∃ texts : List (List Char), s.base = String.ofList ([',', ' '].intercalate texts) ∧
      listItems s.base = texts := by
  obtain ⟨texts, -, hbase, htexts⟩ := columns_of_parse h
  refine ⟨texts, hbase, ?_⟩
  rw [hbase]
  exact listItems_intercalate htexts

/-- A list whose only item is the star is the star. -/
theorem isStar_of_listItems {expr : String} {s : Selection} (h : parse expr = .ok s)
    (hitems : listItems s.base = [['*']]) : s.base = "*" := by
  obtain ⟨texts, hbase, htexts⟩ := listItems_base_of_parse h
  rw [hbase, ← htexts, hitems]
  rfl

end Graft.Selection
