/-
Graft/Proofs/Embed/Matching.lean

Which related rows a row of the owner is given.

Embedding works with texts of keys and an index of rows under them.  Here the
same is said of the rows themselves:

* `wantedKeys`: the cells that a lookup asks for, which are the cells of the
  owner's rows that are not null, each text once, in first-seen order;
* `matched`: an owner's row and a related row have a cell each in the columns
  of the link, neither is null, and their texts agree;
* `portion`: what a row is given, the first related row matched with it or all
  of them, each without the helper columns;
* `splice`: the owner's rows with their portions, an inner join keeping those
  with which some related row is matched.

`distinctKeys_eq_wantedKeys` and `map_related_eq_splice` say that the keys and
the index come to that.
-/
import Graft.Embed

namespace Graft

/-! ### Rows without some columns -/

/-- Erasing columns removes exactly their cells. -/
theorem Row.cells_eraseAll (r : Row) (ks : List String) :
    (r.eraseAll ks).cells = r.cells.filter fun cell => !ks.contains cell.1 := by
  induction ks generalizing r with
  | nil => exact (List.filter_eq_self.2 fun _ _ => rfl).symm
  | cons k ks ih =>
    have hstep : r.eraseAll (k :: ks) = (r.erase k).eraseAll ks := rfl
    rw [hstep, ih, erase, List.filter_filter]
    refine List.filter_congr fun cell _ => ?_
    by_cases h : cell.1 = k <;> simp [h]

namespace Embed

/-! ### Keys -/

theorem key?_eq_ite (v : Value) : v.key? = if v.isNull then none else some v.text := by
  cases v <;> rfl

theorem rowKey?_eq_some_iff {column k : String} {row : Row} :
    rowKey? column row = some k ↔
      ∃ v, row.get? column = some v ∧ v.isNull = false ∧ v.text = k := by
  simp only [rowKey?, Option.bind_eq_some_iff, key?_eq_ite]
  simp

/-- The cells of a column that are not null, each text once, in the order of first occurrence. -/
def wantedKeys (column : String) (rows : List Row) : List Value :=
  ((rows.filterMap (·.get? column)).filter (!·.isNull)).eraseDupsBy fun u v => u.text == v.text

theorem distinctKeys_eq (seen : List String) (vs : List Value) :
    distinctKeys seen vs =
      (vs.filter fun v => !v.isNull && !seen.contains v.text).eraseDupsBy
        fun u v => u.text == v.text := by
  induction vs generalizing seen with
  | nil => rfl
  | cons v rest ih =>
    by_cases hnull : v.isNull = true
    · rw [List.filter_cons_of_neg (by simp [hnull]), distinctKeys, key?_eq_ite, if_pos hnull, ih]
    · rw [distinctKeys, key?_eq_ite, if_neg hnull]
      by_cases hseen : v.text ∈ seen
      · simp only [if_pos hseen]
        rw [List.filter_cons_of_neg (by simp [hseen]), ih]
      · simp only [if_neg hseen]
        rw [List.filter_cons_of_pos (by simp [hnull, hseen]), List.eraseDupsBy_cons, ih,
          List.filter_filter]
        -- the text of `v` is seen from here on: dropped now or by the new `seen`
        congr 2
        refine List.filter_congr fun u _ => ?_
        by_cases hu : u.text = v.text <;> simp [hu]

/-- The keys that are looked up are the wanted ones. -/
theorem distinctKeys_eq_wantedKeys (column : String) (rows : List Row) :
    distinctKeys [] (rows.filterMap (·.get? column)) = wantedKeys column rows := by
  rw [distinctKeys_eq, wantedKeys]
  simp

theorem text_mem_distinctKeys_iff {seen : List String} {vs : List Value} {k : String} :
    k ∈ (distinctKeys seen vs).map Value.text ↔ k ∉ seen ∧ ∃ v ∈ vs, v.key? = some k := by
  induction vs generalizing seen with
  | nil => simp [distinctKeys]
  | cons v rest ih =>
    rw [distinctKeys]
    -- A null has no key and a key seen before is passed over; any other is taken and seen.
    split
    · next hnone =>
      rw [ih]
      simp [hnone]
    · next j hj =>
      have htext : v.text = j := Value.key?_eq_some hj
      split
      · next hseen =>
        rw [ih]
        simp only [List.mem_cons, exists_eq_or_imp, hj, Option.some.injEq]
        grind
      · next hseen =>
        rw [List.map_cons, List.mem_cons, ih]
        simp only [List.mem_cons, exists_eq_or_imp, hj, htext, Option.some.injEq]
        grind

/-- Some wanted key has a text exactly when some row has that key. -/
theorem text_mem_wantedKeys_iff {column k : String} {rows : List Row} :
    k ∈ (wantedKeys column rows).map Value.text ↔ ∃ row ∈ rows, rowKey? column row = some k := by
  rw [← distinctKeys_eq_wantedKeys, text_mem_distinctKeys_iff]
  simp only [List.not_mem_nil, not_false_eq_true, true_and, List.mem_filterMap, rowKey?,
    Option.bind_eq_some_iff]
  constructor
  · rintro ⟨v, ⟨row, hrow, hv⟩, hk⟩
    exact ⟨row, hrow, v, hv, hk⟩
  · rintro ⟨row, hrow, v, hv, hk⟩
    exact ⟨v, ⟨row, hrow, hv⟩, hk⟩

theorem wantedKeys_eq_nil_iff {column : String} {rows : List Row} :
    wantedKeys column rows = [] ↔ ∀ row ∈ rows, rowKey? column row = none := by
  rw [← List.map_eq_nil_iff (f := Value.text), List.eq_nil_iff_forall_not_mem]
  simp only [text_mem_wantedKeys_iff, not_exists, not_and]
  constructor
  · intro h row hrow
    cases hk : rowKey? column row with
    | none => rfl
    | some k => exact absurd hk (h k row hrow)
  · intro h k row hrow hk
    rw [h row hrow] at hk
    cases hk

/-! ### Matching -/

/-- Whether a related row is matched with an owner's row: both have a cell in their column of the
link, neither cell is null, and the cells have the same text. -/
def matched (link : Link) (row related : Row) : Bool :=
  match row.get? link.ownerColumn, related.get? link.relatedColumn with
  | some u, some v => !u.isNull && !v.isNull && u.text == v.text
  | _, _ => false

theorem matched_iff {link : Link} {row related : Row} :
    matched link row related = true ↔
      ∃ k, rowKey? link.ownerColumn row = some k ∧ rowKey? link.relatedColumn related = some k := by
  simp only [rowKey?_eq_some_iff, matched]
  cases row.get? link.ownerColumn with
  | none => simp
  | some u =>
    cases related.get? link.relatedColumn with
    | none => simp
    | some v =>
      simp only [Bool.and_eq_true, Bool.not_eq_true', beq_iff_eq, Option.some.injEq,
        exists_eq_left']
      constructor
      · rintro ⟨⟨hu, hv⟩, htext⟩
        exact ⟨u.text, ⟨hu, rfl⟩, hv, htext.symm⟩
      · rintro ⟨k, ⟨hu, huk⟩, hv, hvk⟩
        exact ⟨⟨hu, hv⟩, huk.trans hvk.symm⟩

/-- Where the owner's row has a key, it is matched with the related rows that have the same. -/
theorem matched_eq_of_rowKey? {link : Link} {row : Row} {k : String}
    (h : rowKey? link.ownerColumn row = some k) (related : Row) :
    matched link row related = (rowKey? link.relatedColumn related == some k) := by
  rw [Bool.eq_iff_iff, matched_iff, h, beq_iff_eq]
  simp only [Option.some.injEq, exists_eq_left']

/-- A row without a key is matched with nothing. -/
theorem matched_eq_false {link : Link} {row : Row} (h : rowKey? link.ownerColumn row = none)
    (related : Row) : matched link row related = false := by
  rw [Bool.eq_false_iff, ne_eq, matched_iff, h]
  simp

/-! ### Portions -/

/-- What an owner's row is given of some related rows: the first row that is matched with it, or
null if there is none; or all rows that are matched with it.  The helper columns are left out. -/
def portion (link : Link) (helpers : List String) (related : List Row) (row : Row) : Value :=
  match link.kind with
  | .belongsTo =>
    ((related.find? (matched link row)).map fun r => (r.eraseAll helpers).toValue).getD .null
  | .hasMany => .arr ((related.filter (matched link row)).map fun r => (r.eraseAll helpers).toValue)

/-- The rows of an owner with the portions that they are given; an inner join keeps the rows with
which some related row is matched. -/
def splice (link : Link) (request : Request) (helpers : List String) (related rows : List Row) :
    List Row :=
  (if request.inner then rows.filter (fun row => related.any (matched link row)) else rows).map
    fun row => row.insert request.field (portion link helpers related row)

theorem all_indexRows (column : String) (helpers : List String) (rows : List Row) (k : String) :
    (indexRows column helpers rows).all k =
      (rows.filter fun r => rowKey? column r == some k).map (·.eraseAll helpers) := by
  rw [indexRows, KeyIndex.all_ofList]
  induction rows with
  | nil => rfl
  | cons r rest ih =>
    cases hr : rowKey? column r with
    | none => simp [hr, ih]
    | some j =>
      by_cases hj : j = k
      · simp [hr, hj, ih]
      · simp [hr, hj, ih]

/-- The index gives a row its portion. -/
theorem related_indexRows (link : Link) (helpers : List String) (rows : List Row) (row : Row) :
    related link (indexRows link.relatedColumn helpers rows) row =
      portion link helpers rows row := by
  -- A row without a key matches no row, and the index is not asked.
  cases hk : rowKey? link.ownerColumn row with
  | none =>
    have hfind : rows.find? (matched link row) = none :=
      List.find?_eq_none.2 fun r _ => by simp [matched_eq_false hk r]
    have hfilter : rows.filter (matched link row) = [] :=
      List.filter_eq_nil_iff.2 fun r _ => by simp [matched_eq_false hk r]
    cases hkind : link.kind <;> simp [related, portion, hkind, hk, hfind, hfilter]
  | some k =>
    have hsame : matched link row = fun r => rowKey? link.relatedColumn r == some k :=
      funext (matched_eq_of_rowKey? hk)
    cases hkind : link.kind with
    | belongsTo =>
      simp only [related, portion, hkind, hk, hsame, KeyIndex.first?, all_indexRows,
        List.head?_map, List.head?_filter, Option.map_map]
      rfl
    | hasMany =>
      simp only [related, portion, hkind, hk, hsame, all_indexRows, List.map_map]
      rfl

theorem related_empty (link : Link) (row : Row) :
    related link .empty row = portion link [] [] row := by
  cases hk : rowKey? link.ownerColumn row <;> cases hkind : link.kind <;>
    simp [related, portion, hk, hkind, KeyIndex.first?]

/-- A row got something exactly when some related row is matched with it. -/
theorem hasRelated_insert_portion (link : Link) (field : String) (helpers : List String)
    (related : List Row) (row : Row) :
    hasRelated field (row.insert field (portion link helpers related row)) =
      related.any (matched link row) := by
  rw [hasRelated, Row.get?_insert, if_pos rfl, portion]
  -- A missing parent is null, missing children are the empty list.
  cases link.kind with
  | belongsTo =>
    cases hfind : related.find? (matched link row) with
    | none => simp_all
    | some r =>
      have hany : related.any (matched link row) = true :=
        List.any_eq_true.2 ⟨r, List.mem_of_find?_eq_some hfind, List.find?_some hfind⟩
      simp [hany, Row.toValue]
  | hasMany =>
    cases hfilter : related.filter (matched link row) with
    | nil =>
      have hnone := List.filter_eq_nil_iff.1 hfilter
      simp_all
    | cons r rs =>
      have hr : r ∈ related.filter (matched link row) := by simp [hfilter]
      have hany : related.any (matched link row) = true :=
        List.any_eq_true.2 ⟨r, List.mem_filter.1 hr⟩
      simp [hany]

/-- Rows that are given their portions, and filtered by whether they got anything where the join is
an inner one, are the spliced rows. -/
theorem map_related_eq_splice {link : Link} {request : Request} {helpers : List String}
    {index : KeyIndex Row} {related rows : List Row}
    (h : ∀ row, Embed.related link index row = portion link helpers related row) :
    (if request.inner then
      (rows.map fun row => row.insert request.field (Embed.related link index row)).filter
        (hasRelated request.field)
    else rows.map fun row => row.insert request.field (Embed.related link index row)) =
      splice link request helpers related rows := by
  simp only [h, splice]
  split
  · rw [List.filter_map]
    congr 1
    refine List.filter_congr fun row _ => ?_
    exact hasRelated_insert_portion link request.field helpers related row
  · rfl

end Embed

end Graft
