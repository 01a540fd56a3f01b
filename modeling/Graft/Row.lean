/-
Graft/Row.lean

Rows: cells under distinct column names, in the order in which the engine
returned them.

Setting a cell that a row already has keeps its place; a new cell goes last.
Every operation keeps the column names distinct, so that is part of the type.
The view of a row is `get?`; its laws are `get?_insert` and `get?_erase`, and
`keys_insert` and `keys_erase` say what happens to the order.
-/
import Graft.Value

namespace Graft

/-! ### Cells -/

/-- The cells with the one under `k` set to `v`, in its place if it is there and last if not. -/
def setCell (k : String) (v : Value) : List (String × Value) → List (String × Value)
  | [] => [(k, v)]
  | (k', v') :: rest =>
    if k' = k then (k, v) :: rest else (k', v') :: setCell k v rest

theorem keys_setCell (k : String) (v : Value) (cells : List (String × Value)) :
    (setCell k v cells).map (·.1) =
      if k ∈ cells.map (·.1) then cells.map (·.1) else cells.map (·.1) ++ [k] := by
  induction cells with
  | nil => simp [setCell]
  | cons cell rest ih =>
    obtain ⟨k', v'⟩ := cell
    by_cases h : k' = k
    · simp [setCell, h]
    · simp only [setCell, h, if_false, List.map_cons, ih, List.mem_cons, Ne.symm h, false_or]
      split <;> simp

theorem lookup_cons_if (j k : String) (v : Value) (rest : List (String × Value)) :
    ((k, v) :: rest).lookup j = if j = k then some v else rest.lookup j := by
  by_cases h : j = k
  · simp [h]
  · simp [List.lookup_cons, h, beq_eq_false_iff_ne.2 h]

theorem lookup_setCell (k j : String) (v : Value) (cells : List (String × Value)) :
    (setCell k v cells).lookup j = if j = k then some v else cells.lookup j := by
  induction cells with
  | nil => simp [setCell, lookup_cons_if]
  | cons cell rest ih =>
    obtain ⟨k', v'⟩ := cell
    by_cases h : k' = k
    · subst h
      rw [setCell, if_pos rfl, lookup_cons_if, lookup_cons_if]
      split <;> rfl
    · rw [setCell, if_neg h, lookup_cons_if, lookup_cons_if, ih]
      grind

theorem lookup_filter_ne (k j : String) (cells : List (String × Value)) :
    (cells.filter (·.1 != k)).lookup j = if j = k then none else cells.lookup j := by
  induction cells with
  | nil => simp
  | cons cell rest ih =>
    obtain ⟨k', v'⟩ := cell
    by_cases h : k' = k
    · subst h
      rw [List.filter_cons_of_neg (by simp), ih, lookup_cons_if]
      grind
    · rw [List.filter_cons_of_pos (by simpa using h), lookup_cons_if, lookup_cons_if, ih]
      grind

/-! ### Rows -/

/-- Cells under distinct column names. -/
structure Row where
  cells : List (String × Value)
  nodup : (cells.map (·.1)).Nodup

namespace Row

/-- A row without cells. -/
def empty : Row := ⟨[], List.nodup_nil⟩

instance : Inhabited Row := ⟨empty⟩

/-- The column names, in order. -/
def keys (r : Row) : List String :=
  r.cells.map (·.1)

/-- The cell under a column name. -/
def get? (r : Row) (k : String) : Option Value :=
  r.cells.lookup k

/-- Whether there is a cell under a column name. -/
def contains (r : Row) (k : String) : Bool :=
  r.keys.contains k

/-- The row with one cell set. -/
def insert (r : Row) (k : String) (v : Value) : Row where
  cells := setCell k v r.cells
  nodup := by
    rw [keys_setCell]
    split
    · exact r.nodup
    · next h =>
      exact List.nodup_append.2 ⟨r.nodup, by simp, fun a ha b hb hab =>
        h (List.mem_singleton.1 hb ▸ hab ▸ ha)⟩

/-- The row with one more cell before all others. -/
def cons (r : Row) (k : String) (v : Value) (h : k ∉ r.keys) : Row where
  cells := (k, v) :: r.cells
  nodup := List.nodup_cons.2 ⟨h, r.nodup⟩

/-- The row without one cell. -/
def erase (r : Row) (k : String) : Row where
  cells := r.cells.filter (·.1 != k)
  nodup := r.nodup.sublist (List.filter_sublist.map _)

/-- The row without some cells. -/
def eraseAll (r : Row) (ks : List String) : Row :=
  ks.foldl erase r

/-- The row of some fields; of several under one name, the first gives the place and the last
the value. -/
def ofFields (fields : List (String × Value)) : Row :=
  fields.foldl (fun r (k, v) => r.insert k v) empty

/-- The row as an object. -/
def toValue (r : Row) : Value :=
  .obj r.cells

/-! ### Laws -/

theorem contains_iff {r : Row} {k : String} : r.contains k = true ↔ k ∈ r.keys := by
  rw [contains, List.contains_eq_mem, decide_eq_true_eq]

theorem get?_insert (r : Row) (k j : String) (v : Value) :
    (r.insert k v).get? j = if j = k then some v else r.get? j :=
  lookup_setCell k j v r.cells

theorem keys_insert (r : Row) (k : String) (v : Value) :
    (r.insert k v).keys = if k ∈ r.keys then r.keys else r.keys ++ [k] :=
  keys_setCell k v r.cells

theorem get?_erase (r : Row) (k j : String) :
    (r.erase k).get? j = if j = k then none else r.get? j :=
  lookup_filter_ne k j r.cells

theorem keys_erase (r : Row) (k : String) : (r.erase k).keys = r.keys.filter (· != k) := by
  simp [keys, erase, List.filter_map, Function.comp_def]

end Row

end Graft
