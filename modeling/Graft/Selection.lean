/-
Graft/Selection.lean

Select expressions: which columns a chain wants, and which relations.

The items of an expression are separated by commas outside parentheses.  An
item with parentheses, `alias:table!hint(columns)`, requests a relation; every
other item is a column.  What stands in the parentheses of a request is again
a select expression, kept as text here and read when its turn comes; it is
shorter than the expression it is part of (`weight_relations_le`), so nesting
ends.
-/
import Graft.Ident
import Graft.Selection.Pieces
import Graft.Text.Cut

namespace Graft

/-! ### Requests and selections -/

/-- A relation asked for in a select expression. -/
structure Request where
  /-- The table whose rows are wanted. -/
  table : String
  /-- The field that takes them, where it is not named like the table. -/
  alias? : Option String
  /-- What is wanted of that table: a select expression. -/
  columns : String
  /-- Whether owner rows without a related row are dropped. -/
  inner : Bool
  deriving DecidableEq

/-- The field that takes the related rows. -/
def Request.field (r : Request) : String :=
  r.alias?.getD r.table

/-- A select expression taken apart. -/
structure Selection where
  /-- The columns, separated by commas, or a star. -/
  base : String
  /-- The relations, in the order of the expression. -/
  relations : List Request
  deriving DecidableEq

namespace Selection

/-- One item of a select expression. -/
inductive Item where
  | column (text : List Char)
  | relation (request : Request)

/-! ### Reading -/

/-- Whether a hint asks for an inner join. -/
def readHint (table : List Char) : Option (List Char) → Except Violation Bool
  | none => .ok false
  | some hint =>
    if hint = ['l', 'e', 'f', 't'] then .ok false
    else if hint = ['i', 'n', 'n', 'e', 'r'] then .ok true
    else .error (.unknownHint (String.ofList hint) (String.ofList table))

/-- The parts of a relation before its parenthesis: alias, table and hint, each without the
blanks around it. -/
def readHead (head : List Char) : Option (List Char) × List Char × Option (List Char) :=
  let head := Text.trim head
  let (alias?, target) := match Text.cut ':' head with
    | some (a, t) => (some (Text.trim a), Text.trim t)
    | none => (none, head)
  match Text.cut '!' target with
  | some (t, h) => (alias?, Text.trim t, some (Text.trim h))
  | none => (alias?, target, none)

/-- A list of columns as it is kept: a star if there is nothing in it. -/
def orStar (columns : List Char) : List Char :=
  if columns = [] then ['*'] else columns

/-- The request of an item that is `head`, a parenthesis, and `tail`. -/
def readRelation (item head tail : List Char) : Except Violation Request := do
  if tail.getLast? ≠ some ')' then
    throw (.textAfterRelation (String.ofList item))
  let (alias?, table, hint?) := readHead head
  let inner ← readHint table hint?
  let _ ← Ident.parse (String.ofList table)
  if let some a := alias? then
    let _ ← Ident.parse (String.ofList a)
  return {
    table := String.ofList table
    alias? := alias?.map String.ofList
    columns := String.ofList (orStar (Text.trim tail.dropLast))
    inner }

/-- The item that a piece without blanks around it is. -/
def readItem (item : List Char) : Except Violation Item :=
  match Text.cut '(' item with
  | none => .ok (.column item)
  | some (head, tail) => (readRelation item head tail).map .relation

/-- The columns among some items. -/
def Item.column? : Item → Option (List Char)
  | .column text => some text
  | .relation _ => none

/-- The requests among some items. -/
def Item.request? : Item → Option Request
  | .column _ => none
  | .relation r => some r

/-- The selection that some items make up. -/
def ofItems (items : List Item) : Selection where
  base := String.ofList (orStar ([',', ' '].intercalate (items.filterMap Item.column?)))
  relations := items.filterMap Item.request?

/-- The pieces of an expression that are not blank, without the blanks around them. -/
def itemTexts (pieces : List (List Char)) : List (List Char) :=
  (pieces.map Text.trim).filter (· ≠ [])

/-- The selection that a select expression is. -/
def parse (expr : String) : Except Violation Selection := do
  let pieces ← splitTopLevel expr.toList
  let items ← (itemTexts pieces).mapM readItem
  return ofItems items

/-! ### What was read -/

/-- What a relation was read from, and what was read. -/
theorem readRelation_eq_ok_iff {item head tail : List Char} {r : Request} :
    readRelation item head tail = .ok r ↔
      ∃ body alias? table hint?, tail = body ++ [')'] ∧ readHead head = (alias?, table, hint?) ∧
        readHint table hint? = .ok r.inner ∧ (∃ i, Ident.parse (String.ofList table) = .ok i) ∧
        (∀ a, alias? = some a → ∃ i, Ident.parse (String.ofList a) = .ok i) ∧
        r = { table := String.ofList table
              alias? := alias?.map String.ofList
              columns := String.ofList (orStar (Text.trim body))
              inner := r.inner } := by
  constructor
  · intro h
    rw [readRelation] at h
    rcases hhead : readHead head with ⟨alias?, table, hint?⟩
    rw [hhead] at h
    split at h
    · cases h
    · next hlast =>
      obtain ⟨body, rfl⟩ := List.getLast?_eq_some_iff.1 (Classical.not_not.1 hlast)
      obtain ⟨inner, hinner, h⟩ := bind_eq_ok_iff.1 h
      obtain ⟨i, hi, h⟩ := bind_eq_ok_iff.1 h
      rw [List.dropLast_concat] at h
      -- An alias, where there is one, has to be a name.
      cases alias? with
      | none =>
        cases h
        refine ⟨body, none, table, hint?, rfl, rfl, hinner, ⟨i, hi⟩, ?_, rfl⟩
        intro _ ha
        cases ha
      | some a =>
        obtain ⟨j, hj, h⟩ := bind_eq_ok_iff.1 h
        cases h
        refine ⟨body, some a, table, hint?, rfl, rfl, hinner, ⟨i, hi⟩, ?_, rfl⟩
        intro _ ha
        cases ha
        exact ⟨j, hj⟩
  · rintro ⟨body, alias?, table, hint?, rfl, hhead, hinner, ⟨i, hi⟩, halias, hr⟩
    rw [readRelation, List.getLast?_concat, List.dropLast_concat, hhead, hr]
    simp only [hinner, hi]
    cases alias? with
    | none => rfl
    | some a =>
      obtain ⟨j, hj⟩ := halias a rfl
      simp only [hj]
      rfl

/-- An item is a column just if it has no parenthesis; otherwise it is a relation, with what stands
before its first parenthesis for its head. -/
theorem readItem_eq_ok_iff {text : List Char} {item : Item} :
    readItem text = .ok item ↔
      ('(' ∉ text ∧ item = .column text) ∨
      ∃ head tail r, text = head ++ '(' :: tail ∧ '(' ∉ head ∧
        readRelation text head tail = .ok r ∧ item = .relation r := by
  rw [readItem]
  cases hcut : Text.cut '(' text with
  | none =>
    have hopen := Text.cut_eq_none_iff.1 hcut
    constructor
    · intro h
      cases h
      exact .inl ⟨hopen, rfl⟩
    · rintro (⟨-, rfl⟩ | ⟨head, tail, r, rfl, -⟩)
      · rfl
      · simp at hopen
  | some parts =>
    obtain ⟨head, tail⟩ := parts
    simp only [map_eq_ok_iff]
    constructor
    · rintro ⟨r, hr, rfl⟩
      obtain ⟨htext, hhead⟩ := Text.cut_eq_some_iff.1 hcut
      exact .inr ⟨head, tail, r, htext, hhead, hr, rfl⟩
    · rintro (⟨hopen, -⟩ | ⟨head', tail', r, htext, hhead, hr, rfl⟩)
      · rw [Text.cut_eq_none_iff.2 hopen] at hcut
        cases hcut
      · rw [Text.cut_eq_some_iff.2 ⟨htext, hhead⟩] at hcut
        cases hcut
        exact ⟨r, hr, rfl⟩

/-- What an expression was read from, and what was read. -/
theorem parse_eq_ok_iff {expr : String} {s : Selection} :
    parse expr = .ok s ↔
      ∃ ps items, splitTopLevel expr.toList = .ok ps ∧ (itemTexts ps).mapM readItem = .ok items ∧
        s = ofItems items := by
  simp only [parse, bind_eq_ok_iff]
  constructor
  · rintro ⟨ps, hps, items, hitems, h⟩
    cases h
    exact ⟨ps, items, hps, hitems, rfl⟩
  · rintro ⟨ps, items, hps, hitems, rfl⟩
    exact ⟨ps, hps, items, hitems, rfl⟩

/-! ### Nested expressions are shorter -/

/-- A measure of requests: the lengths of their expressions, each counted with one more. -/
def weight : List Request → Nat
  | [] => 0
  | r :: rs => r.columns.length + 1 + weight rs

@[simp] theorem weight_nil : weight [] = 0 := rfl

@[simp] theorem weight_cons (r : Request) (rs : List Request) :
    weight (r :: rs) = r.columns.length + 1 + weight rs := rfl

theorem length_columns_lt_of_readRelation {item head tail : List Char} {r : Request}
    (h : readRelation item head tail = .ok r) :
    r.columns.length < (head ++ '(' :: tail).length := by
  obtain ⟨body, alias?, table, hint?, rfl, -, -, -, -, hr⟩ := readRelation_eq_ok_iff.1 h
  have htrim := Text.length_trim_le body
  rw [hr]
  simp only [String.length_ofList, orStar, List.length_append, List.length_cons, List.length_nil]
  split
  · simp only [List.length_singleton]
    omega
  · omega

theorem weight_of_mapM_readItem {texts : List (List Char)} {items : List Item}
    (h : texts.mapM readItem = .ok items) :
    weight (items.filterMap Item.request?) ≤ texts.flatten.length := by
  induction texts generalizing items with
  | nil =>
    simp only [List.mapM_nil, pure, Except.pure, Except.ok.injEq] at h
    simp [← h]
  | cons text rest ih =>
    rw [List.mapM_cons] at h
    obtain ⟨item, hitem, h⟩ := bind_eq_ok_iff.1 h
    obtain ⟨items, hrest, h⟩ := bind_eq_ok_iff.1 h
    cases h
    have ih := ih hrest
    -- A column weighs nothing, and a relation less than its text, which has parentheses too.
    obtain ⟨-, rfl⟩ | ⟨head, tail, r, htext, -, hr, rfl⟩ := readItem_eq_ok_iff.1 hitem
    · simp only [List.filterMap_cons, Item.request?, List.flatten_cons, List.length_append]
      omega
    · have hlt := length_columns_lt_of_readRelation hr
      rw [← htext] at hlt
      simp only [List.filterMap_cons, Item.request?, weight_cons, List.flatten_cons,
        List.length_append]
      omega

theorem length_flatten_itemTexts_le (ps : List (List Char)) :
    (itemTexts ps).flatten.length ≤ ps.flatten.length := by
  induction ps with
  | nil => simp [itemTexts]
  | cons p ps ih =>
    have := Text.length_trim_le p
    simp only [itemTexts, List.map_cons, List.filter_cons, List.flatten_cons,
      List.length_append] at ih ⊢
    split
    · simp only [List.flatten_cons, List.length_append]
      omega
    · omega

/-- The requests of an expression are together no heavier than it is long. -/
theorem weight_relations_le {expr : String} {s : Selection} (h : parse expr = .ok s) :
    weight s.relations ≤ expr.length := by
  obtain ⟨ps, items, hps, hitems, rfl⟩ := parse_eq_ok_iff.1 h
  have h₁ := weight_of_mapM_readItem hitems
  have h₂ := length_flatten_itemTexts_le ps
  have h₃ := length_flatten_pieces_le 0 expr.toList
  rw [(splitTopLevel_eq_ok_iff.1 hps).2] at h₁ h₂
  rw [String.length_toList] at h₃
  simp only [ofItems]
  omega

end Selection

end Graft
