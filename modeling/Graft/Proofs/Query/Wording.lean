/-
Graft/Proofs/Query/Wording.lean

Properties of texts that pass from words and names to statements.

What a query says of columns, order and rows is written with words, numbers and
names, and in no other way.  So what holds of words and of names, and passes on
to a text from the parts that it is put together from, holds of all that.  Such
a property is a `Wording`, and there is one lemma for each part of a statement
that has no question marks.  Parentheses are not among the words, as some
properties are about them.
-/
import Graft.Query

namespace Graft

/-! ### Properties of words and names -/

/-- What passes on from two texts to both in a row passes on from a list of them to all in a row,
with a text between them that has it too. -/
theorem intercalate_of_append {P : String → Prop} (hempty : P "")
    (happend : ∀ {s t : String}, P s → P t → P (s ++ t)) {α : Type} {sep : String} (hsep : P sep)
    {xs : List α} {s : α → String} (hxs : ∀ x ∈ xs, P (s x)) :
    P (sep.intercalate (xs.map s)) := by
  induction xs with
  | nil => exact hempty
  | cons x rest ih =>
    have hx := hxs x List.mem_cons_self
    have hrest := ih fun y hy => hxs y (List.mem_cons_of_mem _ hy)
    cases rest with
    | nil =>
      rw [List.map_cons, List.map_nil, String.intercalate_singleton]
      exact hx
    | cons y rest =>
      rw [List.map_cons] at hrest ⊢
      rw [List.map_cons, String.intercalate_cons_cons]
      exact happend (happend hx hsep) hrest

/-- The characters of the words, numbers and operators in a statement. -/
def isWordChar (c : Char) : Bool :=
  c.isAlphanum || [' ', ',', '.', '*', '=', '!', '<', '>'].contains c

/-- A property that words and names have, and that passes on to what is put together from them. -/
structure Wording (P : String → Prop) : Prop where
  word {s : String} (h : s.toList.all isWordChar = true) : P s
  name (i : Ident) : P i.sql
  append {s t : String} (hs : P s) (ht : P t) : P (s ++ t)

namespace Wording

variable {P : String → Prop}

/-! ### Lists and numbers -/

theorem intercalate (h : Wording P) {α : Type} {sep : String} (hsep : P sep) {xs : List α}
    {s : α → String} (hxs : ∀ x ∈ xs, P (s x)) : P (sep.intercalate (xs.map s)) :=
  intercalate_of_append (h.word rfl) h.append hsep hxs

theorem commas (h : Wording P) {α : Type} {xs : List α} {s : α → String}
    (hxs : ∀ x ∈ xs, P (s x)) : P (", ".intercalate (xs.map s)) :=
  h.intercalate (h.word rfl) hxs

theorem number (h : Wording P) (n : Nat) : P (toString n) := by
  refine h.word (List.all_eq_true.2 fun c hc => ?_)
  have hdigit : c.isDigit = true := by
    rw [show toString n = n.repr from rfl, Nat.toList_repr] at hc
    exact Nat.isDigit_of_mem_toDigits (by decide) (by decide) hc
  rw [isWordChar, Char.isAlphanum, hdigit, Bool.or_true, Bool.true_or]

/-- What may stand at the end of a statement or not. -/
theorem optional (h : Wording P) {α : Type} {s : α → String} (hs : ∀ a, P (s a))
    (a? : Option α) : P ((a?.map s).getD "") := by
  cases a? with
  | none => exact h.word rfl
  | some a => exact hs a

/-! ### Parts of statements -/

theorem column (h : Wording P) (c : Column) : P c.sql := by
  cases c with
  | star => exact h.word rfl
  | named source => exact h.name source
  | renamed source name => exact h.append (h.append (h.name source) (h.word rfl)) (h.name name)

theorem columns (h : Wording P) (columns : List Column) : P (Column.listSql columns) :=
  h.commas fun c _ => h.column c

theorem operator (h : Wording P) (op : Operator) : P op.sql := by
  cases op <;> exact h.word rfl

theorem window (h : Wording P) (w : Window) : P w.sql := by
  have hlimit : P " LIMIT " := h.word rfl
  have hoffset : P " OFFSET " := h.word rfl
  rw [Window.sql]
  refine h.append (h.append hlimit (h.number _)) ?_
  split
  · exact h.append hoffset (h.number _)
  · exact h.word rfl

theorem order (h : Wording P) (terms : List (Ident × Direction)) : P (Query.orderSql terms) := by
  have horder : P " ORDER BY " := h.word rfl
  rw [Query.orderSql]
  split
  · exact h.word rfl
  · refine h.append horder (h.commas fun term _ => ?_)
    have hdirection : P term.2.sql := by
      cases term.2 <;> exact h.word rfl
    exact h.append (h.append (h.name term.1) (h.word rfl)) hdirection

theorem returning (h : Wording P) (columns : List Column) : P (Query.returningSql columns) :=
  h.append (h.word rfl) (h.columns columns)

/-- The treatment of conflicts has one pair of parentheses. -/
theorem conflict (h : Wording P) (hopen : P " ON CONFLICT (") (hclose : P ") ") (c : Conflict) :
    P c.sql := by
  have hset : P "DO UPDATE SET " := h.word rfl
  have hexcluded : P " = excluded." := h.word rfl
  have hsql : c.sql = " ON CONFLICT (" ++ ", ".intercalate (c.target.map Ident.sql) ++ ") " ++
      (if c.updates.isEmpty then "DO NOTHING"
      else "DO UPDATE SET " ++ ", ".intercalate (c.updates.map excludedSql)) := rfl
  rw [hsql]
  refine h.append (h.append (h.append hopen (h.commas fun i _ => h.name i)) hclose) ?_
  split
  · exact h.word rfl
  · refine h.append hset (h.commas fun i _ => ?_)
    exact h.append (h.append (h.name i) hexcluded) (h.name i)

end Wording

end Graft
