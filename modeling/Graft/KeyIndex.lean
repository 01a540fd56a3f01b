/-
Graft/KeyIndex.lean

An index of rows by a key.

It is built in one pass and answers for each key with everything that was
filed under it, in order (`all_ofList`).
-/
import Std.Data.HashMap

namespace Graft

/-- Things filed under keys, several under one key if need be. -/
structure KeyIndex (α : Type) where
  groups : Std.HashMap String (List α)

namespace KeyIndex

variable {α : Type}

/-- An index with nothing in it. -/
def empty : KeyIndex α := ⟨∅⟩

/-- Everything under a key, in the order of filing. -/
def all (i : KeyIndex α) (k : String) : List α :=
  i.groups.getD k []

/-- What was filed first under a key. -/
def first? (i : KeyIndex α) (k : String) : Option α :=
  (i.all k).head?

/-- The index with one thing filed before all others under its key. -/
def fileFirst (i : KeyIndex α) (k : String) (a : α) : KeyIndex α :=
  ⟨i.groups.insert k (a :: i.all k)⟩

/-- The index of some things with their keys. -/
def ofList (xs : List (String × α)) : KeyIndex α :=
  xs.foldr (fun (k, a) i => i.fileFirst k a) empty

@[simp] theorem all_empty (k : String) : (empty : KeyIndex α).all k = [] := by
  simp [all, empty]

theorem all_fileFirst (i : KeyIndex α) (k j : String) (a : α) :
    (i.fileFirst k a).all j = if k = j then a :: i.all j else i.all j := by
  simp only [all, fileFirst, Std.HashMap.getD_insert, beq_iff_eq]
  split
  · next h => rw [h]
  · rfl

/-- An index holds under a key what was listed with it. -/
theorem all_ofList (xs : List (String × α)) (k : String) :
    (ofList xs).all k = (xs.filter (·.1 == k)).map (·.2) := by
  induction xs with
  | nil => simp [ofList]
  | cons x rest ih =>
    obtain ⟨k', a⟩ := x
    have h : ofList ((k', a) :: rest) = (ofList rest).fileFirst k' a := rfl
    rw [h, all_fileFirst, ih]
    by_cases hk : k' = k <;> simp [hk]

end KeyIndex

end Graft
