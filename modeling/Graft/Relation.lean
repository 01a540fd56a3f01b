/-
Graft/Relation.lean

Relations: how the rows of one table reach the rows of another.

A foreign key stands either in the owner's rows, which then belong to one
related row each, or in the related rows, of which an owner row then has many.
`Relations` registers the relations of ordered pairs of tables.  Registering a
pair again replaces what was there; a foreign key registers both directions.
-/
import Graft.Error

namespace Graft

/-- On which side of a relation the foreign key is. -/
inductive RelationKind where
  /-- The owner's row holds the key of one related row. -/
  | belongsTo
  /-- The related rows hold the key of the owner's row. -/
  | hasMany
  deriving DecidableEq

/-- How an owner table reaches a related table. -/
structure Relation where
  foreignKey : String
  kind : RelationKind
  deriving DecidableEq

/-- The columns of a relation, seen from its two sides. -/
structure Link where
  /-- The column of the owner's rows that holds the key. -/
  ownerColumn : String
  /-- The column of the related rows that it is matched with. -/
  relatedColumn : String
  kind : RelationKind
  deriving DecidableEq

/-- The columns of a relation where every table has the given primary key. -/
def Relation.link (r : Relation) (primaryKey : String) : Link :=
  match r.kind with
  | .belongsTo => ⟨r.foreignKey, primaryKey, .belongsTo⟩
  | .hasMany => ⟨primaryKey, r.foreignKey, .hasMany⟩

/-! ### The register -/

/-- The registered relations, of each pair of owner and related table at most one. -/
structure Relations where
  entries : List ((String × String) × Relation) := []

namespace Relations

/-- The relation registered for an owner and a related table. -/
def get? (rs : Relations) (owner related : String) : Option Relation :=
  rs.entries.lookup (owner, related)

/-- The register with the relation of one pair set. -/
def insert (rs : Relations) (owner related : String) (r : Relation) : Relations where
  entries := ((owner, related), r) :: rs.entries.filter (·.1 != (owner, related))

/-- `owner.foreignKey` holds the primary key of `related`. -/
def belongsTo (rs : Relations) (owner related foreignKey : String) : Relations :=
  rs.insert owner related ⟨foreignKey, .belongsTo⟩

/-- `related.foreignKey` holds the primary key of `owner`. -/
def hasMany (rs : Relations) (owner related foreignKey : String) : Relations :=
  rs.insert owner related ⟨foreignKey, .hasMany⟩

/-- `child.foreignKey` holds the primary key of `parent`: both directions. -/
def foreignKey (rs : Relations) (child foreignKey parent : String) : Relations :=
  (rs.belongsTo child parent foreignKey).hasMany parent child foreignKey

/-- The number of registered pairs. -/
def size (rs : Relations) : Nat :=
  rs.entries.length

/-- Whether no pair is registered. -/
def isEmpty (rs : Relations) : Bool :=
  rs.entries.isEmpty

theorem get?_insert (rs : Relations) (owner related o r : String) (rel : Relation) :
    (rs.insert owner related rel).get? o r =
      if (o, r) = (owner, related) then some rel else rs.get? o r := by
  unfold get? insert
  by_cases h : (o, r) = (owner, related)
  · simp [h]
  · have hb : ((o, r) == (owner, related)) = false := by simpa using h
    simp only [List.lookup_cons, hb, if_neg h]
    induction rs.entries with
    | nil => rfl
    | cons e es ih =>
      obtain ⟨k, v⟩ := e
      by_cases hk : k = (owner, related)
      · simp only [hk, bne_self_eq_false, Bool.false_eq_true, not_false_eq_true,
          List.filter_cons_of_neg, List.lookup_cons, hb, ih]
      · rw [List.filter_cons_of_pos (by simpa using hk), List.lookup_cons, List.lookup_cons, ih]

end Relations

end Graft
