/-
Graft/Relation/Inference.lean

Finding the relation between two tables.

A registered relation is always taken.  Otherwise, where the policy allows it,
the relation is guessed from names: if the owner's rows have a column named
after the related table, they belong to it; if not, they have many of it, by a
column named after the owner.  Rows with two different columns named after the
related table leave no guess.
-/
import Graft.Relation.Singular
import Graft.Row
import Graft.Settings

namespace Graft

/-- Where a relation comes from. -/
inductive Origin where
  | registered
  /-- Guessed from names; `doubtful` if the owner's name does not look like a plural, from which a
  singular could have been made. -/
  | guessed (doubtful : Bool)
  deriving DecidableEq

/-- A relation and where it comes from. -/
structure FoundRelation where
  relation : Relation
  origin : Origin
  deriving DecidableEq

/-- Whether the relation was guessed. -/
def FoundRelation.isGuessed (f : FoundRelation) : Bool :=
  f.origin != .registered

/-- The column for the keys of a table that goes by a name. -/
def keyNamed (table : String) : String :=
  table ++ "_id"

/-- The columns by which rows may belong to a related table, the likelier first. -/
def foreignKeyCandidates (related : String) : List String :=
  if keyNamed (singularize related) = keyNamed related then [keyNamed related]
  else [keyNamed (singularize related), keyNamed related]

/-- Whether the guessed foreign key of an owner is its whole name, though that is no plural. -/
def isDoubtful (owner : String) : Bool :=
  keyNamed (singularize owner) == keyNamed owner && owner.toList.getLast? != some 's'

/-- The relation that the names suggest. -/
def inferRelation (owner related : String) (rows : List Row) : Except Error FoundRelation :=
  match (foreignKeyCandidates related).filter fun c => rows.any (·.contains c) with
  | [] => .ok ⟨⟨keyNamed (singularize owner), .hasMany⟩, .guessed (isDoubtful owner)⟩
  | [foreignKey] => .ok ⟨⟨foreignKey, .belongsTo⟩, .guessed false⟩
  | present => .error (.relation (.ambiguous owner related present))

/-- The relation between an owner, of which some rows are known, and a related table. -/
def Client.findRelation (client : Client) (owner related : String) (rows : List Row) :
    Except Error FoundRelation :=
  match client.relations.get? owner related, client.settings.inference with
  | some relation, _ => .ok ⟨relation, .registered⟩
  | none, .namingConvention => inferRelation owner related rows
  | none, .disabled => .error (.relation (.unregistered owner related))

end Graft
