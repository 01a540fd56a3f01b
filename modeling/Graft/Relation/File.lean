/-
Graft/Relation/File.lean

Registering relations from a configuration file.

The file has one table for each relation, under the name `relation`:

    [[relation]]
    table = "invoices"
    related = "customers"
    foreign_key = "customer_id"
    kind = "belongs_to"
-/
import Graft.Relation
import Graft.Toml.Decode
import Graft.Toml.Reader

namespace Graft

/-- The kind of a relation by its name in a file. -/
def RelationKind.ofName? : String → Option RelationKind
  | "belongs_to" => some .belongsTo
  | "has_many" => some .hasMany
  | _ => none

namespace Relations

/-- The register with the relation of one table of a file. -/
def addEntry? (rs : Relations) (entry : Toml) : Option Relations := do
  let fields ← entry.asRecord? ["table", "related", "foreign_key", "kind"]
  let table ← Toml.require? fields "table" Toml.asString?
  let related ← Toml.require? fields "related" Toml.asString?
  let foreignKey ← Toml.require? fields "foreign_key" Toml.asString?
  let kind ← Toml.require? fields "kind" fun v => v.asAlternative?.bind RelationKind.ofName?
  return rs.insert table related ⟨foreignKey, kind⟩

/-- The relations of a file. -/
def ofFields? (fields : List (String × Toml)) : Option Relations := do
  let fields ← Toml.recordFields? ["relation"] fields
  let entries ← Toml.optional? fields "relation" [] Toml.asArray?
  entries.foldlM addEntry? {}

/-- The relations that the text of a file registers. -/
def ofToml (text : String) : Except Error Relations :=
  match (Toml.read? text).bind ofFields? with
  | some rs => .ok rs
  | none => .error (.config "the text does not register relations")

/-- The relations of a file at a path, of which the contents or the reason why they could not be
read are known. -/
def load (path : String) (contents : Except String String) : Except Error Relations :=
  match contents with
  | .ok text => ofToml text
  | .error reason => .error (.config s!"failed to read relation config {path}: {reason}")

end Relations

end Graft
