/-
Graft/Settings/File.lean

Settings from a configuration file.

Every setting may be left out and then has its default.
-/
import Graft.Settings
import Graft.Toml.Decode
import Graft.Toml.Reader

namespace Graft

/-- The policy by its name in a file. -/
def InferencePolicy.ofName? : String → Option InferencePolicy
  | "disabled" => some .disabled
  | "naming_convention" => some .namingConvention
  | _ => none

namespace Settings

/-- The settings of a file. -/
def ofFields? (fields : List (String × Toml)) : Option Settings := do
  let default : Settings := {}
  let fields ← Toml.recordFields? ["primary_key", "generate_ids", "relation_inference"] fields
  let primaryKey ← Toml.optional? fields "primary_key" default.primaryKey Toml.asString?
  let generateIds ← Toml.optional? fields "generate_ids" default.generateIds Toml.asBool?
  let inference ← Toml.optional? fields "relation_inference" default.inference fun v =>
    v.asAlternative?.bind InferencePolicy.ofName?
  return { primaryKey, generateIds, inference }

/-- The settings that the text of a file makes. -/
def ofToml (text : String) : Except Error Settings :=
  match (Toml.read? text).bind ofFields? with
  | some s => .ok s
  | none => .error (.config "the text does not make settings")

end Settings

end Graft
