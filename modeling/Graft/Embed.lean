/-
Graft/Embed.lean

Embedding: giving rows the related rows that a select expression asks for.

Each relation costs one lookup, however many rows there are: the keys of all
owner rows, each once, go into one membership test, and the rows that come back
are handed out by their keys.  A relation nested in another is embedded in the
rows that were looked up, before these are handed out.

The columns that rows are matched by are added to a lookup's column list where
they are missing, and taken out of the rows again once these are matched.  A
null key matches nothing.  Owner rows keep their order; only an inner join drops
some.
-/
import Graft.KeyIndex
import Graft.Query.Sending
import Graft.Relation.Inference
import Graft.Selection.Nesting
import Graft.Value.Text

namespace Graft

/-- The columns that rows of a table need for the given requests to be embedded in them: the
primary key, and the foreign keys registered in that table. -/
def Client.keyColumns (client : Client) (table : String) (requests : List Request) : List String :=
  if requests.isEmpty then []
  else
    client.settings.primaryKey :: requests.filterMap fun r =>
      match client.relations.get? table r.table with
      | some ⟨foreignKey, .belongsTo⟩ => some foreignKey
      | _ => none

namespace Embed

/-! ### Keys -/

/-- The values that are not null, each once, in the order of their first occurrence; those whose
texts were seen before are left out. -/
def distinctKeys (seen : List String) : List Value → List Value
  | [] => []
  | v :: rest =>
    match v.key? with
    | none => distinctKeys seen rest
    | some k => if k ∈ seen then distinctKeys seen rest else v :: distinctKeys (k :: seen) rest

/-- The key that a row has in a column. -/
def rowKey? (column : String) (row : Row) : Option String :=
  (row.get? column).bind Value.key?

/-! ### Looking up related rows -/

/-- What is asked of the engine to embed one relation. -/
structure Lookup where
  query : Query
  /-- The columns that were not asked for and have to go again. -/
  helpers : List String

/-- The lookup of the rows with certain keys in a column. -/
def Lookup.compile (client : Client) (request : Request)
    (selection : Except Violation Selection) (column : String) (keys : List Value) :
    Except Error Lookup := do
  let selection ← selection
  let (selection, keyHelper) := selection.ensure [column]
  let (selection, moreHelpers) :=
    selection.ensure (client.keyColumns request.table selection.relations)
  let clause ← Clause.compile [{ column, operator := .oneOf, value := .arr keys }]
  let columns ← selection.columns
  let table ← Ident.parse request.table
  return ⟨.select columns table clause [] none, keyHelper ++ moreHelpers⟩

/-- The related rows by their keys, without the helper columns. -/
def indexRows (column : String) (helpers : List String) (rows : List Row) : KeyIndex Row :=
  .ofList (rows.filterMap fun r => (rowKey? column r).map (·, r.eraseAll helpers))

/-- Looks up related rows and embeds what is nested in the request. -/
def fetch (client : Client) (request : Request) (selection : Except Violation Selection)
    (inside : List Row → Action (List Row)) (column : String) (keys : List Value) :
    Action (KeyIndex Row) := do
  let lookup ← Lookup.compile client request selection column keys
  let replied ← lookup.query.send ("embed " ++ request.table)
  let rows ← inside replied
  return indexRows column lookup.helpers rows

/-! ### Handing out related rows -/

/-- What a row gets: one related row or null, or the list of its related rows. -/
def related (link : Link) (index : KeyIndex Row) (row : Row) : Value :=
  match link.kind, rowKey? link.ownerColumn row with
  | .belongsTo, some k => ((index.first? k).map Row.toValue).getD .null
  | .belongsTo, none => .null
  | .hasMany, some k => .arr ((index.all k).map Row.toValue)
  | .hasMany, none => .arr []

/-- Whether a row got anything. -/
def hasRelated (field : String) (row : Row) : Bool :=
  match row.get? field with
  | none | some .null | some (.arr []) => false
  | _ => true

/-! ### Embedding -/

/-- A rejected lookup is laid on the guess that it was made from.  Only the guess that related
rows hold the key is one that the engine can reject. -/
def blameGuess (owner : String) (request : Request) (found : FoundRelation) : Error → Error
  | .backend message =>
    if found.isGuessed ∧ found.relation.kind = .hasMany then
      .relation (.guessRejected owner request.table found.relation.foreignKey message
        (keyNamed (singularize request.table)))
    else .backend message
  | e => e

/-- Embeds one relation in the rows of an owner. -/
def embedOne (client : Client) (owner : String) (request : Request)
    (selection : Except Violation Selection) (inside : List Row → Action (List Row))
    (rows : List Row) : Action (List Row) := do
  if rows.isEmpty then
    return rows
  let found ← client.findRelation owner request.table rows
  if found.origin = .guessed true then
    Action.tell (.doubtfulGuess owner request.table found.relation.foreignKey)
  let link := found.relation.link client.settings.primaryKey
  let keys := distinctKeys [] (rows.filterMap (·.get? link.ownerColumn))
  let index ←
    if keys.isEmpty then pure .empty
    else
      (fetch client request selection inside link.relatedColumn keys).mapError
        (blameGuess owner request found)
  let rows := rows.map fun row => row.insert request.field (related link index row)
  if request.inner then
    let kept := rows.filter (hasRelated request.field)
    Action.tell (.innerFiltered owner request.table (rows.length - kept.length))
    return kept
  return rows

/-- Embeds all relations of a level, one after the other. -/
def embedAll (client : Client) : Nesting → String → List Row → Action (List Row)
  | .nil, _, rows => pure rows
  | .cons request selection inside rest, owner, rows => do
    let rows ← embedOne client owner request selection
      (embedAll client inside request.table) rows
    embedAll client rest owner rows

/-- Embeds some requests in the rows of an owner. -/
def resolve (client : Client) (owner : String) (requests : List Request) (rows : List Row) :
    Action (List Row) :=
  embedAll client (.ofRequests requests) owner rows

end Embed

end Graft
