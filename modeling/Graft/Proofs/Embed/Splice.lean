/-
Graft/Proofs/Embed/Splice.lean

The courses of embedding one relation.

Embedding has one step, `embedOne`: find the relation, gather the related rows,
hand them out.  `Gathers` lists the ways in which gathering may go, and
`course_embedOne_iff` says that the step does nothing else: what it ends in is
`splice` of the rows that were gathered, or the error that gathering ended in.

A lookup has parts that do not depend on the keys it asks for
(`Lookup.parts`); two lookups by the same column differ in their keys only
(`Lookup.compile_cons`).
-/
import Graft.Proofs.Dialogue.Course
import Graft.Proofs.Embed.Matching

namespace Graft

/-! ### Appending columns -/

namespace Selection

@[simp] theorem ensureOne_relations (s : Selection) (column : String) :
    (s.ensureOne column).relations = s.relations := by
  rw [ensureOne]
  split <;> rfl

theorem ensure_relations (s : Selection) (columns : List String) :
    (s.ensure columns).1.relations = s.relations := by
  induction columns generalizing s with
  | nil => rfl
  | cons column rest ih =>
    rw [ensure]
    exact (ih _).trans (ensureOne_relations s column)

/-- Columns appended in two goes are appended in one. -/
theorem ensure_append (s : Selection) (as bs : List String) :
    s.ensure (as ++ bs) =
      (((s.ensure as).1.ensure bs).1, (s.ensure as).2 ++ ((s.ensure as).1.ensure bs).2) := by
  induction as generalizing s with
  | nil => rfl
  | cons a as ih =>
    simp only [List.cons_append, ensure, ih]
    split <;> rfl

end Selection

/-- The link through which a relation that was found is embedded. -/
def FoundRelation.link (found : FoundRelation) (client : Client) : Link :=
  found.relation.link client.settings.primaryKey

namespace Embed

/-! ### Lookups -/

/-- What a lookup is made of, whatever keys it asks for. -/
structure Lookup.Parts where
  columns : List Column
  table : Ident
  key : Ident
  helpers : List String

/-- The parts of a lookup by a column.  That column and the ones that nested relations need are
appended where the request does not select them, and these are the helper columns. -/
def Lookup.parts (client : Client) (request : Request) (selection : Except Violation Selection)
    (column : String) : Except Violation Lookup.Parts := do
  let selection ← selection
  let (full, helpers) :=
    selection.ensure (column :: client.keyColumns request.table selection.relations)
  let key ← Ident.parse column
  let columns ← full.columns
  let table ← Ident.parse request.table
  return { columns, table, key, helpers }

/-- The query of a lookup for some keys. -/
def Lookup.Parts.query (p : Lookup.Parts) (first : Value) (rest : List Value) : Query :=
  .select p.columns p.table [.member p.key false first rest] [] none

/-- The clause of a lookup: membership in the list of its keys. -/
theorem compile_member (column : String) (first : Value) (rest : List Value) :
    Clause.compile [{ column, operator := .oneOf, value := .arr (first :: rest) }] =
      ((Ident.parse column).map fun key => [.member key false first rest]).mapError .validation := by
  cases h : Ident.parse column with
  | error v =>
    simp [Clause.compile, Condition.conjunct, h]
    rfl
  | ok key =>
    simp [Clause.compile, Condition.conjunct, h]
    rfl

theorem mapError_ok {ε ε' α : Type} (f : ε → ε') (a : α) :
    (Except.ok a : Except ε α).mapError f = .ok a := rfl

/-- A lookup is its parts with the keys put in. -/
theorem Lookup.compile_cons (client : Client) (request : Request)
    (selection : Except Violation Selection) (column : String) (first : Value)
    (rest : List Value) :
    Lookup.compile client request selection column (first :: rest) =
      ((Lookup.parts client request selection column).map fun p =>
        (⟨p.query first rest, p.helpers⟩ : Lookup)).mapError .validation := by
  cases selection with
  | error v => rfl
  | ok s =>
    have hfull := s.ensure_append [column] (client.keyColumns request.table s.relations)
    rw [List.singleton_append] at hfull
    have hrelations := s.ensure_relations [column]
    unfold Lookup.compile Lookup.parts
    simp only [liftM, monadLift, MonadLift.monadLift, mapError_ok, bind, Except.bind, hfull,
      hrelations, compile_member]
    -- key, columns and table are read in the same order on both sides
    cases Ident.parse column with
    | error v => rfl
    | ok key =>
      cases ((s.ensure [column]).1.ensure
        (client.keyColumns request.table s.relations)).1.columns with
      | error v => rfl
      | ok columns => cases Ident.parse request.table <;> rfl

theorem clauseSql_member (key : Ident) (first : Value) (rest : List Value) :
    Query.clauseSql [.member key false first rest] =
      " WHERE " ++ key.sql ++ " IN (" ++
        ", ".intercalate ((first :: rest).map fun _ => "?") ++ ")" := by
  have hbody : Clause.body [.member key false first rest] =
      key.sql ++ " IN (" ++ ", ".intercalate ((first :: rest).map fun _ => "?") ++ ")" := rfl
  have hspace : " WHERE " = " " ++ "WHERE " := rfl
  simp only [Query.clauseSql, Clause.sql, List.isEmpty_cons, Bool.false_eq_true, if_false, hbody,
    hspace, String.append_assoc]

/-- The statement of a lookup for some keys: its text has a question mark for each of them. -/
def Lookup.Parts.statement (p : Lookup.Parts) (table : String) (keys : List Value) : Statement where
  tag? := some ("embed " ++ table)
  sql := "SELECT " ++ Column.listSql p.columns ++ " FROM " ++ p.table.sql ++ " WHERE " ++
    p.key.sql ++ " IN (" ++ ", ".intercalate (keys.map fun _ => "?") ++ ")"
  params := keys

theorem Lookup.Parts.statement_query (p : Lookup.Parts) (table : String) (first : Value)
    (rest : List Value) :
    (p.query first rest).statement ("embed " ++ table) = p.statement table (first :: rest) := by
  have hsql : (p.query first rest).sql =
      "SELECT " ++ Column.listSql p.columns ++ " FROM " ++ p.table.sql ++
        Query.clauseSql [.member p.key false first rest] ++ "" ++ "" := rfl
  have hparams : (p.query first rest).params = first :: rest := by
    simp [query, Query.params, Clause.params, Conjunct.params]
  rw [Query.statement, hparams, hsql, clauseSql_member, statement]
  simp only [String.append_assoc, String.append_empty]

/-- What a lookup is made of: the columns that its request has in the end, the column that rows are
matched by, and the table, each of which has to be readable. -/
theorem Lookup.parts_eq_ok_iff {client : Client} {request : Request}
    {selection : Except Violation Selection} {column : String} {p : Lookup.Parts} :
    Lookup.parts client request selection column = .ok p ↔
      ∃ s, selection = .ok s ∧ Ident.parse column = .ok p.key ∧
        (s.ensure (column :: client.keyColumns request.table s.relations)).1.columns =
          .ok p.columns ∧
        Ident.parse request.table = .ok p.table ∧
        p.helpers = (s.ensure (column :: client.keyColumns request.table s.relations)).2 := by
  simp only [parts, bind_eq_ok_iff]
  constructor
  · rintro ⟨s, hs, key, hkey, columns, hcolumns, table, htable, h⟩
    cases h
    exact ⟨s, hs, hkey, hcolumns, htable, rfl⟩
  · rintro ⟨s, hs, hkey, hcolumns, htable, hhelpers⟩
    refine ⟨s, hs, p.key, hkey, p.columns, hcolumns, p.table, htable, ?_⟩
    rw [← hhelpers]
    rfl

/-- The helper columns of a lookup are those that had to be appended. -/
theorem Lookup.helpers_of_parts {client : Client} {request : Request} {selection : Selection}
    {column : String} {p : Lookup.Parts}
    (h : Lookup.parts client request (.ok selection) column = .ok p) :
    p.helpers =
      (selection.ensure (column :: client.keyColumns request.table selection.relations)).2 := by
  obtain ⟨s, hs, -, -, -, hhelpers⟩ := parts_eq_ok_iff.1 h
  cases hs
  exact hhelpers

theorem Lookup.key_of_parts {client : Client} {request : Request}
    {selection : Except Violation Selection} {column : String} {p : Lookup.Parts}
    (h : Lookup.parts client request selection column = .ok p) :
    Ident.parse column = .ok p.key := by
  obtain ⟨-, -, hkey, -⟩ := parts_eq_ok_iff.1 h
  exact hkey

/-! ### Gathering -/

/-- The related rows that were gathered, with the columns that have to go again. -/
structure Gathered where
  helpers : List String := []
  rows : List Row := []

/-- `Gathers client request selection inside column keys es r`: looking up the rows with one of
`keys` in a column, and embedding in them what is nested, may have the exchanges `es` and end
in `r`. -/
inductive Gathers (client : Client) (request : Request) (selection : Except Violation Selection)
    (inside : List Row → Action (List Row)) (column : String) :
    List Value → List Exchange → Except Error Gathered → Prop
  /-- Without keys, nothing is looked up. -/
  | nothing : Gathers client request selection inside column [] [] (.ok {})
  /-- The lookup is refused before it is sent. -/
  | refused {first : Value} {rest : List Value} {v : Violation}
      (hparts : Lookup.parts client request selection column = .error v) :
      Gathers client request selection inside column (first :: rest) [] (.error (.validation v))
  /-- The engine answers with an error. -/
  | failed {first : Value} {rest : List Value} {p : Lookup.Parts} (e : Error)
      (hparts : Lookup.parts client request selection column = .ok p) :
      Gathers client request selection inside column (first :: rest)
        [⟨p.statement request.table (first :: rest), .error e⟩] (.error e)
  /-- The engine answers with rows, and what is nested is embedded in them or fails. -/
  | answered {first : Value} {rest : List Value} {p : Lookup.Parts} {replied : List Row}
      {later : List Exchange} {r : Except Error (List Row)}
      (hparts : Lookup.parts client request selection column = .ok p)
      (hinside : (inside replied).Course later r) :
      Gathers client request selection inside column (first :: rest)
        (⟨p.statement request.table (first :: rest), .ok replied⟩ :: later)
        (r.map fun rows => { helpers := p.helpers, rows })

variable {client : Client} {request : Request} {selection : Except Violation Selection}
variable {inside : List Row → Action (List Row)}

theorem gathers_nil_iff {column : String} {es : List Exchange} {g : Except Error Gathered} :
    Gathers client request selection inside column [] es g ↔ es = [] ∧ g = .ok {} := by
  constructor
  · intro h
    cases h
    exact ⟨rfl, rfl⟩
  · rintro ⟨rfl, rfl⟩
    exact .nothing

/-- Gathering for some keys, where the lookup is refused. -/
theorem gathers_refused_iff {column : String} {keys : List Value} {v : Violation}
    (hkeys : keys ≠ []) (hparts : Lookup.parts client request selection column = .error v)
    {es : List Exchange} {g : Except Error Gathered} :
    Gathers client request selection inside column keys es g ↔
      es = [] ∧ g = .error (.validation v) := by
  obtain ⟨first, rest, rfl⟩ := List.exists_cons_of_ne_nil hkeys
  constructor
  · intro h
    cases h with
    | refused hv =>
      rw [hparts] at hv
      cases hv
      exact ⟨rfl, rfl⟩
    | failed _ hp => rw [hparts] at hp; cases hp
    | answered hp _ => rw [hparts] at hp; cases hp
  · rintro ⟨rfl, rfl⟩
    exact .refused hparts

/-- Gathering for some keys, where the lookup is not refused. -/
theorem gathers_iff_of_parts {column : String} {keys : List Value} {p : Lookup.Parts}
    (hkeys : keys ≠ []) (hparts : Lookup.parts client request selection column = .ok p)
    {es : List Exchange} {g : Except Error Gathered} :
    Gathers client request selection inside column keys es g ↔
      ∃ reply later, es = ⟨p.statement request.table keys, reply⟩ :: later ∧
        match reply with
        | .error e => later = [] ∧ g = .error e
        | .ok replied => ∃ nested, (inside replied).Course later nested ∧
            g = nested.map fun rows => { helpers := p.helpers, rows } := by
  obtain ⟨first, rest, rfl⟩ := List.exists_cons_of_ne_nil hkeys
  constructor
  · intro h
    cases h with
    | refused hv => rw [hparts] at hv; cases hv
    | failed e hp =>
      rw [hparts] at hp
      cases hp
      exact ⟨.error e, [], rfl, rfl, rfl⟩
    | @answered _ _ _ replied later nested hp hinside =>
      rw [hparts] at hp
      cases hp
      exact ⟨.ok replied, later, rfl, nested, hinside, rfl⟩
  · rintro ⟨e | replied, later, rfl, h⟩
    · obtain ⟨rfl, rfl⟩ := h
      exact .failed e hparts
    · obtain ⟨nested, hinside, rfl⟩ := h
      exact .answered hparts hinside

/-- Fetching files the rows that are gathered. -/
theorem course_fetch_iff {column : String} {first : Value} {rest : List Value}
    {es : List Exchange} {r : Except Error (KeyIndex Row)} :
    (fetch client request selection inside column (first :: rest)).Course es r ↔
      ∃ g, Gathers client request selection inside column (first :: rest) es g ∧
        r = g.map fun g => indexRows column g.helpers g.rows := by
  have hkeys : first :: rest ≠ [] := List.cons_ne_nil first rest
  rw [fetch, Action.course_except_bind_iff, Lookup.compile_cons]
  simp only [Action.course_query_bind_iff, Action.course_bind_pure_iff]
  -- If a part does not compile, the fetch ends before it sends.
  cases hparts : Lookup.parts client request selection column with
  | error v =>
    simp only [gathers_refused_iff hkeys hparts]
    constructor
    · rintro (⟨e, he, rfl, rfl⟩ | ⟨lookup, hlookup, -⟩)
      · cases he
        exact ⟨_, ⟨rfl, rfl⟩, rfl⟩
      · cases hlookup
    · rintro ⟨g, ⟨rfl, rfl⟩, rfl⟩
      exact .inl ⟨_, rfl, rfl, rfl⟩
  | ok p =>
    have hstatement := p.statement_query request.table first rest
    simp only [gathers_iff_of_parts hkeys hparts]
    constructor
    · rintro (⟨e, he, -⟩ | ⟨lookup, hlookup, h⟩)
      · cases he
      · obtain rfl := Except.ok.inj hlookup
        rw [hstatement] at h
        obtain ⟨e, rfl, rfl⟩ | ⟨replied, later, rfl, nested, hinside, rfl⟩ := h
        · exact ⟨.error e, ⟨.error e, [], rfl, rfl, rfl⟩, rfl⟩
        · refine ⟨_, ⟨.ok replied, later, rfl, nested, hinside, rfl⟩, ?_⟩
          cases nested <;> rfl
    · rintro ⟨g, ⟨reply, later, rfl, hreply⟩, rfl⟩
      refine .inr ⟨_, rfl, ?_⟩
      rw [hstatement]
      cases reply with
      | error e =>
        obtain ⟨rfl, rfl⟩ := hreply
        exact .inl ⟨e, rfl, rfl⟩
      | ok replied =>
        obtain ⟨nested, hinside, rfl⟩ := hreply
        refine .inr ⟨replied, later, rfl, nested, hinside, ?_⟩
        cases nested <;> rfl

/-! ### One relation -/

/-- Handing out the rows that an index holds sends nothing. -/
theorem course_handOut_iff {owner : String} {link : Link} {index : KeyIndex Row}
    {helpers : List String} {related rows : List Row} {es : List Exchange}
    {r : Except Error (List Row)}
    (h : ∀ row, Embed.related link index row = portion link helpers related row) :
    (do
      let rows := rows.map fun row => row.insert request.field (Embed.related link index row)
      if request.inner then
        let kept := rows.filter (hasRelated request.field)
        Action.tell (.innerFiltered owner request.table (rows.length - kept.length))
        return kept
      return rows : Action (List Row)).Course es r ↔
        es = [] ∧ r = .ok (splice link request helpers related rows) := by
  rw [← map_related_eq_splice h]
  split
  · rw [Action.course_tell_bind_iff, Action.course_pure_iff]
  · rw [Action.course_pure_iff]

/-- The step of embedding: nothing happens to no rows, a relation that is not found ends the step,
and the rows that are gathered for one that is found are spliced in. -/
theorem course_embedOne_iff {owner : String} {rows : List Row} {es : List Exchange}
    {r : Except Error (List Row)} :
    (embedOne client owner request selection inside rows).Course es r ↔
      (rows = [] ∧ es = [] ∧ r = .ok []) ∨
      (rows ≠ [] ∧ ∃ e, client.findRelation owner request.table rows = .error e ∧
        es = [] ∧ r = .error e) ∨
      (rows ≠ [] ∧ ∃ found g, client.findRelation owner request.table rows = .ok found ∧
        Gathers client request selection inside (found.link client).relatedColumn
          (wantedKeys (found.link client).ownerColumn rows) es g ∧
        r = (g.mapError (blameGuess owner request found)).map fun g =>
          splice (found.link client) request g.helpers g.rows rows) := by
  rw [embedOne]
  -- Three ways out before a lookup: no rows, no relation, and no keys.
  split
  · next hempty =>
    obtain rfl := List.isEmpty_iff.1 hempty
    simp [Action.course_pure_iff]
  · next hempty =>
    have hrows : rows ≠ [] := fun h => hempty (List.isEmpty_iff.2 h)
    simp only [Action.course_except_bind_iff, Action.course_ite_tell_bind_iff,
      distinctKeys_eq_wantedKeys, FoundRelation.link, hrows, false_and, false_or, ne_eq,
      not_false_eq_true, true_and]
    refine or_congr Iff.rfl (exists_congr fun found => ?_)
    simp only [exists_and_left]
    refine and_congr_right fun hfound => ?_
    split
    · next hkeys =>
      rw [List.isEmpty_iff.1 hkeys, pure_bind, course_handOut_iff (related_empty _)]
      constructor
      · rintro ⟨rfl, rfl⟩
        exact ⟨_, .nothing, rfl⟩
      · rintro ⟨g, hg, rfl⟩
        cases hg
        exact ⟨rfl, rfl⟩
    · next hkeys =>
      obtain ⟨first, rest, hcons⟩ := List.exists_cons_of_ne_nil fun h => hkeys (List.isEmpty_iff.2 h)
      rw [hcons, Action.course_bind_iff]
      simp only [Action.course_mapError_iff, course_fetch_iff]
      constructor
      -- The fetch fails, or its index is handed out to the rows, which sends nothing more.
      · rintro (⟨e, ⟨_, ⟨g, hg, rfl⟩, he⟩, rfl⟩ | ⟨index, es₁, es₂, ⟨_, ⟨g, hg, rfl⟩, hi⟩, h, rfl⟩)
        · refine ⟨g, hg, ?_⟩
          cases g with
          | error e' => cases he; rfl
          | ok g => cases he
        · cases g with
          | error e' => cases hi
          | ok g =>
            cases hi
            obtain ⟨rfl, rfl⟩ := (course_handOut_iff (related_indexRows _ _ _)).1 h
            rw [List.append_nil]
            exact ⟨_, hg, rfl⟩
      · rintro ⟨g, hg, rfl⟩
        cases g with
        | error e => exact .inl ⟨_, ⟨_, ⟨_, hg, rfl⟩, rfl⟩, rfl⟩
        | ok g =>
          refine .inr ⟨_, es, [], ⟨_, ⟨_, hg, rfl⟩, rfl⟩, ?_, by simp⟩
          exact (course_handOut_iff (related_indexRows _ _ _)).2 ⟨rfl, rfl⟩

/-! ### Nothing but lookups -/

/-- A statement that looks rows up by some keys. -/
def IsLookup (st : Statement) : Prop :=
  ∃ (p : Lookup.Parts) (table : String) (keys : List Value),
    keys ≠ [] ∧ st = p.statement table keys

theorem Gathers.isLookup {column : String} {keys : List Value} {es : List Exchange}
    {g : Except Error Gathered} (h : Gathers client request selection inside column keys es g)
    (hinside : ∀ replied later r, (inside replied).Course later r →
      ∀ x ∈ later, IsLookup x.statement) : ∀ x ∈ es, IsLookup x.statement := by
  intro x hx
  cases h with
  | nothing => cases hx
  | refused => cases hx
  | @failed first rest p e _ =>
    rw [List.mem_singleton.1 hx]
    exact ⟨p, request.table, _, List.cons_ne_nil first rest, rfl⟩
  | @answered first rest p replied later r _ hcourse =>
    rcases List.mem_cons.1 hx with rfl | hx
    · exact ⟨p, request.table, _, List.cons_ne_nil first rest, rfl⟩
    · exact hinside replied later r hcourse x hx

/-- Embedding sends nothing but lookups. -/
theorem isLookup_of_course_embedAll {n : Nesting} {owner : String} {rows : List Row}
    {es : List Exchange} {r : Except Error (List Row)}
    (h : (embedAll client n owner rows).Course es r) : ∀ x ∈ es, IsLookup x.statement := by
  induction n generalizing owner rows es r with
  | nil =>
    intro x hx
    rw [(Action.course_pure_iff.1 h).1] at hx
    cases hx
  | cons request selection inside rest ihinside ihrest =>
    -- The request's own lookup, and those of the requests nested in it.
    have hone : ∀ {es r}, (embedOne client owner request selection
        (embedAll client inside request.table) rows).Course es r →
        ∀ x ∈ es, IsLookup x.statement := by
      intro es r h x hx
      obtain ⟨-, rfl, -⟩ | ⟨-, e, -, rfl, -⟩ | ⟨-, found, g, -, hg, -⟩ := course_embedOne_iff.1 h
      · cases hx
      · cases hx
      · exact hg.isLookup (fun replied later r hcourse => ihinside hcourse) x hx
    rw [embedAll, Action.course_bind_iff] at h
    obtain ⟨e, h, -⟩ | ⟨mid, es₁, es₂, h₁, h₂, rfl⟩ := h
    · exact hone h
    · intro x hx
      rcases List.mem_append.1 hx with hx | hx
      · exact hone h₁ x hx
      · exact ihrest h₂ x hx

/-! ### A single request -/

/-- What a row is given that has no related rows. -/
def nothingRelated : RelationKind → Value
  | .belongsTo => .null
  | .hasMany => .arr []

theorem splice_nil (link : Link) (request : Request) (helpers : List String) (rows : List Row) :
    splice link request helpers [] rows =
      if request.inner then []
      else rows.map fun row => row.insert request.field (nothingRelated link.kind) := by
  have hportion : ∀ row, portion link helpers [] row = nothingRelated link.kind := by
    intro row
    cases hkind : link.kind <;> simp [portion, hkind, nothingRelated]
  simp only [splice, hportion, List.any_nil]
  split
  · simp
  · rfl

/-- Embedding in rows through a link that was found is gathering and handing out. -/
theorem course_embedOne_found_iff {owner : String} {rows : List Row} {found : FoundRelation}
    (hrows : rows ≠ []) (hfound : client.findRelation owner request.table rows = .ok found)
    {es : List Exchange} {r : Except Error (List Row)} :
    (embedOne client owner request selection inside rows).Course es r ↔
      ∃ g, Gathers client request selection inside (found.link client).relatedColumn
          (wantedKeys (found.link client).ownerColumn rows) es g ∧
        r = (g.mapError (blameGuess owner request found)).map fun g =>
          splice (found.link client) request g.helpers g.rows rows := by
  rw [course_embedOne_iff, hfound]
  simp [hrows]

/-- Embedding in rows of which some have a key, where the lookup is answered and nothing goes wrong
inside its rows. -/
theorem course_embedOne_answered {owner : String} {rows replied related out : List Row}
    {found : FoundRelation} {p : Lookup.Parts} {st : Statement} {later : List Exchange}
    (hfound : client.findRelation owner request.table rows = .ok found)
    (hkeys : wantedKeys (found.link client).ownerColumn rows ≠ [])
    (hparts : Lookup.parts client request selection (found.link client).relatedColumn = .ok p)
    (hstatement : p.statement request.table (wantedKeys (found.link client).ownerColumn rows) = st)
    (hinside : (inside replied).Course later (.ok related))
    (hout : splice (found.link client) request p.helpers related rows = out) :
    (embedOne client owner request selection inside rows).Course
      (⟨st, .ok replied⟩ :: later) (.ok out) := by
  have hrows : rows ≠ [] := by
    rintro rfl
    exact hkeys rfl
  refine (course_embedOne_found_iff hrows hfound).2 ⟨.ok ⟨p.helpers, related⟩, ?_, ?_⟩
  · rw [gathers_iff_of_parts hkeys hparts, hstatement]
    exact ⟨.ok replied, later, rfl, .ok related, hinside, rfl⟩
  · exact congrArg Except.ok hout.symm

/-- Embedding a single request is one step. -/
theorem embedAll_singleton (client : Client) (request : Request)
    (selection : Except Violation Selection) (inside : Nesting) (owner : String)
    (rows : List Row) :
    embedAll client (.cons request selection inside .nil) owner rows =
      embedOne client owner request selection (embedAll client inside request.table) rows := by
  simp only [embedAll, bind_pure]

theorem resolve_singleton_of_parse {selection : Selection}
    (h : Selection.parse request.columns = .ok selection) (owner : String) (rows : List Row) :
    resolve client owner [request] rows =
      embedOne client owner request (.ok selection)
        (resolve client request.table selection.relations) rows := by
  rw [resolve, Nesting.ofRequests_cons_ok h, Nesting.ofRequests_nil, embedAll_singleton]
  rfl

/-- Embedding a single request whose rows have no relations, where the lookup is answered. -/
theorem course_embedAll_answered {owner base : String} {rows replied out : List Row}
    {found : FoundRelation} {st : Statement} {helpers : List String}
    (hparse : Selection.parse request.columns = .ok ⟨base, []⟩)
    (hfound : client.findRelation owner request.table rows = .ok found)
    (hkeys : wantedKeys (found.link client).ownerColumn rows ≠ [])
    (hlookup : (Lookup.parts client request (.ok ⟨base, []⟩) (found.link client).relatedColumn).map
      (fun p => (p.statement request.table (wantedKeys (found.link client).ownerColumn rows),
        p.helpers)) = .ok (st, helpers))
    (hout : splice (found.link client) request helpers replied rows = out) :
    (embedAll client (.ofRequests [request]) owner rows).Course [⟨st, .ok replied⟩] (.ok out) := by
  cases hparts : Lookup.parts client request (.ok ⟨base, []⟩) (found.link client).relatedColumn with
  | error v =>
    rw [hparts] at hlookup
    cases hlookup
  | ok p =>
    rw [hparts] at hlookup
    cases hlookup
    rw [Nesting.ofRequests_cons_ok hparse, Nesting.ofRequests_nil, embedAll_singleton]
    exact course_embedOne_answered hfound hkeys hparts rfl (Action.course_pure_iff.2 ⟨rfl, rfl⟩)
      hout

/-- **One relation, whatever the engine replies.**  A single request is embedded in some rows
through the link that was found.  If no row has a key, nothing is sent and every row is given
nothing.  Otherwise one lookup is sent, for the wanted keys, and if its reply is rows, what is
nested is embedded in these; the rows that come of it are spliced in. -/
theorem course_resolve_singleton {owner : String} {rows : List Row} {found : FoundRelation}
    (hrows : rows ≠ []) (hfound : client.findRelation owner request.table rows = .ok found) :
    (wantedKeys (found.link client).ownerColumn rows = [] → ∀ es r,
      (resolve client owner [request] rows).Course es r ↔
        es = [] ∧ r = .ok (if request.inner then []
          else rows.map fun row =>
            row.insert request.field (nothingRelated (found.link client).kind))) ∧
    (wantedKeys (found.link client).ownerColumn rows ≠ [] → ∀ selection parts,
      Selection.parse request.columns = .ok selection →
      Lookup.parts client request (.ok selection) (found.link client).relatedColumn = .ok parts →
      parts.helpers = (selection.ensure ((found.link client).relatedColumn ::
        client.keyColumns request.table selection.relations)).2 ∧
      ∀ es r, (resolve client owner [request] rows).Course es r ↔
        ∃ reply later,
          es = ⟨parts.statement request.table
            (wantedKeys (found.link client).ownerColumn rows), reply⟩ :: later ∧
          match reply with
          | .error e => later = [] ∧ r = .error (blameGuess owner request found e)
          | .ok replied => ∃ nested,
            (resolve client request.table selection.relations replied).Course later nested ∧
            r = (nested.mapError (blameGuess owner request found)).map fun related =>
              splice (found.link client) request parts.helpers related rows) := by
  constructor
  · intro hkeys es r
    -- Without keys the nested list is not looked at, so it may also fail to parse.
    have hstep : ∃ selection inside, resolve client owner [request] rows =
        embedOne client owner request selection inside rows := by
      cases hparse : Selection.parse request.columns with
      | error v =>
        exact ⟨_, _, by rw [resolve, Nesting.ofRequests_cons_error hparse,
          Nesting.ofRequests_nil, embedAll_singleton]⟩
      | ok s => exact ⟨_, _, resolve_singleton_of_parse hparse owner rows⟩
    obtain ⟨selection, inside, hstep⟩ := hstep
    rw [hstep, course_embedOne_found_iff hrows hfound, hkeys, ← splice_nil _ _ []]
    simp only [gathers_nil_iff]
    constructor
    · rintro ⟨g, ⟨rfl, rfl⟩, rfl⟩
      exact ⟨rfl, rfl⟩
    · rintro ⟨rfl, rfl⟩
      exact ⟨_, ⟨rfl, rfl⟩, rfl⟩
  · intro hkeys selection parts hparse hparts
    refine ⟨Lookup.helpers_of_parts hparts, fun es r => ?_⟩
    rw [resolve_singleton_of_parse hparse, course_embedOne_found_iff hrows hfound]
    simp only [gathers_iff_of_parts hkeys hparts]
    constructor
    · rintro ⟨g, ⟨e | replied, later, rfl, h⟩, rfl⟩
      · obtain ⟨rfl, rfl⟩ := h
        exact ⟨.error e, [], rfl, rfl, rfl⟩
      · obtain ⟨nested, hinside, rfl⟩ := h
        refine ⟨.ok replied, later, rfl, nested, hinside, ?_⟩
        cases nested <;> rfl
    · rintro ⟨e | replied, later, rfl, h⟩
      · obtain ⟨rfl, rfl⟩ := h
        exact ⟨_, ⟨.error e, [], rfl, rfl, rfl⟩, rfl⟩
      · obtain ⟨nested, hinside, rfl⟩ := h
        refine ⟨_, ⟨.ok replied, later, rfl, nested, hinside, rfl⟩, ?_⟩
        cases nested <;> rfl

/-- Invoices with an unknown customer or none are dropped by an inner join; the others are given the
customer that they share, without the key by which it was looked up. -/
theorem course_resolve_customers_of_invoices :
    let client : Client :=
      { relations := ({} : Relations).belongsTo "invoices" "customers" "customer_id" }
    let request : Request :=
      { table := "customers", alias? := none, columns := "name", inner := true }
    let found : FoundRelation := ⟨⟨"customer_id", .belongsTo⟩, .registered⟩
    let rows := [
      Row.ofFields [("id", .str "1"), ("customer_id", .str "7")],
      Row.ofFields [("id", .str "2"), ("customer_id", .null)],
      Row.ofFields [("id", .str "3"), ("customer_id", .str "7")],
      Row.ofFields [("id", .str "4"), ("customer_id", .str "8")]]
    rows ≠ [] ∧ client.findRelation "invoices" request.table rows = .ok found ∧
      (resolve client "invoices" [request] rows).Course
        [⟨⟨some "embed customers", "SELECT name, id FROM customers WHERE id IN (?, ?)",
            [.str "7", .str "8"]⟩,
          .ok [Row.ofFields [("name", .str "Ada"), ("id", .str "7")]]⟩]
        (.ok [
          Row.ofFields [("id", .str "1"), ("customer_id", .str "7"),
            ("customers", .obj [("name", .str "Ada")])],
          Row.ofFields [("id", .str "3"), ("customer_id", .str "7"),
            ("customers", .obj [("name", .str "Ada")])]]) := by
  intro client request found rows
  have hrows : rows ≠ [] := List.cons_ne_nil _ _
  have hfound : client.findRelation "invoices" request.table rows = .ok found := rfl
  have hkeys : wantedKeys (found.link client).ownerColumn rows = [.str "7", .str "8"] := rfl
  have hparse : Selection.parse "name" = .ok ⟨"name", []⟩ := rfl
  -- the parts are computed for written-out terms, so that they come down to literals
  obtain ⟨parts, hparts, hstatement, hhelpers⟩ : ∃ parts,
      Lookup.parts { relations := ({} : Relations).belongsTo "invoices" "customers" "customer_id" }
        { table := "customers", alias? := none, columns := "name", inner := true }
        (.ok ⟨"name", []⟩) "id" = .ok parts ∧
      parts.statement "customers" [.str "7", .str "8"] =
        ⟨some "embed customers", "SELECT name, id FROM customers WHERE id IN (?, ?)",
          [.str "7", .str "8"]⟩ ∧
      parts.helpers = ["id"] := by
    refine ⟨_, rfl, ?_, ?_⟩ <;> rfl
  obtain ⟨-, hcourse⟩ := (course_resolve_singleton hrows hfound).2 (by simp [hkeys])
    _ parts hparse hparts
  have hnested : (resolve client "customers" []
      [Row.ofFields [("name", .str "Ada"), ("id", .str "7")]]).Course [] (.ok
        [Row.ofFields [("name", .str "Ada"), ("id", .str "7")]]) := by
    rw [resolve, Nesting.ofRequests_nil]
    exact Action.course_pure_iff.2 ⟨rfl, rfl⟩
  refine ⟨hrows, hfound, (hcourse _ _).2
    ⟨.ok _, [], by rw [hkeys, hstatement], .ok _, hnested, ?_⟩⟩
  rw [hhelpers]
  rfl

end Embed

end Graft
