/-
Graft/Proofs/Chain/Blame.lean

On which guess an error of the engine is laid.

Lookups stand inside one another: what is nested in a relation is looked up for
the rows that the lookup of this relation was answered with.  An error that the
engine answers a lookup with comes out through all the lookups around it, the
innermost first, and each of them may lay it on its own guess.  An `Enclosure`
is one of these lookups, and a path is the enclosures that an error comes out
through.

`Embed.Fails` and `Plan.Fails` tell by which path a chain comes to an error of
the engine.  The path alone decides what the chain reports
(`Chain.ends_failed_iff`): the error as it is, if no enclosure of the path is a
guessed has-many, and else the rejection of the innermost that is one.  That
need not be the lookup that was answered with the error: a registered relation
inside a guessed one is reported as a rejected guess as well
(`not_forall_backend_kept`).
-/
import Graft.Proofs.Chain.Stopping

namespace Graft

/-! ### Guesses -/

/-- A relation is found to be a guess exactly where nothing is registered. -/
theorem Client.isGuessed_iff {client : Client} {owner related : String} {rows : List Row}
    {found : FoundRelation} (h : client.findRelation owner related rows = .ok found) :
    found.isGuessed = true ↔ client.relations.get? owner related = none := by
  unfold Client.findRelation at h
  split at h
  · next relation hget =>
    cases h
    simp [hget, FoundRelation.isGuessed]
  · next hget _ =>
    -- each of the two ways to guess a relation says that it did
    unfold inferRelation at h
    split at h
    · cases h
      simp [hget, FoundRelation.isGuessed]
    · cases h
      simp [hget, FoundRelation.isGuessed]
    · cases h
  · cases h

/-! ### Enclosures -/

/-- A lookup that an error may come out through. -/
structure Enclosure where
  owner : String
  request : Request
  found : FoundRelation

namespace Enclosure

/-- Whether the enclosure is a guess that the engine can reject: nothing is registered for its
tables, and the related rows are taken to hold the key. -/
def isGuess (client : Client) (x : Enclosure) : Bool :=
  (client.relations.get? x.owner x.request.table).isNone &&
    x.found.relation.kind == .hasMany

/-- The rejection of the guess. -/
def rejection (x : Enclosure) (message : String) : Error :=
  .relation (.guessRejected x.owner x.request.table x.found.relation.foreignKey message
    (keyNamed (singularize x.request.table)))

/-- What is reported of an error that came out through some enclosures, the innermost first. -/
def reported (client : Client) (path : List Enclosure) : Error → Error
  | .backend message =>
    match path.find? (·.isGuess client) with
    | some x => x.rejection message
    | none => .backend message
  | e => e

/-- An enclosure passes on what was reported before, or is the first guess on the way out. -/
theorem reported_concat {client : Client} {owner : String} {request : Request} {rows : List Row}
    {found : FoundRelation} (hfound : client.findRelation owner request.table rows = .ok found)
    (path : List Enclosure) (e : Error) :
    reported client (path ++ [⟨owner, request, found⟩]) e =
      Embed.blameGuess owner request found (reported client path e) := by
  have hguess : isGuess client ⟨owner, request, found⟩ = true ↔
      found.isGuessed = true ∧ found.relation.kind = .hasMany := by
    rw [Client.isGuessed_iff hfound]
    simp [isGuess]
  cases e with
  | backend message =>
    simp only [reported, List.find?_append]
    cases path.find? (·.isGuess client) with
    | some x => rfl
    | none =>
      -- no guess so far, so this enclosure decides
      rw [Option.none_or, List.find?_singleton]
      simp only [Embed.blameGuess]
      by_cases h : isGuess client ⟨owner, request, found⟩ = true
      · rw [if_pos h, if_pos (hguess.1 h)]
        rfl
      · rw [if_neg h, if_neg fun hfound => h (hguess.2 hfound)]
  | _ => rfl

end Enclosure

/-! ### Lookups that fail -/

namespace Embed

variable {client : Client}

/-- `Fails client n owner rows es e path`: embedding `n` in some rows of the owner may have the
exchanges `es`, of which the last is a lookup that is answered with `e` and that stands inside the
enclosures of `path`. -/
inductive Fails (client : Client) :
    Nesting → String → List Row → List Exchange → Error → List Enclosure → Prop
  /-- The lookup of the first relation fails. -/
  | here {owner : String} {request : Request} {selection : Except Violation Selection}
      {inside rest : Nesting} {rows : List Row} {found : FoundRelation} {p : Lookup.Parts}
      {e : Error}
      (hrows : rows ≠ [])
      (hfound : client.findRelation owner request.table rows = .ok found)
      (hkeys : wantedKeys (found.link client).ownerColumn rows ≠ [])
      (hparts : Lookup.parts client request selection (found.link client).relatedColumn = .ok p) :
      Fails client (.cons request selection inside rest) owner rows
        [⟨p.statement request.table (wantedKeys (found.link client).ownerColumn rows), .error e⟩]
        e [⟨owner, request, found⟩]
  /-- The first relation is looked up, and a lookup for its rows fails. -/
  | inside {owner : String} {request : Request} {selection : Except Violation Selection}
      {inside rest : Nesting} {rows replied : List Row} {found : FoundRelation}
      {p : Lookup.Parts} {later : List Exchange} {e : Error} {path : List Enclosure}
      (hrows : rows ≠ [])
      (hfound : client.findRelation owner request.table rows = .ok found)
      (hkeys : wantedKeys (found.link client).ownerColumn rows ≠ [])
      (hparts : Lookup.parts client request selection (found.link client).relatedColumn = .ok p)
      (hinside : Fails client inside request.table replied later e path) :
      Fails client (.cons request selection inside rest) owner rows
        (⟨p.statement request.table (wantedKeys (found.link client).ownerColumn rows),
          .ok replied⟩ :: later) e (path ++ [⟨owner, request, found⟩])
  /-- The first relation is embedded, and a lookup after it fails. -/
  | after {owner : String} {request : Request} {selection : Except Violation Selection}
      {inside rest : Nesting} {rows mid : List Row} {es₁ es₂ : List Exchange} {e : Error}
      {path : List Enclosure}
      (hfirst : (embedOne client owner request selection
        (embedAll client inside request.table) rows).Course es₁ (.ok mid))
      (hafter : Fails client rest owner mid es₂ e path) :
      Fails client (.cons request selection inside rest) owner rows (es₁ ++ es₂) e path

/-- A lookup that fails ends embedding, with what the enclosures around it make of its error. -/
theorem Fails.course {n : Nesting} {owner : String} {rows : List Row} {es : List Exchange}
    {e : Error} {path : List Enclosure} (h : Fails client n owner rows es e path) :
    (embedAll client n owner rows).Course es (.error (Enclosure.reported client path e)) := by
  -- By where the failure is: in this lookup, inside it, or in a later one.
  induction h with
  | @here owner request _ _ _ _ found _ e hrows hfound hkeys hparts =>
    have hreported := Enclosure.reported_concat hfound [] e
    have hempty : Enclosure.reported client [] e = e := by cases e <;> rfl
    rw [hempty, List.nil_append] at hreported
    rw [embedAll, Action.course_bind_iff, hreported]
    refine .inl ⟨_, (course_embedOne_found_iff hrows hfound).2 ⟨.error e, ?_, rfl⟩, rfl⟩
    exact (gathers_iff_of_parts hkeys hparts).2 ⟨.error e, [], rfl, rfl, rfl⟩
  | inside hrows hfound hkeys hparts _ ih =>
    rw [embedAll, Action.course_bind_iff, Enclosure.reported_concat hfound]
    refine .inl ⟨_, (course_embedOne_found_iff hrows hfound).2 ⟨.error _, ?_, rfl⟩, rfl⟩
    exact (gathers_iff_of_parts hkeys hparts).2 ⟨.ok _, _, rfl, _, ih, rfl⟩
  | after hfirst _ ih =>
    rw [embedAll, Action.course_bind_iff]
    exact .inr ⟨_, _, _, hfirst, ih, rfl⟩

theorem Fails.exists_mem {n : Nesting} {owner : String} {rows : List Row} {es : List Exchange}
    {e : Error} {path : List Enclosure} (h : Fails client n owner rows es e path) :
    ∃ st, (⟨st, .error e⟩ : Exchange) ∈ es := by
  induction h with
  | here => exact ⟨_, List.mem_singleton_self _⟩
  | inside _ _ _ _ _ ih =>
    obtain ⟨st, hst⟩ := ih
    exact ⟨st, List.mem_cons_of_mem _ hst⟩
  | after _ _ ih =>
    obtain ⟨st, hst⟩ := ih
    exact ⟨st, List.mem_append_right _ hst⟩

/-- Where the engine answers with an error while one relation is embedded, its own lookup fails or
one inside it does. -/
theorem exists_fails_of_course_embedOne {owner : String} {request : Request}
    {selection : Except Violation Selection} {inside rest : Nesting} {rows : List Row}
    {es : List Exchange} {r : Except Error (List Row)} {st : Statement} {e : Error}
    (hinside : ∀ replied later r, (embedAll client inside request.table replied).Course later r →
      ⟨st, .error e⟩ ∈ later → ∃ path, Fails client inside request.table replied later e path ∧
        r = .error (Enclosure.reported client path e))
    (h : (embedOne client owner request selection
      (embedAll client inside request.table) rows).Course es r)
    (hst : ⟨st, .error e⟩ ∈ es) :
    ∃ path, Fails client (.cons request selection inside rest) owner rows es e path ∧
      r = .error (Enclosure.reported client path e) := by
  obtain ⟨-, rfl, -⟩ | ⟨-, e', -, rfl, -⟩ | ⟨hrows, found, g, hfound, hg, rfl⟩ :=
    course_embedOne_iff.1 h
  · cases hst
  · cases hst
  · have hkeys : wantedKeys (found.link client).ownerColumn rows ≠ [] := by
      intro hnil
      rw [hnil, gathers_nil_iff] at hg
      rw [hg.1] at hst
      cases hst
    cases hparts : Lookup.parts client request selection (found.link client).relatedColumn with
    | error v =>
      rw [((gathers_refused_iff hkeys hparts).1 hg).1] at hst
      cases hst
    | ok p =>
      obtain ⟨reply, later, rfl, hreply⟩ := (gathers_iff_of_parts hkeys hparts).1 hg
      cases reply with
      | error e' =>
        obtain ⟨rfl, rfl⟩ := hreply
        -- the lookup itself is the only exchange
        cases List.mem_singleton.1 hst
        have hfails : Fails client (.cons request selection inside rest) owner rows _ e _ :=
          .here hrows hfound hkeys hparts
        refine ⟨_, hfails, ?_⟩
        rw [← List.nil_append [_], Enclosure.reported_concat hfound]
        cases e <;> rfl
      | ok replied =>
        obtain ⟨nested, hnested, rfl⟩ := hreply
        have hlater : (⟨st, .error e⟩ : Exchange) ∈ later := by
          rcases List.mem_cons.1 hst with heq | hlater
          · cases heq
          · exact hlater
        obtain ⟨path, hpath, rfl⟩ := hinside replied later nested hnested hlater
        refine ⟨_, .inside hrows hfound hkeys hparts hpath, ?_⟩
        rw [Enclosure.reported_concat hfound]
        rfl

/-- **Errors of the engine while embedding.**  Where the engine answers with an error, a lookup has
failed, and embedding ends in what the enclosures around it make of the error. -/
theorem exists_fails_of_course_embedAll {n : Nesting} {owner : String} {rows : List Row}
    {es : List Exchange} {r : Except Error (List Row)} {st : Statement} {e : Error}
    (h : (embedAll client n owner rows).Course es r) (hst : ⟨st, .error e⟩ ∈ es) :
    ∃ path, Fails client n owner rows es e path ∧
      r = .error (Enclosure.reported client path e) := by
  -- on the nesting: the error is in the first relation, or after it
  induction n generalizing owner rows es r with
  | nil =>
    rw [(Action.course_pure_iff.1 h).1] at hst
    cases hst
  | cons request selection inside rest ihinside ihrest =>
    rw [embedAll, Action.course_bind_iff] at h
    obtain ⟨e', hone, rfl⟩ | ⟨mid, es₁, es₂, hone, hall, rfl⟩ := h
    · exact exists_fails_of_course_embedOne (fun _ _ _ hcourse => ihinside hcourse) hone hst
    · have hanswered := (stops_of_course_embedOne
        (fun _ _ _ hcourse => stops_of_course_embedAll hcourse) hone).answered_of_ok
      have hlater : (⟨st, .error e⟩ : Exchange) ∈ es₂ := by
        rcases List.mem_append.1 hst with hfirst | hlater
        · obtain ⟨replied, hreplied⟩ := hanswered _ hfirst
          cases hreplied
        · exact hlater
      obtain ⟨path, hpath, rfl⟩ := ihrest hall hlater
      exact ⟨path, .after hone hpath, rfl⟩

end Embed

/-! ### Chains that fail -/

/-- `p.Fails client es e path`: the plan may have the exchanges `es`, of which the last is answered
with `e` and stands inside the enclosures of `path`; the plan's own statement stands inside none. -/
inductive Plan.Fails (client : Client) (p : Plan) : List Exchange → Error → List Enclosure → Prop
  | own (e : Error) : Fails client p [⟨p.statement, .error e⟩] e []
  | embedding {projection : Projection} {rows : List Row} {later : List Exchange} {e : Error}
      {path : List Enclosure} (hprojection : p.projection? = some projection)
      (h : Embed.Fails client projection.nesting p.table rows later e path) :
      Fails client p (⟨p.statement, .ok rows⟩ :: later) e path

namespace Plan.Fails

variable {client : Client} {p : Plan} {es : List Exchange} {e : Error} {path : List Enclosure}

theorem exists_mem (h : p.Fails client es e path) : ∃ st, (⟨st, .error e⟩ : Exchange) ∈ es := by
  cases h with
  | own => exact ⟨_, List.mem_singleton_self _⟩
  | embedding _ h =>
    obtain ⟨st, hst⟩ := h.exists_mem
    exact ⟨st, List.mem_cons_of_mem _ hst⟩

theorem course (h : p.Fails client es e path) :
    (p.carryOut client).Course es (.error (Enclosure.reported client path e)) := by
  apply course_carryOut_iff.2
  cases h with
  | own =>
    have hsame : Enclosure.reported client [] e = e := by cases e <;> rfl
    exact .inl ⟨e, rfl, congrArg Except.error hsame⟩
  | embedding hprojection h =>
    exact .inr ⟨_, _, rfl, (course_finish_iff hprojection).2 ⟨_, h.course, rfl⟩⟩

end Plan.Fails

section

variable {client : Client} {c : Chain} {es : List Exchange} {e : Error}

/-- Where the engine answers with an error while a plan is carried out, the plan fails. -/
theorem Plan.exists_fails_of_course_carryOut {p : Plan} {r : Except Error (List Row)}
    {st : Statement} (h : (p.carryOut client).Course es r) (hst : ⟨st, .error e⟩ ∈ es) :
    ∃ path, p.Fails client es e path ∧ r = .error (Enclosure.reported client path e) := by
  -- Either the base statement failed, or it was answered and a lookup failed.
  obtain ⟨e', rfl, rfl⟩ | ⟨rows, later, rfl, hfinish⟩ := course_carryOut_iff.1 h
  · cases List.mem_singleton.1 hst
    refine ⟨[], .own e, ?_⟩
    cases e <;> rfl
  · have hlater : (⟨st, .error e⟩ : Exchange) ∈ later := by
      rcases List.mem_cons.1 hst with heq | hlater
      · cases heq
      · exact hlater
    cases hprojection : p.projection? with
    | none =>
      rw [((course_finish_none_iff hprojection).1 hfinish).1] at hlater
      cases hlater
    | some projection =>
      obtain ⟨embedded, hembed, rfl⟩ := (course_finish_iff hprojection).1 hfinish
      obtain ⟨path, hpath, rfl⟩ := Embed.exists_fails_of_course_embedAll hembed hlater
      exact ⟨path, .embedding hprojection hpath, rfl⟩

/-- A chain whose plan fails reports what the enclosures of the path make of the error. -/
theorem Chain.ends_of_fails {c' : Chain} {plan : Plan} {path : List Enclosure}
    (hc : c' = c ∨ c' = c.forSingle) (hplan : c'.Plans client plan)
    (hfails : plan.Fails client es e path) :
    c.Ends client es (some (Enclosure.reported client path e)) := by
  have hes : es ≠ [] := by
    rintro rfl
    obtain ⟨st, hst⟩ := hfails.exists_mem
    cases hst
  exact ends_iff.2 ⟨c', _, hc, (course_run_iff hes).2 ⟨plan, hplan, hfails.course⟩, rfl⟩

/-- **What is reported of an error of the engine.**  A chain that the engine answers with an error
has come to a plan, and that fails by a path of enclosures: by an empty one if the chain's own
statement was answered with the error, and else by the failed lookup and all the lookups around it.
If one of these is a guessed has-many, the failure of a statement inside the engine is reported as
the rejection of the innermost such guess; every other error is reported as it is. -/
theorem Chain.ends_failed_iff {error? : Option Error} :
    c.Ends client es error? ∧ (∃ st, (⟨st, .error e⟩ : Exchange) ∈ es) ↔
      ∃ c' plan path, (c' = c ∨ c' = c.forSingle) ∧ c'.Plans client plan ∧
        plan.Fails client es e path ∧ error? = some (Enclosure.reported client path e) := by
  constructor
  · rintro ⟨hends, st, hst⟩
    obtain ⟨c', r, hc, hrun, rfl⟩ := ends_iff.1 hends
    have hes : es ≠ [] := List.ne_nil_of_mem hst
    obtain ⟨plan, hplan, hcarry⟩ := (course_run_iff hes).1 hrun
    obtain ⟨path, hfails, rfl⟩ := Plan.exists_fails_of_course_carryOut hcarry hst
    exact ⟨c', plan, path, hc, hplan, hfails, rfl⟩
  · rintro ⟨c', plan, path, hc, hplan, hfails, rfl⟩
    exact ⟨ends_of_fails hc hplan hfails, hfails.exists_mem⟩

end

/-! ### A registered relation inside a guessed one -/

/-- Lines belong to products; nothing is registered for invoices. -/
def linesClient : Client where
  relations := ({} : Relations).belongsTo "lines" "products" "product_id"

/-- Invoices with their lines, and with the products of these. -/
def invoicesOfProducts : SelectChain :=
  Chain.selectFrom "invoices" "id, lines(product_id, products(name))"

/-- The requests of the chain, the second nested in the first. -/
def linesRequest : Request where
  table := "lines"
  alias? := none
  columns := "product_id, products(name)"
  inner := false

@[inherit_doc linesRequest]
def productsRequest : Request where
  table := "products"
  alias? := none
  columns := "name"
  inner := false

/-- The products are registered, the lines around them are a guess. -/
def productsPath : List Enclosure :=
  [⟨"lines", productsRequest, ⟨⟨"product_id", .belongsTo⟩, .registered⟩⟩,
    ⟨"invoices", linesRequest, ⟨⟨"invoice_id", .hasMany⟩, .guessed false⟩⟩]

/-- The lines are found by the guessed key, and the lookup of the products fails. -/
def lockedExchanges : List Exchange :=
  [⟨⟨some "select invoices", "SELECT id FROM invoices", []⟩, .ok [Row.ofFields [("id", .str "1")]]⟩,
    ⟨⟨some "embed lines", "SELECT product_id, invoice_id, id FROM lines WHERE invoice_id IN (?)",
      [.str "1"]⟩,
      .ok [Row.ofFields [("product_id", .str "7"), ("invoice_id", .str "1"), ("id", .str "70")]]⟩,
    ⟨⟨some "embed products", "SELECT name, id FROM products WHERE id IN (?)", [.str "7"]⟩,
      .error (.backend "database is locked")⟩]

theorem fails_embed_products :
    Embed.Fails linesClient (.ofRequests [linesRequest]) "invoices"
      [Row.ofFields [("id", .str "1")]] (lockedExchanges.drop 1) (.backend "database is locked")
      productsPath := by
  -- Both lookups, each with the statement that it sends.
  obtain ⟨lines, hlines, hlinesStatement⟩ : ∃ parts,
      Embed.Lookup.parts linesClient linesRequest (.ok ⟨"product_id", [productsRequest]⟩)
        "invoice_id" = .ok parts ∧
      parts.statement "lines" [.str "1"] = ⟨some "embed lines",
        "SELECT product_id, invoice_id, id FROM lines WHERE invoice_id IN (?)", [.str "1"]⟩ := by
    refine ⟨_, rfl, ?_⟩
    rfl
  obtain ⟨products, hproducts, hproductsStatement⟩ : ∃ parts,
      Embed.Lookup.parts linesClient productsRequest (.ok ⟨"name", []⟩) "id" = .ok parts ∧
      parts.statement "products" [.str "7"] = ⟨some "embed products",
        "SELECT name, id FROM products WHERE id IN (?)", [.str "7"]⟩ := by
    refine ⟨_, rfl, ?_⟩
    rfl
  have hline : Selection.parse linesRequest.columns = .ok ⟨"product_id", [productsRequest]⟩ := rfl
  have hproduct : Selection.parse productsRequest.columns = .ok ⟨"name", []⟩ := rfl
  have hfoundLines : linesClient.findRelation "invoices" linesRequest.table
      [Row.ofFields [("id", .str "1")]] = .ok ⟨⟨"invoice_id", .hasMany⟩, .guessed false⟩ := rfl
  have hfoundProducts : linesClient.findRelation "lines" productsRequest.table
      [Row.ofFields [("product_id", .str "7"), ("invoice_id", .str "1"), ("id", .str "70")]] =
        .ok ⟨⟨"product_id", .belongsTo⟩, .registered⟩ := rfl
  rw [Nesting.ofRequests_cons_ok hline, Nesting.ofRequests_cons_ok hproduct]
  -- The failure is in the list of the lines, so it lies one level inside their lookup.
  have hinside := @Embed.Fails.here linesClient _ _ _ (.ofRequests []) (.ofRequests []) _ _ _
    (.backend "database is locked") (List.cons_ne_nil _ _) hfoundProducts (List.cons_ne_nil _ _)
    hproducts
  have houtside := @Embed.Fails.inside linesClient _ _ _ _ (.ofRequests []) _ _ _ _ _ _ _
    (List.cons_ne_nil _ _) hfoundLines (List.cons_ne_nil _ _) hlines hinside
  have hes : lockedExchanges.drop 1 =
      [⟨lines.statement "lines" [.str "1"], .ok [Row.ofFields
        [("product_id", .str "7"), ("invoice_id", .str "1"), ("id", .str "70")]]⟩,
        ⟨products.statement "products" [.str "7"], .error (.backend "database is locked")⟩] := by
    rw [hlinesStatement, hproductsStatement]
    rfl
  rw [hes]
  exact houtside

theorem exists_plan_of_invoicesOfProducts : ∃ plan,
    (Chain.select invoicesOfProducts).Plans linesClient plan ∧
      plan.Fails linesClient lockedExchanges (.backend "database is locked") productsPath := by
  have hparse : Selection.parse "id, lines(product_id, products(name))" =
      .ok ⟨"id", [linesRequest]⟩ := rfl
  have hensure : Selection.ensure ⟨"id", [linesRequest]⟩
      (linesClient.keyColumns "invoices" [linesRequest]) = (⟨"id", [linesRequest]⟩, []) := rfl
  obtain ⟨columns, hcolumns, hsqls⟩ : ∃ columns,
      Selection.columns ⟨"id", [linesRequest]⟩ = .ok columns ∧
        columns.map Column.sql = ["id"] := by
    refine ⟨_, rfl, ?_⟩
    rfl
  obtain ⟨table, htable, htableSql⟩ : ∃ table, Ident.parse "invoices" = .ok table ∧
      table.sql = "invoices" := by
    refine ⟨_, rfl, ?_⟩
    rfl
  have hsql : (Query.select columns table [] [] none).sql = "SELECT id FROM invoices" := by
    show "SELECT " ++ ", ".intercalate (columns.map Column.sql) ++ " FROM " ++ table.sql ++
      "" ++ "" ++ "" = _
    rw [hsqls, htableSql]
    rfl
  refine ⟨_, Chain.plans_selectFrom hparse hensure hcolumns htable, ?_⟩
  -- The base statement is answered; what fails comes after it.
  have hes : lockedExchanges =
      ⟨(Query.select columns table [] [] none).statement "select invoices",
        .ok [Row.ofFields [("id", .str "1")]]⟩ :: lockedExchanges.drop 1 := by
    rw [Query.statement, hsql]
    rfl
  rw [hes]
  exact .embedding rfl fails_embed_products

/-- The lookup of a registered relation is reported as a rejected guess, if it stands inside a guess
that was not rejected. -/
theorem not_forall_backend_kept :
    ¬ ∀ (client : Client) (c c' : Chain) (plan : Plan) (es : List Exchange) (message : String)
      (path : List Enclosure) (error? : Option Error), (c' = c ∨ c' = c.forSingle) →
      c'.Plans client plan → plan.Fails client es (.backend message) path →
      c.Ends client es error? → (∀ x, path.head? = some x → x.isGuess client = false) →
      error? = some (.backend message) := by
  intro h
  obtain ⟨plan, hplan, hfails⟩ := exists_plan_of_invoicesOfProducts
  have hends := Chain.ends_of_fails (.inl rfl) hplan hfails
  have hfailed : ∀ x, productsPath.head? = some x → x.isGuess linesClient = false := by
    intro x hx
    cases hx
    rfl
  have hreported : Enclosure.reported linesClient productsPath (.backend "database is locked") =
      .relation (.guessRejected "invoices" "lines" "invoice_id" "database is locked" "line_id") :=
    rfl
  have hkept := h _ _ _ _ _ _ _ _ (.inl rfl) hplan hfails hends hfailed
  rw [hreported] at hkept
  cases hkept

end Graft
