/-
Graft/Proofs/Chain/Keys.lean

Which keys a chain's statements ask for.

A lookup has to return the column that its rows are matched by, and every
statement whose rows have relations of their own has to return the keys of
these: the primary key, and the foreign keys by which the rows belong to
others.  `Chain.Fetches` says of a statement of a chain which selection its
columns are read from, and by which column its rows are matched.  The columns
offer every key that is needed (`Chain.keys_offered`), so that an engine that
names the columns of its rows by the list returns it.

There is one exception.  A key that the expression selects under another name
counts as selected and is not appended (`Selection.Renames`).  It is missing
then under its own name, and nothing is matched (`not_forall_keys_offered`).
-/
import Graft.Proofs.Chain.Frame
import Graft.Proofs.Chain.Preorder
import Graft.Proofs.Selection.Keys

namespace Graft

/-! ### Needed keys -/

/-- The rows of a table of which the selection is wanted have relations, and the column is their
primary key or a registered foreign key by which they belong to one of these. -/
def Client.Needs (client : Client) (table : String) (s : Selection) (k : String) : Prop :=
  s.relations ≠ [] ∧ (k = client.settings.primaryKey ∨ ∃ request ∈ s.relations,
    client.relations.get? table request.table = some ⟨k, .belongsTo⟩)

/-- The primary key and the registered foreign keys are names. -/
def Client.KeysAreNames (client : Client) : Prop :=
  ∀ k, client.MatchesBy k → ∃ i, Ident.parse k = .ok i

section

variable {client : Client} {table k : String} {s : Selection}

theorem Client.mem_keyColumns_iff :
    k ∈ client.keyColumns table s.relations ↔ client.Needs table s k := by
  rw [keyColumns, Needs]
  split
  · next hnone =>
    rw [List.isEmpty_iff.1 hnone]
    simp
  · next hsome =>
    have hrelations : s.relations ≠ [] := fun h => hsome (List.isEmpty_iff.2 h)
    rw [List.mem_cons, List.mem_filterMap]
    simp only [hrelations, ne_eq, not_false_eq_true, true_and]
    refine or_congr Iff.rfl (exists_congr fun request => and_congr_right fun _ => ?_)
    -- only a foreign key in the rows themselves is needed
    split
    · next foreignKey h => simp [h]
    · next h =>
      constructor
      · intro hnone
        cases hnone
      · intro hget
        exact absurd hget (h k)

theorem Client.Needs.matchesBy (h : client.Needs table s k) : client.MatchesBy k := by
  obtain ⟨-, rfl | ⟨request, -, hget⟩⟩ := h
  · exact .inl rfl
  · exact .inr ⟨table, request.table, _, hget, rfl⟩

end

/-! ### Lookups and their nodes -/

/-- The requests at all levels, each with the table whose rows it is embedded in. -/
def Nesting.nodes : Nesting → String → List (String × Request)
  | .nil, _ => []
  | .cons request _ inside rest, owner =>
    (owner, request) :: (inside.nodes request.table ++ rest.nodes owner)

namespace Embed

/-- The parts of a lookup have the columns of its selection, with what was appended. -/
theorem Lookup.columns_of_parts {client : Client} {request : Request} {s : Selection}
    {column : String} {p : Lookup.Parts} (h : Lookup.parts client request (.ok s) column = .ok p) :
    (s.ensure (column :: client.keyColumns request.table s.relations)).1.columns =
      .ok p.columns := by
  obtain ⟨s', hs, -, hcolumns, -⟩ := parts_eq_ok_iff.1 h
  cases hs
  exact hcolumns

/-- The statement looks up the rows of a request of an owner, for some keys, by the column of the
relation that was found. -/
structure LooksUpBy (client : Client) (owner : String) (request : Request) (s : Selection)
    (column : String) (columns : List Column) (st : Statement) : Prop where
  parse : Selection.parse request.columns = .ok s
  found : ∃ known found, client.findRelation owner request.table known = .ok found ∧
    column = (found.link client).relatedColumn
  parts : ∃ p keys, Lookup.parts client request (.ok s) column = .ok p ∧ keys ≠ [] ∧
    columns = p.columns ∧ st = p.statement request.table keys

variable {client : Client} {owner : String} {rows : List Row} {es : List Exchange}
variable {r : Except Error (List Row)}

/-- A lookup that is not refused has a selection, and looks up by the column of the relation. -/
theorem exists_looksUpBy {request : Request} {found : FoundRelation} {p : Lookup.Parts}
    (hfound : client.findRelation owner request.table rows = .ok found)
    (hparts : Lookup.parts client request (Selection.parse request.columns)
      (found.link client).relatedColumn = .ok p) {keys : List Value} (hkeys : keys ≠ []) :
    ∃ s column columns,
      LooksUpBy client owner request s column columns (p.statement request.table keys) := by
  cases hparse : Selection.parse request.columns with
  | error v =>
    rw [hparse] at hparts
    cases hparts
  | ok s =>
    rw [hparse] at hparts
    exact ⟨s, _, _, hparse, ⟨rows, found, hfound, rfl⟩, p, keys, hparts, hkeys, rfl, rfl⟩

/-- Embedding one relation sends its lookup, and then lookups for nodes inside it. -/
theorem exists_node_of_course_embedOne {request : Request} {n : Nesting}
    {inside : List Row → Action (List Row)}
    (hinside : ∀ {replied es r}, (inside replied).Course es r →
      ∀ x ∈ es, ∃ node ∈ n.nodes request.table, ∃ s column columns,
        LooksUpBy client node.1 node.2 s column columns x.statement)
    (h : (embedOne client owner request (Selection.parse request.columns) inside rows).Course
      es r) :
    ∀ x ∈ es, ∃ node ∈ (owner, request) :: n.nodes request.table, ∃ s column columns,
      LooksUpBy client node.1 node.2 s column columns x.statement := by
  intro x hx
  obtain ⟨-, rfl, -⟩ | ⟨-, e, -, rfl, -⟩ | ⟨-, found, g, hfound, hg, -⟩ := course_embedOne_iff.1 h
  · cases hx
  · cases hx
  · generalize wantedKeys (found.link client).ownerColumn rows = keys at hg
    cases hg with
    | nothing => cases hx
    | refused => cases hx
    | failed e hparts =>
      rw [List.mem_singleton.1 hx]
      exact ⟨_, List.mem_cons_self, exists_looksUpBy hfound hparts (List.cons_ne_nil _ _)⟩
    | answered hparts hcourse =>
      rcases List.mem_cons.1 hx with rfl | hx
      · exact ⟨_, List.mem_cons_self, exists_looksUpBy hfound hparts (List.cons_ne_nil _ _)⟩
      · obtain ⟨node, hnode, hlookup⟩ := hinside hcourse x hx
        exact ⟨node, List.mem_cons_of_mem _ hnode, hlookup⟩

/-- Embedding sends lookups for the nodes of its nesting. -/
theorem exists_node_of_course_embedAll {n : Nesting} (hn : n.Unfolded)
    (h : (embedAll client n owner rows).Course es r) :
    ∀ x ∈ es, ∃ node ∈ n.nodes owner, ∃ s column columns,
      LooksUpBy client node.1 node.2 s column columns x.statement := by
  -- on the nesting: a node is the first one, or inside it, or after it
  induction n generalizing owner rows es r with
  | nil =>
    intro x hx
    rw [(Action.course_pure_iff.1 h).1] at hx
    cases hx
  | cons request selection inside rest ihinside ihrest =>
    obtain ⟨rfl, -, hinside, hrest⟩ := hn
    have hone : ∀ {es r}, (embedOne client owner request (Selection.parse request.columns)
        (embedAll client inside request.table) rows).Course es r →
        ∀ x ∈ es, ∃ node ∈ (Nesting.cons request (Selection.parse request.columns) inside
          rest).nodes owner, ∃ s column columns,
          LooksUpBy client node.1 node.2 s column columns x.statement := by
      intro es r h x hx
      obtain ⟨node, hnode, hlookup⟩ :=
        exists_node_of_course_embedOne (fun hcourse => ihinside hinside hcourse) h x hx
      refine ⟨node, ?_, hlookup⟩
      rw [Nesting.nodes, ← List.cons_append]
      exact List.mem_append_left _ hnode
    rw [embedAll, Action.course_bind_iff] at h
    obtain ⟨e, h, -⟩ | ⟨mid, es₁, es₂, h₁, h₂, rfl⟩ := h
    · exact hone h
    · intro x hx
      rcases List.mem_append.1 hx with hx | hx
      · exact hone h₁ x hx
      · obtain ⟨node, hnode, hlookup⟩ := ihrest hrest h₂ x hx
        exact ⟨node, List.mem_cons_of_mem _ (List.mem_append_right _ hnode), hlookup⟩

end Embed

/-! ### The law -/

/-- `c.Fetches client st table s matched? columns`: the chain may send the statement for rows of
that table with these columns, which are read from the list of the selection with what was appended
to it.  It is the chain's own statement, or a lookup for a request of an owner at any level, whose
rows are then matched by a column. -/
inductive Chain.Fetches (client : Client) (c : Chain) :
    Statement → String → Selection → Option String → List Column → Prop
  | own {c' : Chain} {plan : Plan} {expr : String} {s : Selection} {columns : List Column}
      (hc : c' = c ∨ c' = c.forSingle) (hplan : c'.Plans client plan)
      (hwanted : c.wanted? = some expr) (hparse : Selection.parse expr = .ok s)
      (hcolumns : plan.query.answered? = some columns) :
      Fetches client c plan.statement c.table s none columns
  | lookup {owner : String} {request : Request} {st : Statement} {s : Selection} {column : String}
      {columns : List Column} (hnode : (owner, request) ∈ c.tree.nodes c.table)
      (hlookup : Embed.LooksUpBy client owner request s column columns st) :
      Fetches client c st request.table s (some column) columns

/-- A chain that is run for a single row wants the same of its rows. -/
theorem Chain.same_of_forSingle {c c' : Chain} (hc : c' = c ∨ c' = c.forSingle) :
    c'.wanted? = c.wanted? ∧ c'.table = c.table ∧ c'.tree = c.tree := by
  obtain rfl | rfl := hc
  · exact ⟨rfl, rfl, rfl⟩
  · exact ⟨c.wanted?_forSingle, c.table_forSingle, c.tree_forSingle⟩

section

variable {client : Client} {c : Chain} {st : Statement} {table : String} {s : Selection}
variable {matched? : Option String} {columns : List Column} {es : List Exchange}
variable {error? : Option Error}

/-- The columns of a statement are read from the list of its selection, with the key that its rows
are matched by and the keys of their relations appended. -/
theorem Chain.Fetches.columns_eq (h : c.Fetches client st table s matched? columns) :
    (s.ensure (matched?.toList ++ client.keyColumns table s.relations)).1.columns =
      .ok columns := by
  cases h with
  | @own c' plan expr _ _ hc hplan hwanted hparse hcolumns =>
    obtain ⟨hsame, htable, -⟩ := Chain.same_of_forSingle hc
    obtain ⟨projection, hprojection, hcompile⟩ := hplan.exists_projection (hsame.trans hwanted)
    obtain ⟨s', columns', hparse', hread, rfl⟩ := Projection.compile_eq_ok_iff.1 hcompile
    cases hparse.symm.trans hparse'
    rw [hplan.answered?_eq, hprojection] at hcolumns
    cases hcolumns
    rw [htable] at hread
    exact hread
  | lookup hnode hlookup =>
    obtain ⟨p, keys, hparts, -, rfl, -⟩ := hlookup.parts
    exact Embed.Lookup.columns_of_parts hparts

theorem Chain.Fetches.matched?_name (h : c.Fetches client st table s matched? columns) :
    ∀ k ∈ matched?, ∃ i, Ident.parse k = .ok i := by
  intro k hk
  cases h with
  | own => cases hk
  | lookup hnode hlookup =>
    cases hk
    obtain ⟨p, -, hparts, -⟩ := hlookup.parts
    exact ⟨p.key, Embed.Lookup.key_of_parts hparts⟩

/-- Every statement of a chain that wants something of its rows fetches columns. -/
theorem Chain.Ends.exists_fetches (h : c.Ends client es error?) {expr : String}
    (hwanted : c.wanted? = some expr) :
    ∀ x ∈ es, ∃ table s matched? columns,
      c.Fetches client x.statement table s matched? columns := by
  intro x hx
  obtain ⟨c', plan, hc, hplan, hsent⟩ := (ends_sends_iff (List.ne_nil_of_mem hx)).1 h
  obtain ⟨hsame, htable, htree⟩ := Chain.same_of_forSingle hc
  obtain ⟨projection, hprojection, hcompile⟩ := hplan.exists_projection (hsame.trans hwanted)
  obtain ⟨s, columns, hparse, -, -⟩ := Projection.compile_eq_ok_iff.1 hcompile
  have hown : ∃ table s matched? columns,
      c.Fetches client plan.statement table s matched? columns := by
    refine ⟨_, s, none, projection.columns, .own hc hplan hwanted hparse ?_⟩
    rw [hplan.answered?_eq, hprojection]
    rfl
  obtain ⟨e, rfl, -⟩ | ⟨rows, later, r, rfl, hfinish, -⟩ := hsent
  · rw [List.mem_singleton.1 hx]
    exact hown
  · rcases List.mem_cons.1 hx with rfl | hx
    · exact hown
    · -- all that is sent later is sent by embedding the tree
      obtain ⟨embedded, hembed, -⟩ := (Plan.course_finish_iff hprojection).1 hfinish
      rw [hplan.nesting_eq hprojection, hplan.table_eq, htree, htable] at hembed
      obtain ⟨node, hnode, s, column, columns, hlookup⟩ :=
        Embed.exists_node_of_course_embedAll (Nesting.unfolded_ofRequests _) hembed x hx
      exact ⟨_, s, _, columns, .lookup hnode hlookup⟩

/-- **Keys are offered**, unless the expression has them under other names only.  Every statement of
a chain that wants something of its rows fetches columns; and these offer the key that the rows are
matched by, if any, and all the keys that the relations of the rows need.  An engine that names the
columns of its rows by the list returns these keys. -/
theorem Chain.keys_offered (hnames : client.KeysAreNames) :
    (∀ es error?, c.Ends client es error? → ∀ x ∈ es, c.wanted? = none ∨
      ∃ table s matched? columns, c.Fetches client x.statement table s matched? columns) ∧
    ∀ st table s matched? columns, c.Fetches client st table s matched? columns →
      ∀ k, matched? = some k ∨ client.Needs table s k →
        s.Renames k ∨ (Column.Offers columns k ∧
          ∀ (all : List String) (row : Row), Text.trim k.toList = k.toList → k ∈ all →
            row.Answers all columns → row.contains k = true) := by
  constructor
  · intro es error? h x hx
    cases hwanted : c.wanted? with
    | none => exact .inl rfl
    | some expr => exact .inr (h.exists_fetches hwanted x hx)
  · intro st table s matched? columns h k hk
    -- A key is wanted by a relation or by the lookup that fetches the rows; both kinds are names.
    have hwanted : ∀ key ∈ matched?.toList ++ client.keyColumns table s.relations,
        ∃ i, Ident.parse key = .ok i := by
      intro key hkey
      rcases List.mem_append.1 hkey with hkey | hkey
      · exact h.matched?_name key (Option.mem_toList.1 hkey)
      · exact hnames key (Client.mem_keyColumns_iff.1 hkey).matchesBy
    have hmem : k ∈ matched?.toList ++ client.keyColumns table s.relations := by
      rcases hk with rfl | hneeds
      · exact List.mem_append_left _ List.mem_cons_self
      · exact List.mem_append_right _ (Client.mem_keyColumns_iff.2 hneeds)
    rcases Selection.offers_or_renames hwanted h.columns_eq hmem with hoffers | hrenames
    · exact .inr ⟨hoffers, fun all row hname hall hrow => hoffers.contains hname hall hrow⟩
    · exact .inl hrenames

end

/-- The keys of the sales are names. -/
theorem keysAreNames_salesClient : salesClient.KeysAreNames := by
  rintro k (rfl | ⟨owner, related, relation, hget, rfl⟩)
  · exact ⟨_, rfl⟩
  · have hget' : salesClient.relations.get? owner related = _ :=
      Relations.get?_insert _ "customers" "countries" owner related _
    rw [hget', Relations.belongsTo, Relations.get?_insert] at hget
    split at hget
    · cases hget
      exact ⟨_, rfl⟩
    · split at hget
      · cases hget
        exact ⟨_, rfl⟩
      · cases hget

/-- The columns of the lookup for the buyers. -/
theorem exists_fetches_buyers : ∃ columns,
    (Chain.select invoicesOfBuyers).Fetches salesClient
      ⟨some "embed customers", "SELECT name, id, country_id FROM customers WHERE id IN (?)",
        [.str "7"]⟩ "customers" ⟨"name", [countriesRequest]⟩ (some "id") columns := by
  have hbuyer : Selection.parse buyerRequest.columns = .ok ⟨"name", [countriesRequest]⟩ := rfl
  obtain ⟨p, hparts, hstatement⟩ : ∃ p,
      Embed.Lookup.parts salesClient buyerRequest (.ok ⟨"name", [countriesRequest]⟩) "id" =
        .ok p ∧
      p.statement "customers" [.str "7"] = ⟨some "embed customers",
        "SELECT name, id, country_id FROM customers WHERE id IN (?)", [.str "7"]⟩ := by
    refine ⟨_, rfl, ?_⟩
    rfl
  have hnode : ("invoices", buyerRequest) ∈
      (Chain.select invoicesOfBuyers).tree.nodes "invoices" := by
    have hrelations : (Chain.select invoicesOfBuyers).relations = [buyerRequest] := rfl
    rw [Chain.tree, hrelations, Nesting.ofRequests_cons_ok hbuyer]
    exact List.mem_cons_self
  exact ⟨p.columns, .lookup hnode ⟨hbuyer,
    ⟨invoiceRows, ⟨⟨"customer_id", .belongsTo⟩, .registered⟩, rfl, rfl⟩,
    p, [.str "7"], hparts, List.cons_ne_nil _ _, rfl, hstatement.symm⟩⟩

/-- The lookup of the buyers offers the primary key, which they are matched by, and the foreign key
that they need for their countries. -/
theorem Chain.keys_offered_invoicesOfBuyers :
    salesClient.KeysAreNames ∧
      (Chain.select invoicesOfBuyers).Ends salesClient buyersExchanges none ∧
      (∀ x ∈ buyersExchanges, ∃ table s matched? columns,
        (Chain.select invoicesOfBuyers).Fetches salesClient x.statement table s matched? columns) ∧
      ∃ columns, (Chain.select invoicesOfBuyers).Fetches salesClient
          ⟨some "embed customers", "SELECT name, id, country_id FROM customers WHERE id IN (?)",
            [.str "7"]⟩ "customers" ⟨"name", [countriesRequest]⟩ (some "id") columns ∧
        Column.Offers columns "id" ∧ Column.Offers columns "country_id" := by
  obtain ⟨hsent, hoffered⟩ :=
    @Chain.keys_offered salesClient (.select invoicesOfBuyers) keysAreNames_salesClient
  have hends : (Chain.select invoicesOfBuyers).Ends salesClient buyersExchanges none :=
    ends_iff.2 ⟨_, .ok buyersAnswer, .inl rfl, course_run_invoicesOfBuyers, rfl⟩
  obtain ⟨columns, hfetches⟩ := exists_fetches_buyers
  -- the buyers' own columns have no aliases
  have hunrenamed : ∀ k, ¬ Selection.Renames ⟨"name", [countriesRequest]⟩ k := by
    rintro k ⟨⟨item, hitem, name, source, hcut, -⟩, -, -⟩
    have hitem' : item ∈ [['n', 'a', 'm', 'e']] := hitem
    rw [List.mem_singleton.1 hitem'] at hcut
    cases hcut
  refine ⟨keysAreNames_salesClient, hends, fun x hx => ?_, columns, hfetches, ?_, ?_⟩
  · rcases hsent _ _ hends x hx with hnone | hfetched
    · cases hnone
    · exact hfetched
  · rcases hoffered _ _ _ _ _ hfetches "id" (.inl rfl) with hrenames | ⟨hoffers, -⟩
    · exact absurd hrenames (hunrenamed _)
    · exact hoffers
  · have hneeds : salesClient.Needs "customers" ⟨"name", [countriesRequest]⟩ "country_id" :=
      ⟨List.cons_ne_nil _ _, .inr ⟨countriesRequest, List.mem_cons_self, rfl⟩⟩
    rcases hoffered _ _ _ _ _ hfetches "country_id" (.inr hneeds) with hrenames | ⟨hoffers, -⟩
    · exact absurd hrenames (hunrenamed _)
    · exact hoffers

/-! ### A key under another name -/

/-- Invoices with their customers, whose primary key is given another name. -/
def invoicesReferring : SelectChain :=
  Chain.selectFrom "invoices" "*, customers(ref:id, name)"

/-- The request of the chain. -/
def referringRequest : Request where
  table := "customers"
  alias? := none
  columns := "ref:id, name"
  inner := false

/-- An invoice with all its columns. -/
def referringRow : Row :=
  Row.ofFields [("id", .str "1"), ("customer_id", .str "7")]

/-- The statement of the chain and its lookup, answered with the customer of the invoice. -/
def referringExchanges : List Exchange :=
  [⟨⟨some "select invoices", "SELECT * FROM invoices", []⟩, .ok [referringRow]⟩,
    ⟨⟨some "embed customers", "SELECT id AS ref, name FROM customers WHERE id IN (?)",
      [.str "7"]⟩, .ok [Row.ofFields [("ref", .str "7"), ("name", .str "Ada")]]⟩]

/-- The customer is not matched with its invoice. -/
theorem course_run_invoicesReferring :
    ((Chain.select invoicesReferring).run salesClient).Course referringExchanges
      (.ok [Row.ofFields [("id", .str "1"), ("customer_id", .str "7"), ("customers", .null)]]) := by
  have hparse : Selection.parse "*, customers(ref:id, name)" =
      .ok ⟨"*", [referringRequest]⟩ := rfl
  -- The star stands for the key, so nothing is appended to the base list.
  have hensure : Selection.ensure ⟨"*", [referringRequest]⟩
      (salesClient.keyColumns "invoices" [referringRequest]) =
        (⟨"*", [referringRequest]⟩, []) := rfl
  have hcolumns : (Selection.columns ⟨"*", [referringRequest]⟩).map (List.map Column.sql) =
      .ok ["*"] := rfl
  have htable : (Ident.parse "invoices").map Ident.sql = .ok "invoices" := rfl
  have hname : Selection.parse referringRequest.columns = .ok ⟨"ref:id, name", []⟩ := rfl
  have hfound : salesClient.findRelation "invoices" referringRequest.table [referringRow] =
      .ok ⟨⟨"customer_id", .belongsTo⟩, .registered⟩ := rfl
  -- The renamed `id` counts as selected, so the lookup appends no key either.
  have hlookup :
      (Embed.Lookup.parts salesClient referringRequest (.ok ⟨"ref:id, name", []⟩) "id").map
        (fun p => (p.statement "customers" [.str "7"], p.helpers)) =
      .ok (⟨some "embed customers", "SELECT id AS ref, name FROM customers WHERE id IN (?)",
        [.str "7"]⟩, []) := rfl
  have hembed : (Embed.embedAll salesClient (.ofRequests [referringRequest]) "invoices"
      [referringRow]).Course (referringExchanges.drop 1)
      (.ok [Row.ofFields [("id", .str "1"), ("customer_id", .str "7"), ("customers", .null)]]) :=
    Embed.course_embedAll_answered hname hfound (List.cons_ne_nil _ _) hlookup rfl
  exact Chain.course_run_selectFrom hparse hensure hcolumns htable hembed

/-- The tree of the chain is registered. -/
theorem registered_invoicesReferring : (Chain.select invoicesReferring).tree =
      .cons referringRequest (.ok ⟨"ref:id, name", []⟩) .nil .nil ∧
    (Chain.select invoicesReferring).tree.Registered salesClient.relations "invoices" := by
  have hname : Selection.parse referringRequest.columns = .ok ⟨"ref:id, name", []⟩ := rfl
  have hrelations : (Chain.select invoicesReferring).relations = [referringRequest] := rfl
  rw [Chain.tree, hrelations, Nesting.ofRequests_cons_ok hname, Nesting.ofRequests_nil]
  exact ⟨rfl, ⟨_, rfl⟩, trivial, trivial⟩

/-- The columns of its lookup. -/
theorem exists_fetches_referring : ∃ columns,
    (Chain.select invoicesReferring).Fetches salesClient
      ⟨some "embed customers", "SELECT id AS ref, name FROM customers WHERE id IN (?)",
        [.str "7"]⟩ "customers" ⟨"ref:id, name", []⟩ (some "id") columns ∧
      columns.map Column.sql = ["id AS ref", "name"] := by
  obtain ⟨p, hparts, hstatement, hsqls⟩ : ∃ p,
      Embed.Lookup.parts salesClient referringRequest (.ok ⟨"ref:id, name", []⟩) "id" = .ok p ∧
      p.statement "customers" [.str "7"] = ⟨some "embed customers",
        "SELECT id AS ref, name FROM customers WHERE id IN (?)", [.str "7"]⟩ ∧
      p.columns.map Column.sql = ["id AS ref", "name"] := by
    refine ⟨_, rfl, ?_, ?_⟩ <;> rfl
  have hnode : ("invoices", referringRequest) ∈
      (Chain.select invoicesReferring).tree.nodes "invoices" := by
    rw [registered_invoicesReferring.1]
    exact List.mem_cons_self
  exact ⟨p.columns, .lookup hnode ⟨rfl,
    ⟨[referringRow], ⟨⟨"customer_id", .belongsTo⟩, .registered⟩, rfl, rfl⟩,
    p, [.str "7"], hparts, List.cons_ne_nil _ _, rfl, hstatement.symm⟩, hsqls⟩

/-- Not every statement offers the keys that are needed, though all pairs are registered. -/
theorem not_forall_keys_offered :
    ¬ ∀ (client : Client) (c : Chain) (es : List Exchange) (error? : Option Error),
      client.KeysAreNames → c.tree.Registered client.relations c.table →
      c.Ends client es error? → ∀ x ∈ es, ∀ table s matched? columns,
      c.Fetches client x.statement table s matched? columns →
      ∀ k, matched? = some k ∨ client.Needs table s k → Column.Offers columns k := by
  intro h
  have hends : (Chain.select invoicesReferring).Ends salesClient referringExchanges none :=
    Chain.ends_iff.2 ⟨_, .ok _, .inl rfl, course_run_invoicesReferring, rfl⟩
  obtain ⟨columns, hfetches, hsqls⟩ := exists_fetches_referring
  have hlookup : (⟨_, .ok [Row.ofFields [("ref", .str "7"), ("name", .str "Ada")]]⟩ : Exchange) ∈
      referringExchanges := List.mem_cons_of_mem _ List.mem_cons_self
  have hoffers := h _ _ _ _ keysAreNames_salesClient registered_invoicesReferring.2 hends _ hlookup
    _ _ _ _ hfetches "id" (.inl rfl)
  -- neither of the two columns is a star or the key
  have hmem := hoffers.mem_sqls
  rw [hsqls] at hmem
  revert hmem
  decide

end Graft
