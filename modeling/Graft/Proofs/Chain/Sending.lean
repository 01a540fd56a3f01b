/-
Graft/Proofs/Chain/Sending.lean

What a chain sends after its own statement.

A chain wants something of the rows that its statement is answered with
(`Chain.wanted?`), namely a select expression, and only a delete may want
nothing.  The plan of the chain has the projection of that expression
(`Chain.Plans.projection_of_wanted?`).  Finishing the rows is to embed the
nesting of the projection in them and to take the helper columns out again
(`Plan.course_finish_iff`), so whatever is sent after the chain's own
statement is sent by embedding.

One run is written out at the end, invoices with their buyers, which the laws
of whole chains take as their example.
-/
import Graft.Proofs.Chain.Compile
import Graft.Proofs.Chain.Plan

namespace Graft

/-! ### What is wanted of a chain's rows -/

/-- The table of a chain. -/
def Chain.table : Chain → String
  | .select c => c.table
  | .insert c => c.table
  | .upsert c => c.table
  | .update c => c.table
  | .delete c => c.table

/-- The select expression for the rows of a chain's statement; a delete may want none of them. -/
def Chain.wanted? : Chain → Option String
  | .select c => some c.columns
  | .insert c => some c.returning
  | .upsert c => some c.returning
  | .update c => some c.returning
  | .delete c => c.returning?

@[simp] theorem Chain.table_forSingle (c : Chain) : c.forSingle.table = c.table := by
  cases c <;> rfl

@[simp] theorem Chain.wanted?_forSingle (c : Chain) : c.forSingle.wanted? = c.wanted? := by
  cases c <;> rfl

section

variable {client : Client} {c : Chain} {plan : Plan}

/-- A plan is for the table of its chain. -/
theorem Chain.Plans.table_eq (h : c.Plans client plan) : plan.table = c.table := by
  cases h <;> rfl

/-- The plan of a chain has the projection of what the chain wants, if it wants anything. -/
theorem Chain.Plans.projection_of_wanted? (h : c.Plans client plan) :
    (c.wanted? = none ∧ plan.projection? = none) ∨
      ∃ expr projection, c.wanted? = some expr ∧ plan.projection? = some projection ∧
        Projection.compile client c.table expr = .ok projection := by
  -- Every verb but a delete reads rows back in any case.
  cases h with
  | select _ _ hcompile =>
    obtain ⟨_, _, _, hprojection, -⟩ := SelectChain.compile_eq_ok_iff.1 hcompile
    exact .inr ⟨_, _, rfl, rfl, hprojection⟩
  | insert _ _ _ hcompile =>
    obtain ⟨_, hprojection, -⟩ := InsertChain.compile_eq_ok_iff.1 hcompile
    exact .inr ⟨_, _, rfl, rfl, hprojection⟩
  | upsert _ _ _ _ hcompile =>
    obtain ⟨_, _, _, -, -, -, hprojection, -⟩ := UpsertChain.compile_eq_ok_iff.1 hcompile
    exact .inr ⟨_, _, rfl, rfl, hprojection⟩
  | update _ _ _ _ hcompile =>
    obtain ⟨_, _, _, hprojection, -⟩ := UpdateChain.compile_eq_ok_iff.1 hcompile
    exact .inr ⟨_, _, rfl, rfl, hprojection⟩
  | @delete c _ projection? _ _ _ hcompile =>
    obtain ⟨_, _, -, -, hprojection, -⟩ := DeleteChain.compile_eq_ok_iff.1 hcompile
    rw [DeleteChain.projection?] at hprojection
    split at hprojection
    · next expr hexpr =>
      cases hp : Projection.compile client c.table expr with
      | error v => rw [hp] at hprojection; cases hprojection
      | ok p =>
        rw [hp] at hprojection
        cases hprojection
        exact .inr ⟨expr, p, hexpr, rfl, hp⟩
    · next hnone =>
      cases hprojection
      exact .inl ⟨hnone, rfl⟩

theorem Chain.Plans.exists_projection (h : c.Plans client plan) {expr : String}
    (hwanted : c.wanted? = some expr) :
    ∃ projection, plan.projection? = some projection ∧
      Projection.compile client c.table expr = .ok projection := by
  obtain ⟨hnone, -⟩ | ⟨expr', projection, hexpr, hprojection, hcompile⟩ := h.projection_of_wanted?
  · rw [hwanted] at hnone
    cases hnone
  · rw [hwanted] at hexpr
    cases hexpr
    exact ⟨projection, hprojection, hcompile⟩

end

/-! ### Finishing rows -/

section

variable {client : Client} {p : Plan} {rows : List Row} {es : List Exchange}
variable {r : Except Error (List Row)}

/-- Rows are finished by embedding in them, and by taking the helper columns out. -/
theorem Plan.course_finish_iff {projection : Projection} (h : p.projection? = some projection) :
    (p.finish client rows).Course es r ↔
      ∃ embedded, (Embed.embedAll client projection.nesting p.table rows).Course es embedded ∧
        r = embedded.map fun rows => rows.map (·.eraseAll projection.helpers) := by
  rw [finish, h]
  exact Action.course_bind_pure_iff

/-- Rows of which nothing is wanted are left out. -/
theorem Plan.course_finish_none_iff (h : p.projection? = none) :
    (p.finish client rows).Course es r ↔ es = [] ∧ r = .ok [] := by
  rw [finish, h]
  exact Action.course_pure_iff

/-- Finishing the rows of a statement sends nothing but lookups. -/
theorem Plan.isLookup_of_course_finish (h : (p.finish client rows).Course es r) :
    ∀ x ∈ es, Embed.IsLookup x.statement := by
  cases hprojection : p.projection? with
  | none =>
    rw [((course_finish_none_iff hprojection).1 h).1]
    intro x hx
    cases hx
  | some projection =>
    obtain ⟨embedded, hembed, -⟩ := (course_finish_iff hprojection).1 h
    exact Embed.isLookup_of_course_embedAll hembed

/-- **What a chain sends.**  Whether it is run for all its rows or for a single one, a chain that
sends anything has come to a plan.  The statement of the plan is sent first; if it is answered with
rows, the chain goes on to finish these. -/
theorem Chain.ends_sends_iff {c : Chain} {error? : Option Error} (hes : es ≠ []) :
    c.Ends client es error? ↔
      ∃ c' plan, (c' = c ∨ c' = c.forSingle) ∧ c'.Plans client plan ∧
        ((∃ e, es = [⟨plan.statement, .error e⟩] ∧ error? = some e) ∨
          ∃ rows later r, es = ⟨plan.statement, .ok rows⟩ :: later ∧
            (plan.finish client rows).Course later r ∧
            error? = (Response.ofExcept r).error?) := by
  rw [ends_iff]
  constructor
  · rintro ⟨c', r, hc, hrun, rfl⟩
    obtain ⟨plan, hplan, hcarry⟩ := (course_run_iff hes).1 hrun
    refine ⟨c', plan, hc, hplan, ?_⟩
    obtain ⟨e, rfl, rfl⟩ | ⟨rows, later, rfl, hfinish⟩ := Plan.course_carryOut_iff.1 hcarry
    · exact .inl ⟨e, rfl, rfl⟩
    · exact .inr ⟨rows, later, r, rfl, hfinish, rfl⟩
  · rintro ⟨c', plan, hc, hplan, ⟨e, rfl, rfl⟩ | ⟨rows, later, r, rfl, hfinish, rfl⟩⟩
    · exact ⟨c', .error e, hc, (course_run_iff hes).2 ⟨plan, hplan,
        Plan.course_carryOut_iff.2 (.inl ⟨e, rfl, rfl⟩)⟩, rfl⟩
    · exact ⟨c', r, hc, (course_run_iff hes).2 ⟨plan, hplan,
        Plan.course_carryOut_iff.2 (.inr ⟨rows, later, rfl, hfinish⟩)⟩, rfl⟩

end

/-! ### A select of which nothing else is said -/

/-- A select of which nothing else is said comes to the plan of its columns. -/
theorem Chain.plans_selectFrom {client : Client} {table expr : String} {s full : Selection}
    {helpers : List String} {columns : List Column} {ident : Ident}
    (hparse : Selection.parse expr = .ok s)
    (hensure : s.ensure (client.keyColumns table s.relations) = (full, helpers))
    (hcolumns : full.columns = .ok columns) (htable : Ident.parse table = .ok ident) :
    (Chain.select (selectFrom table expr)).Plans client
      ⟨.select columns ident [] [] none, "select " ++ table, table,
        some ⟨columns, .ofRequests s.relations, helpers⟩⟩ := by
  have hprojection : Projection.compile client table expr =
      .ok ⟨columns, .ofRequests s.relations, helpers⟩ :=
    Projection.compile_eq_ok_iff.2 ⟨s, columns, hparse, by rw [hensure]; exact hcolumns,
      by rw [hensure]⟩
  have hcompile : (selectFrom table expr).compile client =
      .ok (.select columns ident [] [] none, _) :=
    SelectChain.compile_eq_ok_iff.2 ⟨[], ident, [], hprojection, rfl, htable, rfl, rfl⟩
  exact .select rfl rfl hcompile

/-- Such a select sends its statement and embeds its relations in the rows of the answer. -/
theorem Chain.course_run_selectFrom {client : Client} {table expr tableSql : String}
    {s full : Selection} {helpers columnSqls : List String} {replied : List Row}
    {later : List Exchange} {embedded : Except Error (List Row)}
    (hparse : Selection.parse expr = .ok s)
    (hensure : s.ensure (client.keyColumns table s.relations) = (full, helpers))
    (hcolumnSqls : full.columns.map (List.map Column.sql) = .ok columnSqls)
    (htableSql : (Ident.parse table).map Ident.sql = .ok tableSql)
    (hembed : (Embed.embedAll client (.ofRequests s.relations) table replied).Course later
      embedded) :
    ((Chain.select (selectFrom table expr)).run client).Course
      (⟨⟨some ("select " ++ table), "SELECT " ++ ", ".intercalate columnSqls ++ " FROM " ++
          tableSql, []⟩, .ok replied⟩ :: later)
      (embedded.map fun rows => rows.map (·.eraseAll helpers)) := by
  obtain ⟨columns, hcolumns, rfl⟩ := map_eq_ok_iff.1 hcolumnSqls
  obtain ⟨ident, htable, rfl⟩ := map_eq_ok_iff.1 htableSql
  have hsql : (Query.select columns ident [] [] none).sql =
      "SELECT " ++ ", ".intercalate (columns.map Column.sql) ++ " FROM " ++ ident.sql ++
        "" ++ "" ++ "" := rfl
  simp only [String.append_empty] at hsql
  refine (course_run_iff (List.cons_ne_nil _ _)).2
    ⟨_, plans_selectFrom hparse hensure hcolumns htable, ?_⟩
  refine Plan.course_carryOut_iff.2 (.inr ⟨replied, later, ?_, ?_⟩)
  · rw [Plan.statement, Query.statement, hsql]
    rfl
  · exact (Plan.course_finish_iff rfl).2 ⟨embedded, hembed, rfl⟩

/-! ### Invoices with their buyers -/

/-- Invoices are bought by customers, and customers live in countries. -/
def salesClient : Client where
  relations := (({} : Relations).belongsTo "invoices" "customers" "customer_id").belongsTo
    "customers" "countries" "country_id"

/-- The invoices that have a buyer, each with its buyer and the buyer's country. -/
def invoicesOfBuyers : SelectChain :=
  Chain.selectFrom "invoices" "total, buyer:customers!inner(name, countries(code))"

/-- The requests of the chain, the second nested in the first. -/
def buyerRequest : Request where
  table := "customers"
  alias? := some "buyer"
  columns := "name, countries(code)"
  inner := true

@[inherit_doc buyerRequest]
def countriesRequest : Request where
  table := "countries"
  alias? := none
  columns := "code"
  inner := false

/-- Two invoices, of which the second has no buyer. -/
def invoiceRows : List Row :=
  [Row.ofFields [("total", .str "5"), ("id", .str "1"), ("customer_id", .str "7")],
    Row.ofFields [("total", .str "6"), ("id", .str "2"), ("customer_id", .null)]]

/-- The buyer of the first. -/
def customerRows : List Row :=
  [Row.ofFields [("name", .str "Ada"), ("id", .str "7"), ("country_id", .str "9")]]

/-- The country of the buyer. -/
def countryRows : List Row :=
  [Row.ofFields [("code", .str "EE"), ("id", .str "9")]]

/-- The statement of the chain and its two lookups, with these rows in reply. -/
def buyersExchanges : List Exchange :=
  [⟨⟨some "select invoices", "SELECT total, id, customer_id FROM invoices", []⟩,
      .ok invoiceRows⟩,
    ⟨⟨some "embed customers", "SELECT name, id, country_id FROM customers WHERE id IN (?)",
      [.str "7"]⟩, .ok customerRows⟩,
    ⟨⟨some "embed countries", "SELECT code, id FROM countries WHERE id IN (?)", [.str "9"]⟩,
      .ok countryRows⟩]

/-- What the chain answers with then. -/
def buyersAnswer : List Row :=
  [Row.ofFields [("total", .str "5"),
    ("buyer", .obj [("name", .str "Ada"), ("countries", .obj [("code", .str "EE")])])]]

/-- The lookup of the buyers, with what is nested in it. -/
theorem course_embed_buyers :
    (Embed.embedAll salesClient (.ofRequests [buyerRequest]) "invoices" invoiceRows).Course
      (buyersExchanges.drop 1)
      (.ok [Row.ofFields [("total", .str "5"), ("id", .str "1"), ("customer_id", .str "7"),
        ("buyer", .obj [("name", .str "Ada"), ("countries", .obj [("code", .str "EE")])])]]) := by
  obtain ⟨customers, hcustomers, hcustomersStatement, hcustomersHelpers⟩ : ∃ parts,
      Embed.Lookup.parts salesClient buyerRequest (.ok ⟨"name", [countriesRequest]⟩) "id" =
        .ok parts ∧
      parts.statement "customers" [.str "7"] = ⟨some "embed customers",
        "SELECT name, id, country_id FROM customers WHERE id IN (?)", [.str "7"]⟩ ∧
      parts.helpers = ["id", "country_id"] := by
    refine ⟨_, rfl, ?_, ?_⟩ <;> rfl
  have hcountries :
      (Embed.Lookup.parts salesClient countriesRequest (.ok ⟨"code", []⟩) "id").map
        (fun p => (p.statement "countries" [.str "9"], p.helpers)) =
      .ok (⟨some "embed countries", "SELECT code, id FROM countries WHERE id IN (?)",
        [.str "9"]⟩, ["id"]) := rfl
  have hbuyer : Selection.parse buyerRequest.columns = .ok ⟨"name", [countriesRequest]⟩ := rfl
  have hcountry : Selection.parse countriesRequest.columns = .ok ⟨"code", []⟩ := rfl
  have hfoundBuyer : salesClient.findRelation "invoices" buyerRequest.table invoiceRows =
      .ok ⟨⟨"customer_id", .belongsTo⟩, .registered⟩ := rfl
  have hfoundCountry : salesClient.findRelation "customers" countriesRequest.table customerRows =
      .ok ⟨⟨"country_id", .belongsTo⟩, .registered⟩ := rfl
  -- From the inside out: the countries of the fetched customers, then the customers.
  have hinside : (Embed.embedAll salesClient (.ofRequests [countriesRequest]) "customers"
      customerRows).Course (buyersExchanges.drop 2)
      (.ok [Row.ofFields [("name", .str "Ada"), ("id", .str "7"), ("country_id", .str "9"),
        ("countries", .obj [("code", .str "EE")])]]) :=
    Embed.course_embedAll_answered hcountry hfoundCountry (List.cons_ne_nil _ _) hcountries rfl
  rw [Nesting.ofRequests_cons_ok hbuyer, Nesting.ofRequests_nil, Embed.embedAll_singleton]
  refine Embed.course_embedOne_answered hfoundBuyer (List.cons_ne_nil _ _) hcustomers
    hcustomersStatement hinside ?_
  rw [hcustomersHelpers]
  rfl

/-- The invoice without a buyer is dropped; the other is given its buyer, and the keys are gone. -/
theorem course_run_invoicesOfBuyers :
    ((Chain.select invoicesOfBuyers).run salesClient).Course buyersExchanges
      (.ok buyersAnswer) := by
  have hparse : Selection.parse "total, buyer:customers!inner(name, countries(code))" =
      .ok ⟨"total", [buyerRequest]⟩ := rfl
  have hensure : Selection.ensure ⟨"total", [buyerRequest]⟩
      (salesClient.keyColumns "invoices" [buyerRequest]) =
        (⟨"total, id, customer_id", [buyerRequest]⟩, ["id", "customer_id"]) := rfl
  have hcolumns : (Selection.columns ⟨"total, id, customer_id", [buyerRequest]⟩).map
      (List.map Column.sql) = .ok ["total", "id", "customer_id"] := rfl
  have htable : (Ident.parse "invoices").map Ident.sql = .ok "invoices" := rfl
  exact Chain.course_run_selectFrom hparse hensure hcolumns htable course_embed_buyers

end Graft
