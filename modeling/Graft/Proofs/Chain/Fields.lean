/-
Graft/Proofs/Chain/Fields.lean

Which relations reach the output.

A row has a cell under the field of each request of its tier, and that cell
holds what the last request with this field hands out: a row or null where the
rows belong to it, a list of rows where they have many.  This is so at every
depth, whatever the engine replies (`Chain.relations_shown`).

There is one exception.  The helper columns are taken out of a row by their
names, after its relations were embedded.  So a relation whose field goes by
the name of a helper column is looked up and embedded, and then lost
(`not_forall_fields_shown`): a foreign key cannot be expanded in its place
unless it is selected as well.
-/
import Graft.Proofs.Chain.Tiers

namespace Graft

/-! ### The law -/

/-- `t.Resolves client s field served`: the last request with that field is `served`, for the
relation that was found when the rows of the tier were known so far. -/
structure Tier.Resolves (client : Client) (t : Tier) (s : Selection) (field : String)
    (served : Served) : Prop where
  last : s.relations.reverse.find? (fun r => r.field == field) = some served.request
  accounted : t.account.last? field = some served
  found : ∃ known, client.findRelation t.table served.request.table known = .ok served.found

/-- `t.Shows client s r`: under the field of each request stands what the last request with that
field hands out, a row or null or a list of rows according to its relation; except that nothing
stands there if the field goes by the name of a helper column. -/
def Tier.Shows (client : Client) (t : Tier) (s : Selection) (r : Row) : Prop :=
  ∀ request ∈ s.relations,
    if request.field ∈ t.helpers then r.get? request.field = none
    else ∃ served v, t.Resolves client s request.field served ∧ r.get? request.field = some v ∧
      v.HandsOut served.tier.Has served.found.relation.kind

section

variable {client : Client} {es : List Exchange}

/-- On a tier that has rows, each field was resolved by the last request that has it. -/
theorem Tier.Sound.exists_resolves {t : Tier} {s : Selection} (h : t.Sound client es s) {r : Row}
    (hr : t.Has r) {request : Request} (hrequest : request ∈ s.relations) :
    ∃ served, t.Resolves client s request.field served := by
  obtain ⟨hrequests, -⟩ := h.exists_fills hr
  have hlast := t.account.request_last? request.field
  rw [hrequests] at hlast
  cases hserved : t.account.last? request.field with
  | none =>
    rw [hserved] at hlast
    have hnone := List.find?_eq_none.1 hlast.symm request (List.mem_reverse.2 hrequest)
    exact absurd (beq_self_eq_true request.field) hnone
  | some served =>
    rw [hserved] at hlast
    obtain ⟨later, -, htells⟩ := h.tells
    obtain ⟨hfound, -⟩ := htells.exists_sound (Nesting.unfolded_ofRequests _) hserved
    exact ⟨served, hlast.symm, hserved, hfound⟩

theorem Tier.Sound.shows {t : Tier} {s : Selection} (h : t.Sound client es s) {r : Row}
    (hr : t.Has r) : t.Shows client s r := by
  intro request hrequest
  split
  · next hhelper =>
    obtain ⟨-, q, -, cells, -, rfl⟩ := h.exists_fills hr
    rw [Row.get?_eraseAll, if_pos hhelper]
  · next hhelper =>
    obtain ⟨served, hserved⟩ := h.exists_resolves hr hrequest
    obtain ⟨v, hv, hout⟩ := h.exists_get? hr hserved.accounted hhelper
    exact ⟨served, v, hserved, hv, hout⟩

/-- **Requested relations reach the output**, unless they go by the name of a helper column.  If a
chain of any verb ends without an error, then at every depth, each row has a cell under the field of
each request of its tier, with what the last request with this field hands out; only where the field
is that of a helper column is there none. -/
theorem Chain.relations_shown {c : Chain} :
    (∀ response, (c.execute client).Course es response → response.error? = none →
      ∃ rows, response = .ran (some rows) ∧ c.Everywhere client es rows (Tier.Shows client)) ∧
    ∀ response, (c.executeSingle client).Course es response → response.error? = none →
      ∃ rows : List Row, response = .ran rows.head? ∧
        c.forSingle.Everywhere client es rows (Tier.Shows client) :=
  Chain.everywhere fun _ _ ht _ hr => ht.shows hr

end

/-- The one row that is left of the invoices has its buyer, with the buyer's country. -/
theorem Chain.relations_shown_invoicesOfBuyers :
    ((Chain.select invoicesOfBuyers).execute salesClient).Course buyersExchanges
        (.ran (some buyersAnswer)) ∧
      (Chain.select invoicesOfBuyers).Everywhere salesClient buyersExchanges buyersAnswer
        (Tier.Shows salesClient) := by
  have hexecute : ((Chain.select invoicesOfBuyers).execute salesClient).Course buyersExchanges
      (.ran (some buyersAnswer)) :=
    course_execute_iff.2 ⟨.ok buyersAnswer, course_run_invoicesOfBuyers, rfl⟩
  obtain ⟨rows, hrows, hshown⟩ := Chain.relations_shown.1 _ hexecute rfl
  cases hrows
  exact ⟨hexecute, hshown⟩

/-! ### A key expanded in its place -/

/-- Invoices with their customers under the name of the foreign key. -/
def invoicesExpanded : SelectChain :=
  Chain.selectFrom "invoices" "number, customer_id:customers(name)"

/-- The request of the chain. -/
def expandedRequest : Request where
  table := "customers"
  alias? := some "customer_id"
  columns := "name"
  inner := false

/-- The statement of the chain and its lookup, each answered with a row. -/
def expandedExchanges : List Exchange :=
  [⟨⟨some "select invoices", "SELECT number, id, customer_id FROM invoices", []⟩,
      .ok [Row.ofFields [("number", .str "70"), ("id", .str "1"), ("customer_id", .str "7")]]⟩,
    ⟨⟨some "embed customers", "SELECT name, id FROM customers WHERE id IN (?)", [.str "7"]⟩,
      .ok [Row.ofFields [("name", .str "Ada"), ("id", .str "7")]]⟩]

/-- The customer is looked up and takes the place of the key. -/
theorem course_embed_expanded :
    (Embed.embedAll salesClient (.ofRequests [expandedRequest]) "invoices"
      [Row.ofFields [("number", .str "70"), ("id", .str "1"), ("customer_id", .str "7")]]).Course
      (expandedExchanges.drop 1)
      (.ok [Row.ofFields [("number", .str "70"), ("id", .str "1"),
        ("customer_id", .obj [("name", .str "Ada")])]]) := by
  have hlookup : (Embed.Lookup.parts salesClient expandedRequest (.ok ⟨"name", []⟩) "id").map
        (fun p => (p.statement "customers" [.str "7"], p.helpers)) =
      .ok (⟨some "embed customers", "SELECT name, id FROM customers WHERE id IN (?)",
        [.str "7"]⟩, ["id"]) := rfl
  have hname : Selection.parse expandedRequest.columns = .ok ⟨"name", []⟩ := rfl
  have hfound : salesClient.findRelation "invoices" expandedRequest.table
      [Row.ofFields [("number", .str "70"), ("id", .str "1"), ("customer_id", .str "7")]] =
        .ok ⟨⟨"customer_id", .belongsTo⟩, .registered⟩ := rfl
  exact Embed.course_embedAll_answered hname hfound (List.cons_ne_nil _ _) hlookup rfl

/-- The key was not asked for, so what stands under its name is taken out in the end. -/
theorem course_run_invoicesExpanded :
    ((Chain.select invoicesExpanded).run salesClient).Course expandedExchanges
      (.ok [Row.ofFields [("number", .str "70")]]) := by
  have hparse : Selection.parse "number, customer_id:customers(name)" =
      .ok ⟨"number", [expandedRequest]⟩ := rfl
  have hensure : Selection.ensure ⟨"number", [expandedRequest]⟩
      (salesClient.keyColumns "invoices" [expandedRequest]) =
        (⟨"number, id, customer_id", [expandedRequest]⟩, ["id", "customer_id"]) := rfl
  have hcolumns : (Selection.columns ⟨"number, id, customer_id", [expandedRequest]⟩).map
      (List.map Column.sql) = .ok ["number", "id", "customer_id"] := rfl
  have htable : (Ident.parse "invoices").map Ident.sql = .ok "invoices" := rfl
  exact Chain.course_run_selectFrom hparse hensure hcolumns htable course_embed_expanded

/-- Not every relation that is requested of a chain's rows reaches them. -/
theorem not_forall_fields_shown :
    ¬ ∀ (client : Client) (c : Chain) (es : List Exchange) (rows : List Row) (expr : String)
      (s : Selection), c.wanted? = some expr → Selection.parse expr = .ok s →
      (c.execute client).Course es (.ran (some rows)) →
      ∀ row ∈ rows, ∀ request ∈ s.relations, row.contains request.field = true := by
  intro h
  have hexecute : ((Chain.select invoicesExpanded).execute salesClient).Course expandedExchanges
      (.ran (some [Row.ofFields [("number", .str "70")]])) :=
    Chain.course_execute_iff.2 ⟨_, course_run_invoicesExpanded, rfl⟩
  have hparse : Selection.parse "number, customer_id:customers(name)" =
      .ok ⟨"number", [expandedRequest]⟩ := rfl
  have hcontains := h salesClient (.select invoicesExpanded) expandedExchanges _ _ _ rfl hparse
    hexecute _ List.mem_cons_self expandedRequest List.mem_cons_self
  revert hcontains
  decide

end Graft
