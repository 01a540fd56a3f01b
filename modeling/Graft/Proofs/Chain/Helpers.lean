/-
Graft/Proofs/Chain/Helpers.lean

What taking out the helper columns leaves alone.

Columns that were appended for matching are taken out of the rows again.  A
column that was asked for is not among them, and so its cell is still there,
at every depth (`Chain.keeps_asked`): asked for are all columns, if a star is
among the items of the column list, and the columns that the items name.

There is one exception.  Whether a column has to be appended is found out by
looking for an item that is taken from it, or for a list that is nothing but a
star.  So the search overlooks a star that stands among other items, and a name
that is given to another column (`Selection.Overlooks`), and what was asked for
in these ways may be appended and then taken out
(`not_forall_asked_kept`).
-/
import Graft.Proofs.Chain.Stopping
import Graft.Proofs.Chain.Tiers
import Graft.Proofs.Selection.Items

namespace Graft

/-! ### What is asked for -/

namespace Selection

/-- The name that an item without blanks around it gives its column. -/
def nameOf (item : List Char) : List Char :=
  match Text.cut ':' item with
  | some (name, _) => Text.trim name
  | none => item

/-- The column list asks for a column: it has a star among its items, or an item of that name. -/
def Asks (s : Selection) (column : String) : Prop :=
  ['*'] ∈ listItems s.base ∨ ∃ item ∈ listItems s.base, nameOf item = column.toList

/-- The column list asks for a column in a way that is overlooked: no item is taken from it, but
there is a star that does not stand alone, or another column is given its name. -/
structure Overlooks (s : Selection) (column : String) : Prop where
  untaken : ∀ item ∈ listItems s.base, sourceOf item ≠ column.toList
  hidden : (['*'] ∈ listItems s.base ∧ 2 ≤ (listItems s.base).length) ∨
    ∃ item ∈ listItems s.base, ∃ name source, Text.cut ':' item = some (name, source) ∧
      Text.trim name = column.toList

/-- A column that was asked for and is appended all the same was overlooked. -/
theorem overlooks_of_mem_ensure {expr : String} {s : Selection} (h : parse expr = .ok s)
    {columns : List String} {column : String} (hmem : column ∈ (s.ensure columns).2)
    (hasks : s.Asks column) : s.Overlooks column := by
  have hnot := not_selects_of_mem_ensure hmem
  have huntaken : ∀ item ∈ listItems s.base, sourceOf item ≠ column.toList :=
    fun item hitem hsource => hnot (selects_of_mem_listItems hitem hsource)
  refine ⟨huntaken, ?_⟩
  rcases hasks with hstar | ⟨item, hitem, hname⟩
  · refine .inl ⟨hstar, ?_⟩
    -- if the star stood alone, the list would be a star and select everything
    cases hitems : listItems s.base with
    | nil =>
      rw [hitems] at hstar
      cases hstar
    | cons first rest =>
      cases rest with
      | nil =>
        rw [hitems, List.mem_singleton] at hstar
        rw [← hstar] at hitems
        exact absurd (selects_iff.2 (.inl (isStar_of_listItems h hitems))) hnot
      | cons second rest =>
        rw [List.length_cons, List.length_cons]
        omega
  · refine .inr ⟨item, hitem, ?_⟩
    cases hcut : Text.cut ':' item with
    | some cut =>
      rw [nameOf, hcut] at hname
      exact ⟨cut.1, cut.2, rfl, hname⟩
    | none =>
      -- an item without a colon is taken from the column that it names
      have hsource : sourceOf item = item := by
        obtain ⟨⟨p, -, rfl⟩, -⟩ := mem_itemTexts_iff.1 hitem
        rw [sourceOf, Text.trim_trim, hcut]
      rw [nameOf, hcut] at hname
      exact absurd (hsource.trans hname) (huntaken item hitem)

end Selection

/-! ### The law -/

/-- `t.Keeps s r`: the row is one of the reply with the fields of the requests set and the helper
columns taken out, and of what was asked for and not overlooked nothing is taken out: where the
engine answered with a cell, there still is one, and the same one unless a relation is embedded
under its name. -/
def Tier.Keeps (t : Tier) (s : Selection) (r : Row) : Prop :=
  ∃ q ∈ t.replied, ∃ cells : List (String × Value),
    cells.map (·.1) = s.relations.map Request.field ∧ r = (q.setAll cells).eraseAll t.helpers ∧
    ∀ column, s.Asks column → ¬ s.Overlooks column →
      column ∉ t.helpers ∧ (q.contains column = true → r.contains column = true) ∧
        (column ∉ s.relations.map Request.field → r.get? column = q.get? column)

section

variable {client : Client} {es : List Exchange}

theorem Account.Fills.fields_eq {a : Account} {cells : List (String × Value)} (h : a.Fills cells) :
    cells.map (·.1) = a.requests.map Request.field := by
  induction a generalizing cells with
  | nil =>
    rw [show cells = [] from h]
    rfl
  | cons request found replied related helpers inside rest _ ih =>
    obtain ⟨v, later, rfl, -, hlater⟩ := h
    rw [List.map_cons, ih hlater, requests, List.map_cons]

theorem Tier.Sound.keeps {t : Tier} {s : Selection} (h : t.Sound client es s) {r : Row}
    (hr : t.Has r) : t.Keeps s r := by
  obtain ⟨hrequests, q, hq, cells, hcells, rfl⟩ := h.exists_fills hr
  have hfields : cells.map (·.1) = s.relations.map Request.field := by
    rw [hcells.fields_eq, hrequests]
  refine ⟨q, hq, cells, hfields, rfl, fun column hasks hnot => ?_⟩
  -- A column that is asked for becomes a helper only where the selection overlooks it.
  have hhelper : column ∉ t.helpers := by
    intro hmem
    obtain ⟨matched?, hhelpers⟩ := h.helpers
    rw [hhelpers] at hmem
    exact hnot (Selection.overlooks_of_mem_ensure h.parse hmem hasks)
  refine ⟨hhelper, fun hcontains => ?_, fun hfield => ?_⟩
  · rw [Row.contains_iff] at hcontains ⊢
    rw [Row.keys_eraseAll]
    refine List.mem_filter.2 ⟨(q.keys_prefix_setAll cells).subset hcontains, ?_⟩
    simpa using hhelper
  -- No field has the name of the column, so no cell that is set later covers it.
  · have hnone : cells.reverse.lookup column = none := by
      rw [← hfields] at hfield
      rw [List.lookup_eq_none_iff]
      intro cell hcell
      have hne : column ≠ cell.1 := by
        rintro rfl
        exact hfield (List.mem_map_of_mem (List.mem_reverse.1 hcell))
      exact bne_iff_ne.2 hne
    rw [Row.get?_eraseAll, if_neg hhelper, Row.get?_setAll, hnone]
    rfl

/-- **What was asked for is kept**, unless it was overlooked.  A column that the column list of an
expression asks for is not among the columns that are appended to the list.  And if a chain of any
verb ends without an error, then at every depth, each row still has the cells that were asked for
and that the engine answered with. -/
theorem Chain.keeps_asked {c : Chain} :
    (∀ expr s columns column, Selection.parse expr = .ok s → s.Asks column →
      ¬ s.Overlooks column → column ∉ (s.ensure columns).2) ∧
    (∀ response, (c.execute client).Course es response → response.error? = none →
      ∃ rows, response = .ran (some rows) ∧ c.Everywhere client es rows Tier.Keeps) ∧
    ∀ response, (c.executeSingle client).Course es response → response.error? = none →
      ∃ rows : List Row, response = .ran rows.head? ∧
        c.forSingle.Everywhere client es rows Tier.Keeps :=
  ⟨fun _ _ _ _ hparse hasks hnot hmem =>
    hnot (Selection.overlooks_of_mem_ensure hparse hmem hasks),
    Chain.everywhere fun _ _ ht _ hr => ht.keeps hr⟩

end

/-- The total of the invoices was asked for and is no helper column, and it is kept in the row that
is left, as is the name of its buyer. -/
theorem Chain.keeps_asked_invoicesOfBuyers :
    ((Chain.select invoicesOfBuyers).execute salesClient).Course buyersExchanges
        (.ran (some buyersAnswer)) ∧
      "total" ∉ (Selection.ensure ⟨"total", [buyerRequest]⟩
        (salesClient.keyColumns "invoices" [buyerRequest])).2 ∧
      (Chain.select invoicesOfBuyers).Everywhere salesClient buyersExchanges buyersAnswer
        Tier.Keeps := by
  have hexecute : ((Chain.select invoicesOfBuyers).execute salesClient).Course buyersExchanges
      (.ran (some buyersAnswer)) :=
    course_execute_iff.2 ⟨.ok buyersAnswer, course_run_invoicesOfBuyers, rfl⟩
  obtain ⟨hstatic, hall, -⟩ :=
    @Chain.keeps_asked salesClient buyersExchanges (.select invoicesOfBuyers)
  obtain ⟨rows, hrows, hkept⟩ := hall _ hexecute rfl
  cases hrows
  refine ⟨hexecute, ?_, hkept⟩
  have hparse : Selection.parse "total, buyer:customers!inner(name, countries(code))" =
      .ok ⟨"total", [buyerRequest]⟩ := rfl
  have hitem : "total".toList ∈ Selection.listItems "total" := List.mem_cons_self
  have hasks : Selection.Asks ⟨"total", [buyerRequest]⟩ "total" := .inr ⟨_, hitem, rfl⟩
  exact hstatic _ _ _ "total" hparse hasks fun hover => hover.untaken _ hitem rfl

/-! ### A star among other items -/

/-- Invoices with all their columns, one of them under a second name, and their customers. -/
def invoicesStarred : SelectChain :=
  Chain.selectFrom "invoices" "*, amount:total, customers(name)"

/-- An invoice with all its columns. -/
def starredRow : Row :=
  Row.ofFields [("id", .str "1"), ("total", .str "5"), ("customer_id", .str "7"),
    ("amount", .str "5")]

/-- What the chain makes of it. -/
def starredAnswer : Row :=
  Row.ofFields [("total", .str "5"), ("amount", .str "5"),
    ("customers", .obj [("name", .str "Ada")])]

/-- The statement of the chain and its lookup, each answered with a row. -/
def starredExchanges : List Exchange :=
  [⟨⟨some "select invoices", "SELECT *, total AS amount, id, customer_id FROM invoices", []⟩,
      .ok [starredRow]⟩,
    ⟨⟨some "embed customers", "SELECT name, id FROM customers WHERE id IN (?)", [.str "7"]⟩,
      .ok [Row.ofFields [("name", .str "Ada"), ("id", .str "7")]]⟩]

theorem course_embed_starred :
    (Embed.embedAll salesClient (.ofRequests [customersRequest]) "invoices" [starredRow]).Course
      (starredExchanges.drop 1)
      (.ok [Row.ofFields [("id", .str "1"), ("total", .str "5"), ("customer_id", .str "7"),
        ("amount", .str "5"), ("customers", .obj [("name", .str "Ada")])]]) := by
  have hlookup : (Embed.Lookup.parts salesClient customersRequest (.ok ⟨"name", []⟩) "id").map
        (fun p => (p.statement "customers" [.str "7"], p.helpers)) =
      .ok (⟨some "embed customers", "SELECT name, id FROM customers WHERE id IN (?)",
        [.str "7"]⟩, ["id"]) := rfl
  have hname : Selection.parse customersRequest.columns = .ok ⟨"name", []⟩ := rfl
  have hfound : salesClient.findRelation "invoices" customersRequest.table [starredRow] =
      .ok ⟨⟨"customer_id", .belongsTo⟩, .registered⟩ := rfl
  exact Embed.course_embedAll_answered hname hfound (List.cons_ne_nil _ _) hlookup rfl

/-- The keys are among all columns, but are appended again and taken out. -/
theorem course_run_invoicesStarred :
    ((Chain.select invoicesStarred).run salesClient).Course starredExchanges
      (.ok [starredAnswer]) := by
  have hparse : Selection.parse "*, amount:total, customers(name)" =
      .ok ⟨"*, amount:total", [customersRequest]⟩ := rfl
  have hensure : Selection.ensure ⟨"*, amount:total", [customersRequest]⟩
      (salesClient.keyColumns "invoices" [customersRequest]) =
        (⟨"*, amount:total, id, customer_id", [customersRequest]⟩, ["id", "customer_id"]) := rfl
  have hcolumns :
      (Selection.columns ⟨"*, amount:total, id, customer_id", [customersRequest]⟩).map
        (List.map Column.sql) = .ok ["*", "total AS amount", "id", "customer_id"] := rfl
  have htable : (Ident.parse "invoices").map Ident.sql = .ok "invoices" := rfl
  exact Chain.course_run_selectFrom hparse hensure hcolumns htable course_embed_starred

/-- Not every column that a chain asks for, and that the engine answers with, is kept. -/
theorem not_forall_asked_kept :
    ¬ ∀ (client : Client) (c : Chain) (st : Statement) (replied rows : List Row)
      (later : List Exchange) (expr : String) (s : Selection), c.wanted? = some expr →
      Selection.parse expr = .ok s →
      (c.execute client).Course (⟨st, .ok replied⟩ :: later) (.ran (some rows)) →
      ∀ column, s.Asks column → (∀ q ∈ replied, q.contains column = true) →
        ∀ row ∈ rows, row.contains column = true := by
  intro h
  have hexecute : ((Chain.select invoicesStarred).execute salesClient).Course starredExchanges
      (.ran (some [starredAnswer])) :=
    Chain.course_execute_iff.2 ⟨_, course_run_invoicesStarred, rfl⟩
  have hparse : Selection.parse "*, amount:total, customers(name)" =
      .ok ⟨"*, amount:total", [customersRequest]⟩ := rfl
  have hasks : Selection.Asks ⟨"*, amount:total", [customersRequest]⟩ "id" :=
    .inl List.mem_cons_self
  have hreplied : ∀ q ∈ [starredRow], q.contains "id" = true := by
    intro q hq
    rw [List.mem_singleton.1 hq]
    decide
  -- So the engine sends the column, and the answer lacks it.
  have hcontains := h salesClient (.select invoicesStarred) _ [starredRow] _ _ _ _ rfl hparse
    hexecute "id" hasks hreplied starredAnswer List.mem_cons_self
  revert hcontains
  decide

end Graft
