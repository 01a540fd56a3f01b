/-
Graft/Proofs/Chain/Preorder.lean

How many statements a chain sends, and in which order.

The requests of a chain's select expression are the topmost nodes of a tree
(`Chain.tree`).  The chain sends its own statement first, if any, and after it
at most one lookup for each node, in preorder.  So the number of statements has
a bound that is known before anything is sent, and no reply can raise it: the
answer may have any number of rows.
-/
import Graft.Proofs.Chain.Sending
import Graft.Proofs.Embed.Preorder

namespace Graft

/-- The relations that a chain wants of its rows. -/
def Chain.relations (c : Chain) : List Request :=
  match c.wanted? with
  | some expr => relationsOf (Selection.parse expr)
  | none => []

/-- The tree of these relations, with all that is nested in them. -/
def Chain.tree (c : Chain) : Nesting :=
  .ofRequests c.relations

@[simp] theorem Chain.tree_forSingle (c : Chain) : c.forSingle.tree = c.tree := by
  rw [tree, tree, relations, relations, wanted?_forSingle]

section

variable {client : Client} {c : Chain} {plan : Plan} {rows : List Row} {later : List Exchange}
variable {r : Except Error (List Row)}

/-- What a plan wants is the tree of its chain. -/
theorem Chain.Plans.nesting_eq (h : c.Plans client plan) {projection : Projection}
    (hprojection : plan.projection? = some projection) : projection.nesting = c.tree := by
  obtain ⟨-, hnone⟩ | ⟨expr, projection', hexpr, hsome, hcompile⟩ := h.projection_of_wanted?
  · rw [hprojection] at hnone
    cases hnone
  · obtain rfl := Option.some.inj (hprojection.symm.trans hsome)
    obtain ⟨s, columns, hparse, -, rfl⟩ := Projection.compile_eq_ok_iff.1 hcompile
    have hrelations : c.relations = relationsOf (Selection.parse expr) := by
      rw [relations, hexpr]
    rw [tree, hrelations, hparse, relationsOf]

/-- Finishing the rows of an answer sends lookups for nodes of the tree, in preorder. -/
theorem Chain.Plans.exists_pruned_finish (h : c.Plans client plan)
    (hfinish : (plan.finish client rows).Course later r) :
    ∃ sent : Nesting, sent.Pruned c.tree ∧ Embed.LooksUpAll client sent later := by
  cases hprojection : plan.projection? with
  | none =>
    rw [((Plan.course_finish_none_iff hprojection).1 hfinish).1]
    exact ⟨.nil, c.tree.pruned_nil, .nil⟩
  | some projection =>
    obtain ⟨embedded, hembed, -⟩ := (Plan.course_finish_iff hprojection).1 hfinish
    rw [h.nesting_eq hprojection] at hembed
    exact Embed.exists_pruned_embedAll (Nesting.unfolded_ofRequests _) hembed

end

/-- `c.SendsInPreorder client es`: the statement of a plan of the chain is sent first, and then
lookups for the nodes of its tree, some of these left out with all that is nested in them, in
preorder. -/
def Chain.SendsInPreorder (client : Client) (c : Chain) (es : List Exchange) : Prop :=
  ∃ (c' : Chain) (plan : Plan) (reply : Reply) (later : List Exchange) (sent : Nesting),
    (c' = c ∨ c' = c.forSingle) ∧ c'.Plans client plan ∧
    es = ⟨plan.statement, reply⟩ :: later ∧
    sent.Pruned c.tree ∧ Embed.LooksUpAll client sent later

section

variable {client : Client} {c : Chain} {es : List Exchange} {error? : Option Error}

theorem Chain.Ends.sendsInPreorder (h : c.Ends client es error?) (hes : es ≠ []) :
    c.SendsInPreorder client es := by
  obtain ⟨c', plan, hc, hplan, ⟨e, rfl, -⟩ | ⟨rows, later, r, rfl, hfinish, -⟩⟩ :=
    (ends_sends_iff hes).1 h
  · exact ⟨c', plan, .error e, [], .nil, hc, hplan, rfl, c.tree.pruned_nil, .nil⟩
  · obtain ⟨sent, hpruned, hall⟩ := hplan.exists_pruned_finish hfinish
    have htree : c'.tree = c.tree := by
      obtain rfl | rfl := hc
      · rfl
      · exact c.tree_forSingle
    exact ⟨c', plan, .ok rows, later, sent, hc, hplan, rfl, htree ▸ hpruned, hall⟩

/-- Besides its own statement, a chain sends no more lookups than its tree has nodes. -/
theorem Chain.SendsInPreorder.length_le (h : c.SendsInPreorder client es) :
    es.length ≤ 1 + c.tree.size := by
  obtain ⟨_, _, _, later, sent, -, -, rfl, hpruned, hall⟩ := h
  have hlater : later.length = sent.size := by
    rw [← hall.length_eq, Nesting.length_preorder]
  have hsize := hpruned.size_le
  rw [List.length_cons, hlater]
  omega

/-- On every engine, a chain comes to an end, for all its rows and for a single one. -/
theorem Chain.ends_transcript {σ : Type} (client : Client) (c : Chain) (ex : Executor σ)
    (ids : Nat → String) (s : Session σ) :
    c.Ends client ((c.execute client).transcript ex ids s)
        ((c.execute client).run ex ids s).1.error? ∧
      c.Ends client ((c.executeSingle client).transcript ex ids s)
        ((c.executeSingle client).run ex ids s).1.error? :=
  ⟨.all (Dialogue.course_run ex ids _ s), .single (Dialogue.course_run ex ids _ s)⟩

/-- **One lookup for each relation, however many rows.**  A chain that sends anything sends its own
statement and then at most one lookup for each node of its tree, in preorder, whatever is replied;
and on every engine it comes to an end.  The tree is what comes of reading its expression and those
in its requests, and that ends because each of these is shorter than the one that it stands in. -/
theorem Chain.sends_in_preorder (client : Client) (c : Chain) :
    (∀ es error?, c.Ends client es error? →
      es.length ≤ 1 + c.tree.size ∧ (es = [] ∨ c.SendsInPreorder client es)) ∧
    (∀ (σ : Type) (ex : Executor σ) (ids : Nat → String) (s : Session σ),
      c.Ends client ((c.execute client).transcript ex ids s)
          ((c.execute client).run ex ids s).1.error? ∧
        c.Ends client ((c.executeSingle client).transcript ex ids s)
          ((c.executeSingle client).run ex ids s).1.error?) ∧
    c.tree.requests = c.relations ∧ c.tree.Unfolded ∧
    (∀ sent : Nesting, sent.Pruned c.tree → sent.preorder.Sublist c.tree.preorder) ∧
    (∀ expr s, Selection.parse expr = .ok s →
      ∀ request ∈ s.relations, request.columns.length < expr.length) ∧
    WellFounded Request.Nested := by
  refine ⟨fun es error? h => ?_, fun σ ex ids s => ends_transcript client c ex ids s,
    Nesting.requests_ofRequests _, Nesting.unfolded_ofRequests _,
    fun sent h => h.preorder_sublist,
    fun expr s h request hr => Selection.length_columns_lt_of_parse h hr,
    Request.wellFounded_nested⟩
  by_cases hes : es = []
  · exact ⟨by simp [hes], .inl hes⟩
  · have hsends := h.sendsInPreorder hes
    exact ⟨hsends.length_le, .inr hsends⟩

/-- The invoices with their buyers and the countries of these take three statements, which is as
many as there may be. -/
theorem Chain.sends_in_preorder_invoicesOfBuyers :
    (Chain.select invoicesOfBuyers).Ends salesClient buyersExchanges none ∧
      buyersExchanges.length ≤ 1 + (Chain.select invoicesOfBuyers).tree.size ∧
      (Chain.select invoicesOfBuyers).SendsInPreorder salesClient buyersExchanges := by
  have hends : (Chain.select invoicesOfBuyers).Ends salesClient buyersExchanges none :=
    ends_iff.2 ⟨_, .ok buyersAnswer, .inl rfl, course_run_invoicesOfBuyers, rfl⟩
  obtain ⟨hlength, hnil | hsends⟩ :=
    (Chain.sends_in_preorder salesClient (.select invoicesOfBuyers)).1 _ _ hends
  · cases hnil
  · exact ⟨hends, hlength, hsends⟩

end

end Graft
