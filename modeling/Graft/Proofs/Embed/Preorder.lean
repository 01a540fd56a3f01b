/-
Graft/Proofs/Embed/Preorder.lean

Which lookups embedding sends, and in which order.

The expression in a request is a select expression again, so the requests of
an expression are the topmost nodes of a tree; what comes of reading it all the
way down is a `Nesting` (`Nesting.Unfolded`).  There is an end to it because an
expression is longer than those in its requests (`length_columns_lt_of_parse`).

Embedding goes through the tree in preorder, and sends one lookup for a node,
or leaves it out, with all that is nested in it.  So the nodes of which
something is sent make up a pruned tree,

    t.Pruned n      t is n without some of its nodes, each left out with
                    all that is nested in it

and the lookups are those of its nodes, in preorder.  How many rows there are
does not come into it.
-/
import Graft.Proofs.Embed.Frame

namespace Graft

/-! ### Nested expressions -/

/-- The relations of a selection; an expression that cannot be read has none. -/
def relationsOf : Except Violation Selection → List Request
  | .ok s => s.relations
  | .error _ => []

theorem Selection.length_lt_weight {r : Request} {rs : List Request} (h : r ∈ rs) :
    r.columns.length < weight rs := by
  induction rs with
  | nil => cases h
  | cons r' rs ih =>
    rw [weight_cons]
    rcases List.mem_cons.1 h with rfl | h
    · omega
    · have := ih h
      omega

/-- The expression in a request is shorter than the one that the request stands in. -/
theorem Selection.length_columns_lt_of_parse {expr : String} {s : Selection}
    (h : parse expr = .ok s) {r : Request} (hr : r ∈ s.relations) :
    r.columns.length < expr.length :=
  Nat.lt_of_lt_of_le (length_lt_weight hr) (weight_relations_le h)

/-- One request stands in the expression of another. -/
def Request.Nested (r outer : Request) : Prop :=
  r ∈ relationsOf (Selection.parse outer.columns)

/-- There is an end to requests in requests. -/
theorem Request.wellFounded_nested : WellFounded Request.Nested := by
  refine Subrelation.wf ?_ (measure fun r : Request => r.columns.length).wf
  intro r outer h
  rw [Nested] at h
  cases hparse : Selection.parse outer.columns with
  | error v => rw [hparse] at h; cases h
  | ok s =>
    rw [hparse] at h
    exact Selection.length_columns_lt_of_parse hparse h

namespace Nesting

/-! ### Trees of requests -/

/-- Every request stands with the selection that its expression is, and the relations of that
selection are what is nested in it. -/
def Unfolded : Nesting → Prop
  | .nil => True
  | .cons request selection inside rest =>
    selection = Selection.parse request.columns ∧ inside.requests = relationsOf selection ∧
      inside.Unfolded ∧ rest.Unfolded

theorem unfolded_ofRequests (rs : List Request) : (ofRequests rs).Unfolded := by
  -- on the reading of expressions all the way down
  induction rs using ofRequests.induct with
  | case1 =>
    rw [ofRequests_nil]
    trivial
  | case2 r rest v hparse ih =>
    rw [ofRequests_cons_error hparse]
    exact ⟨hparse.symm, rfl, trivial, ih⟩
  | case3 r rest s hparse ihinside ihrest =>
    rw [ofRequests_cons_ok hparse]
    exact ⟨hparse.symm, requests_ofRequests s.relations, ihinside, ihrest⟩

/-- The requests at all levels, each before those that are nested in it. -/
def preorder : Nesting → List Request
  | .nil => []
  | .cons request _ inside rest => request :: (inside.preorder ++ rest.preorder)

theorem length_preorder (n : Nesting) : n.preorder.length = n.size := by
  induction n with
  | nil => rfl
  | cons request selection inside rest ihinside ihrest =>
    rw [preorder, size, List.length_cons, List.length_append, ihinside, ihrest]

/-- `t.Pruned n`: the nesting `t` is `n` without some requests, each left out with all that is
nested in it. -/
inductive Pruned : Nesting → Nesting → Prop
  | nil : Pruned .nil .nil
  | drop {t rest : Nesting} (request : Request) (selection : Except Violation Selection)
      (inside : Nesting) (hrest : Pruned t rest) :
      Pruned t (.cons request selection inside rest)
  | keep {t u inside rest : Nesting} (request : Request) (selection : Except Violation Selection)
      (hinside : Pruned t inside) (hrest : Pruned u rest) :
      Pruned (.cons request selection t u) (.cons request selection inside rest)

/-- All requests may be left out. -/
theorem pruned_nil (n : Nesting) : Pruned .nil n := by
  induction n with
  | nil => exact .nil
  | cons request selection inside rest _ ih => exact .drop request selection inside ih

/-- What is left stays in order. -/
theorem Pruned.preorder_sublist {t n : Nesting} (h : Pruned t n) :
    t.preorder.Sublist n.preorder := by
  induction h with
  | nil => exact List.Sublist.refl _
  | drop request selection inside _ ih => exact (ih.trans (List.sublist_append_right _ _)).cons _
  | keep request selection _ _ ihinside ihrest => exact (ihinside.append ihrest).cons_cons _

theorem Pruned.size_le {t n : Nesting} (h : Pruned t n) : t.size ≤ n.size := by
  rw [← length_preorder, ← length_preorder]
  exact h.preorder_sublist.length_le

end Nesting

namespace Embed

/-! ### Lookups in preorder -/

/-- The statement looks up the rows of a request, with the columns of its expression. -/
def LooksUp (client : Client) (request : Request) (st : Statement) : Prop :=
  ∃ (column : String) (parts : Lookup.Parts) (keys : List Value),
    Lookup.parts client request (Selection.parse request.columns) column = .ok parts ∧
      keys ≠ [] ∧ st = parts.statement request.table keys

/-- The statements look up the requests of a nesting, one after the other, in preorder. -/
def LooksUpAll (client : Client) (n : Nesting) (es : List Exchange) : Prop :=
  List.Forall₂ (fun request x => LooksUp client request x.statement) n.preorder es

variable {client : Client} {request : Request} {inside : List Row → Action (List Row)}

/-- Gathering sends nothing, or first the lookup of the request and then what is sent inside it. -/
theorem Gathers.sends {column : String} {keys : List Value} {es : List Exchange}
    {g : Except Error Gathered}
    (h : Gathers client request (Selection.parse request.columns) inside column keys es g) :
    es = [] ∨ ∃ x later, es = x :: later ∧ LooksUp client request x.statement ∧
      (later = [] ∨ ∃ replied nested, (inside replied).Course later nested) := by
  cases h with
  | nothing => exact .inl rfl
  | refused => exact .inl rfl
  | failed e hparts =>
    exact .inr ⟨_, [], rfl, ⟨column, _, _, hparts, List.cons_ne_nil _ _, rfl⟩, .inl rfl⟩
  | answered hparts hinside =>
    exact .inr ⟨_, _, rfl, ⟨column, _, _, hparts, List.cons_ne_nil _ _, rfl⟩,
      .inr ⟨_, _, hinside⟩⟩

/-- The lookups of one relation with all that is nested in it, in front of those of the others. -/
theorem exists_pruned_cons {owner : String} {rows : List Row} {n rest others : Nesting}
    {es later : List Exchange} {r : Except Error (List Row)}
    (hone : (embedOne client owner request (Selection.parse request.columns) inside rows).Course
      es r)
    (hinside : ∀ replied es r, (inside replied).Course es r →
      ∃ sent : Nesting, sent.Pruned n ∧ LooksUpAll client sent es)
    (hpruned : others.Pruned rest) (hothers : LooksUpAll client others later) :
    ∃ sent : Nesting, sent.Pruned (.cons request (Selection.parse request.columns) n rest) ∧
      LooksUpAll client sent (es ++ later) := by
  obtain ⟨-, rfl, -⟩ | ⟨-, e, -, rfl, -⟩ | ⟨-, found, g, -, hg, -⟩ := course_embedOne_iff.1 hone
  · exact ⟨others, .drop _ _ _ hpruned, hothers⟩
  · exact ⟨others, .drop _ _ _ hpruned, hothers⟩
  · obtain rfl | ⟨x, es', rfl, hx, hes'⟩ := hg.sends
    · exact ⟨others, .drop _ _ _ hpruned, hothers⟩
    · obtain ⟨nested, hnested, hall⟩ : ∃ nested : Nesting, nested.Pruned n ∧
          LooksUpAll client nested es' := by
        obtain rfl | ⟨replied, _, hcourse⟩ := hes'
        · exact ⟨.nil, n.pruned_nil, .nil⟩
        · exact hinside _ _ _ hcourse
      exact ⟨_, .keep request _ hnested hpruned, .cons hx (List.rel_append hall hothers)⟩

/-- **Lookups are sent in preorder.**  Embedding the relations of a nesting sends at most one lookup
for each request at any level, whatever is replied: those of the requests of a pruned nesting, in
preorder. -/
theorem exists_pruned_embedAll {n : Nesting} (hn : n.Unfolded) {owner : String} {rows : List Row}
    {es : List Exchange} {r : Except Error (List Row)}
    (h : (embedAll client n owner rows).Course es r) :
    ∃ sent : Nesting, sent.Pruned n ∧ LooksUpAll client sent es := by
  induction n generalizing owner rows es r with
  | nil =>
    obtain ⟨rfl, -⟩ := Action.course_pure_iff.1 h
    exact ⟨.nil, .nil, .nil⟩
  | cons request selection inside rest ihinside ihrest =>
    obtain ⟨rfl, -, hinside, hrest⟩ := hn
    rw [embedAll, Action.course_bind_iff] at h
    obtain ⟨e, hone, -⟩ | ⟨mid, es₁, es₂, hone, hall, rfl⟩ := h
    · -- nothing is sent for the others
      rw [← List.append_nil es]
      exact exists_pruned_cons hone (fun _ _ _ => ihinside hinside) rest.pruned_nil .nil
    · obtain ⟨others, hpruned, hothers⟩ := ihrest hrest hall
      exact exists_pruned_cons hone (fun _ _ _ => ihinside hinside) hpruned hothers

end Embed

end Graft
