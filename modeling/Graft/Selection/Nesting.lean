/-
Graft/Selection/Nesting.lean

The relations of a select expression with all that is nested in them.

A request holds its select expression as text.  `Nesting` is what comes of
reading those texts all the way down: for each request of one level, its own
selection, or what is wrong with it, and the nesting of that selection's
requests.  An expression that cannot be read is no obstacle to building the
nesting; it is reported if the relation is ever fetched.

Reading ends because the expressions in a request are shorter than the one it
stands in.
-/
import Graft.Selection.Columns

namespace Graft

/-- The requests of one level, each with the nesting of its own selection. -/
inductive Nesting where
  | nil
  /-- A request, its selection, the nesting of that selection, and the requests after it. -/
  | cons (request : Request) (selection : Except Violation Selection) (inside rest : Nesting)

namespace Nesting

/-- The nesting of some requests. -/
def ofRequests : List Request → Nesting
  | [] => .nil
  | r :: rest =>
    match _h : Selection.parse r.columns with
    | .error v => .cons r (.error v) .nil (ofRequests rest)
    | .ok s => .cons r (.ok s) (ofRequests s.relations) (ofRequests rest)
termination_by rs => Selection.weight rs
decreasing_by
  · simp only [Selection.weight_cons]
    omega
  · have := Selection.weight_relations_le _h
    simp only [Selection.weight_cons]
    omega
  · simp only [Selection.weight_cons]
    omega

@[simp] theorem ofRequests_nil : ofRequests [] = .nil := by
  rw [ofRequests]

theorem ofRequests_cons_error {r : Request} {rest : List Request} {v : Violation}
    (h : Selection.parse r.columns = .error v) :
    ofRequests (r :: rest) = .cons r (.error v) .nil (ofRequests rest) := by
  rw [ofRequests]
  split <;> simp_all

theorem ofRequests_cons_ok {r : Request} {rest : List Request} {s : Selection}
    (h : Selection.parse r.columns = .ok s) :
    ofRequests (r :: rest) =
      .cons r (.ok s) (ofRequests s.relations) (ofRequests rest) := by
  rw [ofRequests]
  split <;> simp_all

/-- The number of requests at all levels. -/
def size : Nesting → Nat
  | .nil => 0
  | .cons _ _ inside rest => inside.size + rest.size + 1

end Nesting

end Graft
