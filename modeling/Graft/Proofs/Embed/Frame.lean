/-
Graft/Proofs/Embed/Frame.lean

What embedding leaves alone.

Each relation sets one cell of every row, under the field of its request, and
an inner join drops rows besides.  That is all that embedding does to the rows
of an owner, whatever the engine replies to its lookups:

    the rows that come out
      =  some of the rows that went in, in their order,
         each with the fields of the requests set, one after the other.

`frame_embedOne` says this of one relation, and `frame_embedAll` of all
relations of a level.  `Row.setAll` sets cells one after the other, and
`Row.get?_setAll` and `Row.keys_prefix_setAll` say what becomes of the cells
and of their order.
-/
import Graft.Proofs.Embed.Batch
import Mathlib.Data.List.Forall2

namespace Graft

/-! ### Rows with some cells set -/

namespace Row

/-- The row with some cells set, one after the other. -/
def setAll (r : Row) (cells : List (String × Value)) : Row :=
  cells.foldl (fun r cell => r.insert cell.1 cell.2) r

@[simp] theorem setAll_nil (r : Row) : r.setAll [] = r := rfl

@[simp] theorem setAll_cons (r : Row) (cell : String × Value) (cells : List (String × Value)) :
    r.setAll (cell :: cells) = (r.insert cell.1 cell.2).setAll cells := rfl

/-- Under a name stands what was set last under it, or else what stood there before. -/
theorem get?_setAll (r : Row) (cells : List (String × Value)) (k : String) :
    (r.setAll cells).get? k = (cells.reverse.lookup k).or (r.get? k) := by
  induction cells generalizing r with
  | nil => simp
  | cons cell cells ih =>
    obtain ⟨j, v⟩ := cell
    rw [setAll_cons, ih, get?_insert, List.reverse_cons, List.lookup_append, Option.or_assoc,
      lookup_cons_if]
    split <;> simp

/-- The columns of the row stay where they are; new ones come after them. -/
theorem keys_prefix_setAll (r : Row) (cells : List (String × Value)) :
    r.keys <+: (r.setAll cells).keys := by
  induction cells generalizing r with
  | nil => exact List.prefix_rfl
  | cons cell cells ih =>
    refine List.IsPrefix.trans ?_ (ih (r.insert cell.1 cell.2))
    rw [keys_insert]
    split
    · exact List.prefix_rfl
    · exact List.prefix_append _ _

theorem get?_eraseAll (r : Row) (ks : List String) (k : String) :
    (r.eraseAll ks).get? k = if k ∈ ks then none else r.get? k := by
  induction ks generalizing r with
  | nil => rfl
  | cons j ks ih =>
    have hstep : r.eraseAll (j :: ks) = (r.erase j).eraseAll ks := rfl
    rw [hstep, ih, get?_erase]
    grind

theorem keys_eraseAll (r : Row) (ks : List String) :
    (r.eraseAll ks).keys = r.keys.filter fun k => !ks.contains k := by
  rw [keys, cells_eraseAll, keys, List.filter_map]
  rfl

end Row

/-! ### Requests of a level -/

/-- The requests of one level. -/
def Nesting.requests : Nesting → List Request
  | .nil => []
  | .cons request _ _ rest => request :: rest.requests

theorem Nesting.fields_eq (n : Nesting) : n.fields = n.requests.map Request.field := by
  induction n with
  | nil => rfl
  | cons request selection inside rest _ ih => rw [fields, requests, List.map_cons, ih]

@[simp] theorem Nesting.requests_ofRequests (rs : List Request) :
    (ofRequests rs).requests = rs := by
  induction rs with
  | nil => rw [ofRequests_nil, requests]
  | cons r rs ih =>
    cases hparse : Selection.parse r.columns with
    | error v => rw [ofRequests_cons_error hparse, requests, ih]
    | ok s => rw [ofRequests_cons_ok hparse, requests, ih]

namespace Embed

variable {client : Client} {owner : String} {rows out : List Row} {es : List Exchange}

/-- One relation sets one cell of every row that it keeps, and keeps them all if it is no inner
join. -/
theorem frame_embedOne {request : Request} {selection : Except Violation Selection}
    {inside : List Row → Action (List Row)}
    (h : (embedOne client owner request selection inside rows).Course es (.ok out)) :
    ∃ (kept : List Row) (value : Row → Value), kept.Sublist rows ∧
      (request.inner = false → kept = rows) ∧
      out = kept.map fun row => row.insert request.field (value row) := by
  obtain ⟨rfl, -, hr⟩ | ⟨-, e, -, -, hr⟩ | ⟨-, found, g, -, -, hr⟩ := course_embedOne_iff.1 h
  · cases hr
    exact ⟨[], fun _ => .null, List.Sublist.refl _, fun _ => rfl, rfl⟩
  · cases hr
  · cases g with
    | error e => cases hr
    | ok g =>
      cases hr
      refine ⟨_, portion (found.link client) g.helpers g.rows, ?_, ?_, rfl⟩
      · split
        · exact List.filter_sublist
        · exact List.Sublist.refl _
      · intro hleft
        rw [hleft]
        rfl

/-- **Embedding sets fields and drops rows, and does nothing else.**  The rows that come out are
some of those that went in, in their order, or all of them if no request is for an inner join; and
each has the fields of the requests set, in the order of these. -/
theorem frame_embedAll {n : Nesting} (h : (embedAll client n owner rows).Course es (.ok out)) :
    ∃ kept : List Row, kept.Sublist rows ∧
      ((∀ request ∈ n.requests, request.inner = false) → kept = rows) ∧
      List.Forall₂ (fun row r => ∃ cells : List (String × Value),
        cells.map (·.1) = n.fields ∧ r = row.setAll cells) kept out := by
  -- on the relations of the level; what is nested in them does not show in the rows
  induction n generalizing rows out es with
  | nil =>
    obtain ⟨-, hr⟩ := Action.course_pure_iff.1 h
    cases hr
    exact ⟨rows, List.Sublist.refl _, fun _ => rfl, List.forall₂_same.2 fun _ _ => ⟨[], rfl, rfl⟩⟩
  | cons request selection inside rest _ ih =>
    rw [embedAll, Action.course_bind_iff] at h
    obtain ⟨e, -, he⟩ | ⟨mid, es₁, es₂, hone, hall, -⟩ := h
    · cases he
    · obtain ⟨kept₁, value, hsub₁, hall₁, rfl⟩ := frame_embedOne hone
      obtain ⟨kept₂, hsub₂, hall₂, hcells⟩ := ih hall
      -- the rows kept by the others are rows kept by the first, with its field set
      obtain ⟨kept, hsub, rfl⟩ := List.sublist_map_iff.1 hsub₂
      refine ⟨kept, hsub.trans hsub₁, fun hleft => ?_, ?_⟩
      · rw [← hall₁ (hleft request List.mem_cons_self)]
        have hmap := hall₂ fun r hr => hleft r (List.mem_cons_of_mem _ hr)
        have hlength := congrArg List.length hmap
        rw [List.length_map, List.length_map] at hlength
        exact hsub.eq_of_length hlength
      · refine (List.forall₂_map_left_iff.1 hcells).imp ?_
        rintro row r ⟨cells, hfields, rfl⟩
        exact ⟨(request.field, value row) :: cells, by rw [List.map_cons, hfields]; rfl, rfl⟩

end Embed

end Graft
