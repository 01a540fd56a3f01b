/-
Graft/Proofs/Embed/Account.lean

What embedding comes to at every level.

The rows of one level are those that the engine answered with, with what was
embedded in them set and the helper columns taken out.  An `Account` is the
record of embedding the relations of a level: for each request the relation
that was found, what its lookup was answered with, and the account of what was
embedded in these rows in turn.

    a.Tells client n owner rows es out    embedding `n` in `rows` went as `a`
                                          says, with the exchanges `es`, and
                                          came to `out`
    a.Fills cells                         a row of the level is given `cells`

Every embedding that does not fail has an account (`Embed.exists_tells`), and
each row that comes out is one that went in, with cells that the account fills
(`Account.Tells.exists_fills`).
-/
import Graft.Proofs.Embed.Preorder

namespace Graft

/-! ### What a row is given -/

/-- The cell of a relation of that kind, for related rows that satisfy `P`: one of them or null, or
a list of them. -/
def Value.HandsOut (P : Row → Prop) (kind : RelationKind) (v : Value) : Prop :=
  match kind with
  | .belongsTo => v = .null ∨ ∃ r, P r ∧ v = r.toValue
  | .hasMany => ∃ rs : List Row, (∀ r ∈ rs, P r) ∧ v = .arr (rs.map Row.toValue)

/-- The row is what the cell holds, or one of the rows that it lists. -/
def Value.Carries (v : Value) (r : Row) : Prop :=
  v = r.toValue ∨ ∃ rs : List Row, r ∈ rs ∧ v = .arr (rs.map Row.toValue)

theorem Row.toValue_injective {r r' : Row} (h : r.toValue = r'.toValue) : r = r' := by
  cases r
  cases r'
  cases h
  rfl

/-- A cell that was handed out carries nothing but related rows. -/
theorem Value.HandsOut.of_carries {P : Row → Prop} {kind : RelationKind} {v : Value} {r : Row}
    (h : v.HandsOut P kind) (hr : v.Carries r) : P r := by
  cases kind with
  | belongsTo =>
    obtain rfl | ⟨r', hr', rfl⟩ := h
    · obtain hr | ⟨rs, -, hr⟩ := hr <;> cases hr
    · obtain hr | ⟨rs, -, hr⟩ := hr
      · rw [← Row.toValue_injective hr]
        exact hr'
      · cases hr
  | hasMany =>
    obtain ⟨rs, hrs, rfl⟩ := h
    obtain hr | ⟨rs', hmem, hr⟩ := hr
    · cases hr
    · have hmap : rs.map Row.toValue = rs'.map Row.toValue := Value.arr.inj hr
      have hinjective : Function.Injective Row.toValue := fun _ _ => Row.toValue_injective
      rw [← List.map_injective_iff.2 hinjective hmap] at hmem
      exact hrs r hmem

/-- What a row is given of some related rows are these rows without the helper columns. -/
theorem Embed.handsOut_portion (link : Link) (helpers : List String) (related : List Row)
    (row : Row) :
    (portion link helpers related row).HandsOut
      (fun r => ∃ q ∈ related, r = q.eraseAll helpers) link.kind := by
  rw [portion]
  cases link.kind with
  | belongsTo =>
    cases hfind : related.find? (matched link row) with
    | none => exact .inl rfl
    | some q => exact .inr ⟨_, ⟨q, List.mem_of_find?_eq_some hfind, rfl⟩, rfl⟩
  | hasMany =>
    refine ⟨(related.filter (matched link row)).map (·.eraseAll helpers), fun r hr => ?_, ?_⟩
    · obtain ⟨q, hq, rfl⟩ := List.mem_map.1 hr
      exact ⟨q, List.mem_of_mem_filter hq, rfl⟩
    · rw [List.map_map]
      rfl

/-! ### Accounts -/

/-- What embedding the relations of a level came to, request after request. -/
inductive Account where
  | nil
  /-- A request and the relation that was found for it; the rows that its lookup was answered with,
  the same rows with their relations embedded, and their helper columns, none of all this if nothing
  was looked up; the account of embedding these relations; and that of the requests after it. -/
  | cons (request : Request) (found : FoundRelation) (replied related : List Row)
      (helpers : List String) (inside rest : Account)

namespace Account

/-- The requests of the level. -/
def requests : Account → List Request
  | .nil => []
  | .cons request _ _ _ _ _ rest => request :: rest.requests

/-- `a.Fills cells`: a row of the level may be given these cells, one for each request.  What is
handed out are related rows without the helper columns. -/
def Fills : Account → List (String × Value) → Prop
  | .nil, cells => cells = []
  | .cons request found _ related helpers _ rest, cells =>
    ∃ v later, cells = (request.field, v) :: later ∧
      v.HandsOut (fun r => ∃ q ∈ related, r = q.eraseAll helpers) found.relation.kind ∧
      rest.Fills later

/-- `a.Tells client n owner rows es out`: embedding the nesting in rows of the owner may go as the
account says, with the exchanges `es`, and come to `out`. -/
inductive Tells (client : Client) :
    Account → Nesting → String → List Row → List Exchange → List Row → Prop
  /-- Nothing is done for no rows. -/
  | idle (n : Nesting) (owner : String) : Tells client .nil n owner [] [] []
  | nil (owner : String) (rows : List Row) : Tells client .nil .nil owner rows [] rows
  /-- No row has a key, so nothing is looked up. -/
  | unkeyed {request : Request} {selection : Except Violation Selection} {n rest : Nesting}
      {owner : String} {rows out : List Row} {found : FoundRelation} {others : Account}
      {es : List Exchange}
      (hfound : client.findRelation owner request.table rows = .ok found)
      (hkeys : Embed.wantedKeys (found.link client).ownerColumn rows = [])
      (hrest : Tells client others rest owner
        (Embed.splice (found.link client) request [] [] rows) es out) :
      Tells client (.cons request found [] [] [] .nil others) (.cons request selection n rest) owner
        rows es out
  /-- The lookup is answered with rows, and the relations inside are embedded in these. -/
  | answered {request : Request} {selection : Except Violation Selection} {n rest : Nesting}
      {owner : String} {rows replied related out : List Row} {found : FoundRelation}
      {p : Embed.Lookup.Parts} {inside others : Account} {es later : List Exchange}
      (hfound : client.findRelation owner request.table rows = .ok found)
      (hkeys : Embed.wantedKeys (found.link client).ownerColumn rows ≠ [])
      (hparts : Embed.Lookup.parts client request selection (found.link client).relatedColumn =
        .ok p)
      (hinside : Tells client inside n request.table replied es related)
      (hrest : Tells client others rest owner
        (Embed.splice (found.link client) request p.helpers related rows) later out) :
      Tells client (.cons request found replied related p.helpers inside others)
        (.cons request selection n rest) owner rows
        (⟨p.statement request.table (Embed.wantedKeys (found.link client).ownerColumn rows),
          .ok replied⟩ :: (es ++ later)) out

end Account

namespace Embed

variable {client : Client} {owner : String} {rows out : List Row} {es : List Exchange}

/-- Embedding in no rows does nothing. -/
theorem eq_nil_of_course_embedAll {n : Nesting} {r : Except Error (List Row)}
    (h : (embedAll client n owner []).Course es r) : es = [] ∧ r = .ok [] := by
  induction n generalizing es r with
  | nil => exact Action.course_pure_iff.1 h
  | cons request selection inside rest _ ih =>
    rw [embedAll, Action.course_bind_iff] at h
    simp only [course_embedOne_iff, ne_eq, not_true_eq_false, false_and, or_false,
      true_and] at h
    obtain ⟨e, ⟨-, he⟩, -⟩ | ⟨mid, es₁, es₂, ⟨rfl, hmid⟩, hrest, rfl⟩ := h
    · cases he
    · cases hmid
      exact ih hrest

/-- **Every embedding has an account**, unless it fails. -/
theorem exists_tells {n : Nesting} (h : (embedAll client n owner rows).Course es (.ok out)) :
    ∃ a : Account, a.Tells client n owner rows es out := by
  -- on the nesting, along its recursion: inside the first request, then the others
  induction n generalizing owner rows es out with
  | nil =>
    obtain ⟨rfl, hout⟩ := Action.course_pure_iff.1 h
    cases hout
    exact ⟨.nil, .nil owner rows⟩
  | cons request selection inside rest ihinside ihrest =>
    by_cases hrows : rows = []
    · subst hrows
      obtain ⟨rfl, hout⟩ := eq_nil_of_course_embedAll h
      cases hout
      exact ⟨.nil, .idle _ owner⟩
    · rw [embedAll, Action.course_bind_iff] at h
      obtain ⟨e, -, he⟩ | ⟨mid, es₁, es₂, hone, hall, rfl⟩ := h
      · cases he
      · obtain ⟨hnil, -⟩ | ⟨-, e, -, -, he⟩ | ⟨-, found, g, hfound, hg, hmid⟩ :=
          course_embedOne_iff.1 hone
        · exact absurd hnil hrows
        · cases he
        · obtain ⟨others, hothers⟩ := ihrest hall
          generalize hkeys : wantedKeys (found.link client).ownerColumn rows = keys at hg
          cases hg with
          | nothing =>
            cases hmid
            exact ⟨_, .unkeyed hfound hkeys hothers⟩
          | refused => cases hmid
          | failed => cases hmid
          | @answered first _ p replied later r hparts hinside =>
            cases r with
            | error e => cases hmid
            | ok related =>
              cases hmid
              obtain ⟨nested, hnested⟩ := ihinside hinside
              have hsome : wantedKeys (found.link client).ownerColumn rows ≠ [] := by
                rw [hkeys]
                exact List.cons_ne_nil _ _
              rw [← hkeys]
              exact ⟨_, .answered hfound hsome hparts hnested hothers⟩

theorem mem_splice {link : Link} {request : Request} {helpers : List String}
    {related : List Row} {r : Row} (h : r ∈ splice link request helpers related rows) :
    ∃ row ∈ rows, r = row.insert request.field (portion link helpers related row) := by
  rw [splice] at h
  obtain ⟨row, hrow, rfl⟩ := List.mem_map.1 h
  refine ⟨row, ?_, rfl⟩
  split at hrow
  · exact List.mem_of_mem_filter hrow
  · exact hrow

end Embed

theorem FoundRelation.kind_link (found : FoundRelation) (client : Client) :
    (found.link client).kind = found.relation.kind := by
  rw [link, Relation.link]
  split <;> exact Eq.symm ‹_›

namespace Account

variable {client : Client} {a : Account} {n : Nesting} {owner : String} {rows out : List Row}
variable {es : List Exchange}

/-- A row with its portion, which the first request hands out, and with what the others hand out. -/
theorem exists_fills_cons {request : Request} {found : FoundRelation} {replied related : List Row}
    {helpers : List String} {inside others : Account} {row r : Row}
    (hrow : row ∈ Embed.splice (found.link client) request helpers related rows)
    {cells : List (String × Value)} (hcells : others.Fills cells) (hr : r = row.setAll cells) :
    ∃ row ∈ rows, ∃ cells, (cons request found replied related helpers inside others).Fills cells ∧
      r = row.setAll cells := by
  obtain ⟨owned, howned, rfl⟩ := Embed.mem_splice hrow
  have hportion := Embed.handsOut_portion (found.link client) helpers related owned
  rw [found.kind_link client] at hportion
  exact ⟨owned, howned, _, ⟨_, cells, rfl, hportion, hcells⟩, hr⟩

/-- **Rows as the account says.**  Each row that comes out is one that went in, with cells that the
account fills. -/
theorem Tells.exists_fills (h : a.Tells client n owner rows es out) :
    ∀ r ∈ out, ∃ row ∈ rows, ∃ cells, a.Fills cells ∧ r = row.setAll cells := by
  induction h with
  | idle =>
    intro r hr
    cases hr
  | nil owner rows => exact fun r hr => ⟨r, hr, [], rfl, rfl⟩
  | unkeyed hfound hkeys hrest ih =>
    intro r hr
    obtain ⟨row, hrow, cells, hcells, hr⟩ := ih r hr
    exact exists_fills_cons hrow hcells hr
  | answered hfound hkeys hparts hinside hrest _ ih =>
    intro r hr
    obtain ⟨row, hrow, cells, hcells, hr⟩ := ih r hr
    exact exists_fills_cons hrow hcells hr

/-- If any row comes out, all requests of the level are accounted for. -/
theorem Tells.requests_eq (h : a.Tells client n owner rows es out) (hout : out ≠ []) :
    a.requests = n.requests := by
  induction h with
  | idle => exact absurd rfl hout
  | nil => rfl
  | unkeyed hfound hkeys hrest ih => rw [requests, Nesting.requests, ih hout]
  | answered hfound hkeys hparts hinside hrest _ ih => rw [requests, Nesting.requests, ih hout]

end Account

end Graft
