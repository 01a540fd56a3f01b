/-
Graft/Proofs/Embed/Tier.lean

The tiers of rows in an answer.

The rows that a chain answers with are on the topmost tier, and the rows that
are embedded in a row are on a tier of their own, one for each request.  A
`Tier` is what is known of its rows: the expression that says what is wanted
of them, what the engine answered with, the account of embedding their
relations, and the helper columns, which are taken out again.

    t.Has r                  r is a row of the tier, as it is answered with
    t.Sound client es s      the tier is one of a course with exchanges `es`,
                             and its expression reads as `s`
    base.Embeds row t r      r is row itself, or embedded in it at any depth,
                             and on the tier t

A cell belongs to the last request with its field (`Account.last?`).  One step
into a row leads to a row of the tier of that request (`Tier.Sound.inside`),
and so do any number of steps (`Tier.Embeds.sound`).
-/
import Graft.Proofs.Embed.Account

namespace Graft

/-! ### Tiers -/

/-- The rows of one tier. -/
structure Tier where
  /-- The table of the rows. -/
  table : String
  /-- The select expression that says what is wanted of them. -/
  expr : String
  /-- The rows that the engine answered with. -/
  replied : List Row
  /-- The same rows, with their relations embedded; an inner join may have dropped some. -/
  embedded : List Row
  /-- The columns that are taken out in the end. -/
  helpers : List String
  /-- The account of embedding the relations. -/
  account : Account

/-- The row is one of the tier, as it is answered with. -/
def Tier.Has (t : Tier) (r : Row) : Prop :=
  ∃ q ∈ t.embedded, r = q.eraseAll t.helpers

/-- A request with the relation that was found for it, and the tier of the related rows. -/
structure Served where
  request : Request
  found : FoundRelation
  tier : Tier

/-- The last request of a tier that has the field. -/
def Account.last? (field : String) : Account → Option Served
  | .nil => none
  | .cons request found replied related helpers inside rest =>
    (rest.last? field).or (if request.field = field then
      some ⟨request, found, ⟨request.table, request.columns, replied, related, helpers, inside⟩⟩
    else none)

/-- `t.Sound client es s`: the tier is one that comes about in a course with exchanges `es`.  Its
expression is read, the columns that its relations need, and at an inner tier the column that its
rows are matched by, are helper columns where they had to be appended, its rows are the reply to a
statement, and its account tells how the relations were embedded in them. -/
structure Tier.Sound (client : Client) (es : List Exchange) (t : Tier) (s : Selection) : Prop where
  parse : Selection.parse t.expr = .ok s
  helpers : ∃ matched? : Option String, t.helpers =
    (s.ensure (matched?.toList ++ client.keyColumns t.table s.relations)).2
  answered : ∃ st, ⟨st, .ok t.replied⟩ ∈ es
  tells : ∃ later ⊆ es,
    t.account.Tells client (.ofRequests s.relations) t.table t.replied later t.embedded

/-- `base.Embeds row t r`: the row `r` of the tier `t` is the row `row` of the tier `base`, or one
that is embedded in it, at any depth. -/
inductive Tier.Embeds : Tier → Row → Tier → Row → Prop
  | self (base : Tier) (row : Row) : Embeds base row base row
  | inside {base t : Tier} {row nested r : Row} {field : String} {served : Served} {v : Value}
      (hlast : base.account.last? field = some served) (hcell : row.get? field = some v)
      (hnested : v.Carries nested) (h : Embeds served.tier nested t r) : Embeds base row t r

/-! ### The last request with a field -/

namespace Account

/-- The last request with a field is among the later ones, or else the first one. -/
theorem last?_cons {request : Request} {found : FoundRelation} {replied related : List Row}
    {helpers : List String} {inside rest : Account} {field : String} {served : Served}
    (h : (cons request found replied related helpers inside rest).last? field = some served) :
    rest.last? field = some served ∨ rest.last? field = none ∧ request.field = field ∧
      served = ⟨request, found,
        ⟨request.table, request.columns, replied, related, helpers, inside⟩⟩ := by
  rw [last?] at h
  cases hrest : rest.last? field with
  | some later =>
    rw [hrest] at h
    exact .inl h
  | none =>
    rw [hrest, Option.none_or] at h
    split at h
    · next hfield =>
      cases h
      exact .inr ⟨rfl, hfield, rfl⟩
    · cases h

theorem request_last? (a : Account) (field : String) :
    (a.last? field).map (·.request) = a.requests.reverse.find? fun r => r.field == field := by
  induction a with
  | nil => rfl
  | cons request found replied related helpers inside rest _ ih =>
    rw [last?, requests, List.reverse_cons, List.find?_append, ← ih]
    cases rest.last? field with
    | some served => rfl
    | none => by_cases h : request.field = field <;> simp [h]

theorem Fills.lookup_eq_none {a : Account} {cells : List (String × Value)} (h : a.Fills cells)
    {field : String} (hlast : a.last? field = none) : cells.reverse.lookup field = none := by
  induction a generalizing cells with
  | nil =>
    rw [show cells = [] from h]
    rfl
  | cons request found replied related helpers inside rest _ ih =>
    obtain ⟨v, later, rfl, -, hlater⟩ := h
    obtain ⟨hrest, hthis⟩ := Option.or_eq_none_iff.1 hlast
    have hfield : field ≠ request.field := by
      intro heq
      rw [if_pos heq.symm] at hthis
      cases hthis
    rw [List.reverse_cons, List.lookup_append, ih hlater hrest]
    simp [List.lookup_cons, beq_eq_false_iff_ne.2 hfield]

/-- Of several requests with one field, the last one says what stands there. -/
theorem Fills.exists_lookup {a : Account} {cells : List (String × Value)} (h : a.Fills cells)
    {field : String} {served : Served} (hlast : a.last? field = some served) :
    ∃ v, cells.reverse.lookup field = some v ∧
      v.HandsOut served.tier.Has served.found.relation.kind := by
  induction a generalizing cells with
  | nil => cases hlast
  | cons request found replied related helpers inside rest _ ih =>
    obtain ⟨v, later, rfl, hv, hlater⟩ := h
    rw [List.reverse_cons, List.lookup_append]
    rcases last?_cons hlast with hrest | ⟨hrest, hfield, rfl⟩
    · obtain ⟨w, hw, hout⟩ := ih hlater hrest
      exact ⟨w, by rw [hw]; rfl, hout⟩
    · rw [hlater.lookup_eq_none hrest, hfield]
      exact ⟨v, by simp, hv⟩

end Account

/-! ### One step inwards -/

/-- A nesting that is unfolded is that of its requests. -/
theorem Nesting.Unfolded.eq_ofRequests {n : Nesting} (h : n.Unfolded) :
    n = .ofRequests n.requests := by
  induction n with
  | nil => rw [requests, ofRequests_nil]
  | cons request selection inside rest ihinside ihrest =>
    obtain ⟨rfl, hrequests, hinside, hrest⟩ := h
    have hinside := ihinside hinside
    rw [hrequests] at hinside
    rw [requests]
    cases hparse : Selection.parse request.columns with
    | error v =>
      rw [hparse, relationsOf, ofRequests_nil] at hinside
      rw [ofRequests_cons_error hparse, ← ihrest hrest, hinside]
    | ok s =>
      rw [hparse, relationsOf] at hinside
      rw [ofRequests_cons_ok hparse, ← ihrest hrest, ← hinside]

section

variable {client : Client} {es : List Exchange}

/-- A tier of a part of a course is one of the whole. -/
theorem Tier.Sound.mono {t : Tier} {s : Selection} {part : List Exchange}
    (h : t.Sound client part s) (hpart : part ⊆ es) : t.Sound client es s where
  parse := h.parse
  helpers := h.helpers
  answered := by
    obtain ⟨st, hst⟩ := h.answered
    exact ⟨st, hpart hst⟩
  tells := by
    obtain ⟨later, hlater, htells⟩ := h.tells
    exact ⟨later, fun x hx => hpart (hlater hx), htells⟩

/-- The rows that a lookup was answered with make up a sound tier. -/
theorem Tier.exists_sound_of_parts {request : Request} {replied related : List Row}
    {p : Embed.Lookup.Parts} {inside : Account} {n : Nesting} {column : String}
    {later : List Exchange}
    (hparts : Embed.Lookup.parts client request (Selection.parse request.columns) column = .ok p)
    (hrequests : n.requests = relationsOf (Selection.parse request.columns)) (hn : n.Unfolded)
    (hinside : inside.Tells client n request.table replied later related) {st : Statement}
    (hsent : ⟨st, .ok replied⟩ ∈ es) (hlater : later ⊆ es) :
    ∃ s, Tier.Sound client es
      ⟨request.table, request.columns, replied, related, p.helpers, inside⟩ s := by
  cases hparse : Selection.parse request.columns with
  | error v =>
    rw [hparse] at hparts
    cases hparts
  | ok s =>
    rw [hparse] at hparts hrequests
    rw [hn.eq_ofRequests, hrequests] at hinside
    exact ⟨s, hparse, ⟨some column, Embed.Lookup.helpers_of_parts hparts⟩, ⟨st, hsent⟩,
      later, hlater, hinside⟩

/-- What was found for the last request with a field, and that the tier of its rows is sound, if it
has any rows. -/
theorem Account.Tells.exists_sound {a : Account} {n : Nesting} {owner : String}
    {rows out : List Row} (h : a.Tells client n owner rows es out) (hn : n.Unfolded)
    {field : String} {served : Served} (hlast : a.last? field = some served) :
    (∃ known, client.findRelation owner served.request.table known = .ok served.found) ∧
      (served.tier.embedded ≠ [] → ∃ s, served.tier.Sound client es s) := by
  induction h with
  | idle => cases hlast
  | nil => cases hlast
  | @unkeyed request selection n rest owner rows out found others es hfound _ _ ih =>
    obtain ⟨-, -, -, hrest⟩ := hn
    -- A field is served last by a later request or, if none serves it, by this one.
    rcases last?_cons hlast with hothers | ⟨-, -, rfl⟩
    · exact ih hrest hothers
    · exact ⟨⟨rows, hfound⟩, fun hsome => absurd rfl hsome⟩
  | @answered request selection n rest owner rows replied related out found p inside others es later
      hfound _ hparts hinside _ _ ih =>
    obtain ⟨rfl, hrequests, hunfolded, hrest⟩ := hn
    rcases last?_cons hlast with hothers | ⟨-, -, rfl⟩
    · obtain ⟨hknown, hsound⟩ := ih hrest hothers
      refine ⟨hknown, fun hsome => ?_⟩
      obtain ⟨s, hs⟩ := hsound hsome
      exact ⟨s, hs.mono fun x hx => List.mem_cons_of_mem _ (List.mem_append_right _ hx)⟩
    · refine ⟨⟨rows, hfound⟩, fun _ => ?_⟩
      exact Tier.exists_sound_of_parts hparts hrequests hunfolded hinside List.mem_cons_self
        fun x hx => List.mem_cons_of_mem _ (List.mem_append_left _ hx)

/-- A row of a tier is one that the engine answered with, with a cell for each request and without
the helper columns. -/
theorem Tier.Sound.exists_fills {t : Tier} {s : Selection} (h : t.Sound client es s) {r : Row}
    (hr : t.Has r) :
    t.account.requests = s.relations ∧ ∃ q ∈ t.replied, ∃ cells, t.account.Fills cells ∧
      r = (q.setAll cells).eraseAll t.helpers := by
  obtain ⟨later, -, htells⟩ := h.tells
  obtain ⟨row, hrow, rfl⟩ := hr
  have hrequests := htells.requests_eq (List.ne_nil_of_mem hrow)
  rw [Nesting.requests_ofRequests] at hrequests
  obtain ⟨q, hq, cells, hcells, rfl⟩ := htells.exists_fills row hrow
  exact ⟨hrequests, q, hq, cells, hcells, rfl⟩

/-- Under the field of a request stands what the last request with that field hands out, unless the
field is a helper column. -/
theorem Tier.Sound.exists_get? {t : Tier} {s : Selection} (h : t.Sound client es s) {r : Row}
    (hr : t.Has r) {field : String} {served : Served} (hlast : t.account.last? field = some served)
    (hhelper : field ∉ t.helpers) :
    ∃ v, r.get? field = some v ∧ v.HandsOut served.tier.Has served.found.relation.kind := by
  obtain ⟨-, q, -, cells, hcells, rfl⟩ := h.exists_fills hr
  obtain ⟨v, hv, hout⟩ := hcells.exists_lookup hlast
  refine ⟨v, ?_, hout⟩
  rw [Row.get?_eraseAll, if_neg hhelper, Row.get?_setAll, hv]
  rfl

/-- One step into a row leads to a row of the tier inside. -/
theorem Tier.Sound.inside {t : Tier} {s : Selection} (h : t.Sound client es s) {row nested : Row}
    (hrow : t.Has row) {field : String} {served : Served} {v : Value}
    (hlast : t.account.last? field = some served) (hcell : row.get? field = some v)
    (hnested : v.Carries nested) :
    served.tier.Has nested ∧ ∃ s, served.tier.Sound client es s := by
  -- A field that is still there is no helper.
  have hhelper : field ∉ t.helpers := by
    intro hmem
    obtain ⟨-, q, -, cells, -, rfl⟩ := h.exists_fills hrow
    rw [Row.get?_eraseAll, if_pos hmem] at hcell
    cases hcell
  obtain ⟨w, hw, hout⟩ := h.exists_get? hrow hlast hhelper
  obtain rfl := Option.some.inj (hcell.symm.trans hw)
  have hhas : served.tier.Has nested := hout.of_carries hnested
  have hsome : served.tier.embedded ≠ [] := by
    obtain ⟨q, hq, -⟩ := hhas
    exact List.ne_nil_of_mem hq
  obtain ⟨later, hlater, htells⟩ := h.tells
  obtain ⟨-, hsound⟩ := htells.exists_sound (Nesting.unfolded_ofRequests _) hlast
  obtain ⟨s', hs'⟩ := hsound hsome
  exact ⟨hhas, s', hs'.mono hlater⟩

/-- **Every embedded row is on a sound tier**, however deep it is embedded. -/
theorem Tier.Embeds.sound {base t : Tier} {row r : Row} (h : base.Embeds row t r)
    (hrow : base.Has row) {s : Selection} (hbase : base.Sound client es s) :
    t.Has r ∧ ∃ s, t.Sound client es s := by
  induction h generalizing s with
  | self base row => exact ⟨hrow, s, hbase⟩
  | inside hlast hcell hnested _ ih =>
    obtain ⟨hhas, s', hs'⟩ := hbase.inside hrow hlast hcell hnested
    exact ih hhas hs'

end

end Graft
