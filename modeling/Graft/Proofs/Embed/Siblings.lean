/-
Graft/Proofs/Embed/Siblings.lean

Relations of one level may be asked for in any order.

Each relation is embedded in the rows that those before it have left and
changed, so in another order it may send another lookup, or none at all.  If the
engine answers each lookup out of a fixed list, this makes no difference.  What
a relation makes of a row is then settled beforehand: it drops the row or sets
one cell of it, by what is held for it and by the row's own key (`Deal.serve`,
`exists_deal`).  No key is the field of a sibling, so two such steps commute
(`Deal.serve_comm`), and all of them may be taken in any order
(`Deal.serveAll_perm`).
-/
import Graft.Proofs.Embed.Batch
import Mathlib.Data.List.Forall2

namespace Graft

/-! ### Rows as maps -/

namespace Row

/-- The rows have the same cells, in whatever order. -/
def Same (row row' : Row) : Prop :=
  ∀ column, row.get? column = row'.get? column

theorem forall₂_same_iff {rows rows' : List Row} :
    List.Forall₂ Same rows rows' ↔ rows.map get? = rows'.map get? := by
  rw [← List.forall₂_eq_eq_eq, List.forall₂_map_left_iff, List.forall₂_map_right_iff]
  simp only [funext_iff]
  rfl

theorem forall₂_same_trans {rows rows' rows'' : List Row} (h : List.Forall₂ Same rows rows')
    (h' : List.Forall₂ Same rows' rows'') : List.Forall₂ Same rows rows'' := by
  rw [forall₂_same_iff] at h h' ⊢
  exact h.trans h'

theorem Same.insert {row row' : Row} (h : Same row row') (k : String) (v : Value) :
    Same (row.insert k v) (row'.insert k v) := by
  intro column
  rw [get?_insert, get?_insert, h column]

theorem same_insert_comm (row : Row) {j k : String} (hne : j ≠ k) (u v : Value) :
    Same ((row.insert j u).insert k v) ((row.insert k v).insert j u) := by
  intro column
  simp only [get?_insert]
  split
  · next hk => rw [if_neg (hk ▸ hne.symm)]
  · rfl

end Row

/-- The column is none that the rows of an owner are matched by: not the primary key, and no foreign
key that is registered in the owner. -/
def Client.SparesKeys (client : Client) (owner column : String) : Prop :=
  column ≠ client.settings.primaryKey ∧
    ∀ related relation, client.relations.get? owner related = some relation →
      relation.kind = .belongsTo → column ≠ relation.foreignKey

theorem Client.SparesKeys.ownerColumn_ne {client : Client} {owner related column : String}
    {relation : Relation} (h : client.SparesKeys owner column)
    (hrelation : client.relations.get? owner related = some relation) :
    (relation.link client.settings.primaryKey).ownerColumn ≠ column := by
  cases hkind : relation.kind with
  | belongsTo =>
    rw [Relation.link, hkind]
    exact (h.2 related relation hrelation hkind).symm
  | hasMany =>
    rw [Relation.link, hkind]
    exact h.1.symm

namespace Embed

/-! ### What a relation makes of a row -/

/-- A relation with the rows that it has for an owner. -/
structure Deal where
  request : Request
  link : Link
  helpers : List String
  related : List Row

instance : Inhabited Deal where
  default := ⟨⟨"", none, "", false⟩, ⟨"", "", .belongsTo⟩, [], []⟩

namespace Deal

/-- Whether an inner join drops a row. -/
def drops (d : Deal) (row : Row) : Bool :=
  d.request.inner && !d.related.any (matched d.link row)

/-- What becomes of a row: it is given its portion, unless it is dropped. -/
def serve (d : Deal) (row : Row) : Option Row :=
  if d.drops row then none
  else some (row.insert d.request.field (portion d.link d.helpers d.related row))

/-- What becomes of some rows when several relations are embedded, one after the other. -/
def serveAll (deals : List Deal) (rows : List Row) : List Row :=
  deals.foldl (fun rows d => rows.filterMap d.serve) rows

end Deal

theorem splice_eq_filterMap (link : Link) (request : Request) (helpers : List String)
    (related rows : List Row) :
    splice link request helpers related rows =
      rows.filterMap (Deal.serve ⟨request, link, helpers, related⟩) := by
  rw [splice_eq_flatMap]
  induction rows with
  | nil => rfl
  | cons row rest ih =>
    rw [List.flatMap_cons, List.filterMap_cons, ih]
    simp only [splice, Deal.serve, Deal.drops]
    split
    · next hinner =>
      by_cases hany : related.any (matched link row) = true <;> simp [hinner, hany]
    · next hinner => simp [hinner]

/-- A row is matched by its cell in the owner's column of the link, and by nothing else. -/
theorem matched_congr {link : Link} {row row' : Row}
    (h : row.get? link.ownerColumn = row'.get? link.ownerColumn) :
    matched link row = matched link row' := by
  funext r
  rw [matched, matched, h]

theorem portion_congr {link : Link} {helpers : List String} {related : List Row} {row row' : Row}
    (h : row.get? link.ownerColumn = row'.get? link.ownerColumn) :
    portion link helpers related row = portion link helpers related row' := by
  rw [portion, portion, matched_congr h]

namespace Deal

theorem drops_congr {d : Deal} {row row' : Row}
    (h : row.get? d.link.ownerColumn = row'.get? d.link.ownerColumn) :
    d.drops row = d.drops row' := by
  rw [drops, drops, matched_congr h]

theorem serve_of_drops {d : Deal} {row : Row} (h : d.drops row = true) : d.serve row = none := by
  rw [serve, if_pos h]

theorem serve_of_keeps {d : Deal} {row : Row} (h : d.drops row = false) :
    d.serve row = some (row.insert d.request.field (portion d.link d.helpers d.related row)) := by
  rw [serve, h]
  rfl

theorem serve_same (d : Deal) {row row' : Row} (h : row.Same row') :
    Option.Rel Row.Same (d.serve row) (d.serve row') := by
  rw [serve, serve, drops_congr (h d.link.ownerColumn), portion_congr (h d.link.ownerColumn)]
  split
  · exact .none
  · exact .some (h.insert _ _)

theorem serveAll_same (deals : List Deal) {rows rows' : List Row}
    (h : List.Forall₂ Row.Same rows rows') :
    List.Forall₂ Row.Same (serveAll deals rows) (serveAll deals rows') := by
  induction deals generalizing rows rows' with
  | nil => exact h
  | cons d deals ih => exact ih (List.rel_filterMap (fun _ _ hrow => d.serve_same hrow) h)

/-! ### The order of siblings -/

/-- Two relations set different cells, and none sets the key that the other goes by. -/
structure Independent (a b : Deal) : Prop where
  fields : a.request.field ≠ b.request.field
  left : a.link.ownerColumn ≠ b.request.field
  right : b.link.ownerColumn ≠ a.request.field

theorem Independent.symm {a b : Deal} (h : Independent a b) : Independent b a :=
  ⟨h.fields.symm, h.right, h.left⟩

/-- Independent relations may change places. -/
theorem serve_comm {a b : Deal} (h : Independent a b) (row : Row) :
    Option.Rel Row.Same ((a.serve row).bind b.serve) ((b.serve row).bind a.serve) := by
  -- the key that one goes by is still there after the other
  have ha : ∀ v, (row.insert b.request.field v).get? a.link.ownerColumn =
      row.get? a.link.ownerColumn := fun v => by rw [Row.get?_insert, if_neg h.left]
  have hb : ∀ v, (row.insert a.request.field v).get? b.link.ownerColumn =
      row.get? b.link.ownerColumn := fun v => by rw [Row.get?_insert, if_neg h.right]
  cases hdropa : a.drops row with
  | true =>
    cases hdropb : b.drops row with
    | true =>
      rw [serve_of_drops hdropa, serve_of_drops hdropb]
      exact .none
    | false =>
      rw [serve_of_drops hdropa, serve_of_keeps hdropb, Option.bind_some,
        serve_of_drops ((drops_congr (ha _)).trans hdropa)]
      exact .none
  | false =>
    cases hdropb : b.drops row with
    | true =>
      rw [serve_of_keeps hdropa, serve_of_drops hdropb, Option.bind_some,
        serve_of_drops ((drops_congr (hb _)).trans hdropb)]
      exact .none
    | false =>
      rw [serve_of_keeps hdropa, serve_of_keeps hdropb, Option.bind_some, Option.bind_some,
        serve_of_keeps ((drops_congr (hb _)).trans hdropb),
        serve_of_keeps ((drops_congr (ha _)).trans hdropa), portion_congr (ha _),
        portion_congr (hb _)]
      exact .some (row.same_insert_comm h.fields _ _)

/-- **Independent relations may be embedded in any order.** -/
theorem serveAll_perm {deals deals' : List Deal} (hperm : deals.Perm deals')
    (h : deals.Pairwise Independent) (rows : List Row) :
    List.Forall₂ Row.Same (serveAll deals rows) (serveAll deals' rows) := by
  -- on how the one order comes of the other: two neighbours change places at a time
  induction hperm generalizing rows with
  | nil => exact Row.forall₂_same_iff.2 rfl
  | cons d _ ih => exact ih (List.pairwise_cons.1 h).2 (rows.filterMap d.serve)
  | swap a b deals =>
    have hab : Independent a b := ((List.pairwise_cons.1 h).1 a List.mem_cons_self).symm
    have hswap : List.Forall₂ Row.Same ((rows.filterMap b.serve).filterMap a.serve)
        ((rows.filterMap a.serve).filterMap b.serve) := by
      rw [List.filterMap_filterMap, List.filterMap_filterMap]
      have hrow : ∀ row row', row = row' → Option.Rel Row.Same ((b.serve row).bind a.serve)
          ((a.serve row').bind b.serve) := by
        rintro row _ rfl
        exact serve_comm hab.symm row
      exact List.rel_filterMap hrow (List.forall₂_refl rows)
    exact serveAll_same deals hswap
  | trans hperm _ ih ih' =>
    exact Row.forall₂_same_trans (ih h rows)
      (ih' (h.perm hperm fun hab => hab.symm) rows)

end Deal

/-! ### Levels request by request -/

end Embed

/-- The nesting of some requests is that of the first with that of the others after it. -/
theorem Nesting.exists_ofRequests_cons (request : Request) :
    ∃ selection inside, ∀ rest,
      ofRequests (request :: rest) = .cons request selection inside (ofRequests rest) := by
  cases hparse : Selection.parse request.columns with
  | error v => exact ⟨_, _, fun _ => ofRequests_cons_error hparse⟩
  | ok selection => exact ⟨_, _, fun _ => ofRequests_cons_ok hparse⟩

theorem Nesting.Registered.of_mem {relations : Relations} {owner : String}
    {requests : List Request} (h : (ofRequests requests).Registered relations owner)
    {request : Request} (hrequest : request ∈ requests) :
    (ofRequests [request]).Registered relations owner := by
  induction requests with
  | nil => cases hrequest
  | cons r rest ih =>
    obtain ⟨selection, inside, hnesting⟩ := exists_ofRequests_cons r
    rw [hnesting] at h
    rcases List.mem_cons.1 hrequest with rfl | hrest
    · rw [hnesting, ofRequests_nil]
      exact ⟨h.1, h.2.1, trivial⟩
    · exact ih h.2.2 hrest

theorem Nesting.KeepsKeys.of_mem {client : Client} {owner : String} {requests : List Request}
    (h : (ofRequests requests).KeepsKeys client owner) {request : Request}
    (hrequest : request ∈ requests) : (ofRequests [request]).KeepsKeys client owner := by
  induction requests with
  | nil => cases hrequest
  | cons r rest ih =>
    obtain ⟨selection, inside, hnesting⟩ := exists_ofRequests_cons r
    rw [hnesting] at h
    rcases List.mem_cons.1 hrequest with rfl | hrest
    · rw [hnesting, ofRequests_nil]
      exact ⟨h.1, h.2.1, trivial⟩
    · exact ih h.2.2 hrest

namespace Embed

theorem resolve_cons (client : Client) (owner : String) (request : Request)
    (rest : List Request) (rows : List Row) :
    resolve client owner (request :: rest) rows =
      resolve client owner [request] rows >>= resolve client owner rest := by
  obtain ⟨selection, inside, hnesting⟩ := Nesting.exists_ofRequests_cons request
  simp only [resolve, hnesting, Nesting.ofRequests_nil, embedAll_singleton]
  rfl

/-! ### Where the engine answers out of fixed rows -/

section

variable {σ : Type} {client : Client} {held : Holdings} {ex : Executor σ}

/-- What becomes of a row alone, if anything does. -/
def alone (ex : Executor σ) (ids : Nat → String) (s : Session σ)
    (act : List Row → Action (List Row)) (row : Row) : List Row :=
  match (Dialogue.run ex ids (act [row]).run s).1 with
  | .ok out => out
  | .error _ => []

variable {ids : Nat → String} {s : Session σ}

/-- Embedding a nesting in some rows is embedding it in each of them alone. -/
theorem eq_flatMap_alone (hex : AnswersLookups client held ex) {n : Nesting} {table : String}
    (hregistered : n.Registered client.relations table) (hkeeps : n.KeepsKeys client table)
    {rows out : List Row} {es : List Exchange}
    (h : (embedAll client n table rows).Course es (.ok out))
    (hes : ∀ x ∈ es, AnsweredFrom client held x) :
    out = rows.flatMap (alone ex ids s (embedAll client n table)) := by
  obtain ⟨f, hf, -⟩ := exists_rowwise_embedAll hregistered hkeeps h hes
  have hsame : ∀ row ∈ rows, f row = alone ex ids s (embedAll client n table) row := by
    intro row hrow
    have hone := hf [row] (List.cons_subset.2 ⟨hrow, List.nil_subset rows⟩) _ _
      (Action.course_run ex ids (embedAll client n table [row]) s)
      (answeredFrom_transcript hex ids (embedAll client n table [row]).run s)
    rw [alone, hone, List.flatMap_singleton]
  have hout := Except.ok.inj (hf rows (List.Subset.refl rows) es _ h hes)
  rw [hout]
  exact List.flatMap_congr hsame

/-- What becomes of a row alone has its cells, but for the fields of the nesting. -/
theorem preserves_alone (hex : AnswersLookups client held ex) {n : Nesting} {table : String}
    (hregistered : n.Registered client.relations table) (hkeeps : n.KeepsKeys client table) :
    Preserves (alone ex ids s (embedAll client n table)) n.fields := by
  intro row r hr column hcolumn
  rw [alone] at hr
  split at hr
  · next out hrun =>
    have hcourse := Action.course_run ex ids (embedAll client n table [row]) s
    have hanswered := answeredFrom_transcript hex ids (embedAll client n table [row]).run s
    rw [hrun] at hcourse
    obtain ⟨f, hf, hpreserves⟩ := exists_rowwise_embedAll hregistered hkeeps hcourse hanswered
    have hout := Except.ok.inj (hf [row] (List.Subset.refl _) _ _ hcourse hanswered)
    rw [List.flatMap_singleton] at hout
    exact hpreserves row r (hout ▸ hr) column hcolumn
  · cases hr

/-- Where embedding a registered relation succeeds, there are no rows, or what is gathered for them
is spliced in. -/
theorem exists_gathered_of_course_embedOne {owner : String} {request : Request}
    {selection : Except Violation Selection} {inside : List Row → Action (List Row)}
    {relation : Relation} (hrelation : client.relations.get? owner request.table = some relation)
    {rows out : List Row} {es : List Exchange}
    (h : (embedOne client owner request selection inside rows).Course es (.ok out)) :
    rows = [] ∧ out = [] ∨ ∃ gathered,
      Gathers client request selection inside
        (relation.link client.settings.primaryKey).relatedColumn
        (wantedKeys (relation.link client.settings.primaryKey).ownerColumn rows) es
        (.ok gathered) ∧
      out = splice (relation.link client.settings.primaryKey) request gathered.helpers
        gathered.rows rows := by
  obtain ⟨rfl, -, hr⟩ | ⟨-, e, -, -, hr⟩ | ⟨-, found, g, hfound, hg, hr⟩ :=
    course_embedOne_iff.1 h
  · cases hr
    exact .inl ⟨rfl, rfl⟩
  · cases hr
  · rw [Client.findRelation, hrelation] at hfound
    cases hfound
    cases g with
    | error e => cases hr
    | ok gathered => exact .inr ⟨gathered, hg, Except.ok.inj hr⟩

/-- `d.Serves client held owner request`: embedding the request in any rows of the owner, where it
succeeds, makes of each row what the deal does. -/
structure Deal.Serves (client : Client) (held : Holdings) (owner : String) (request : Request)
    (d : Deal) : Prop where
  request_eq : d.request = request
  registered : ∃ relation, client.relations.get? owner request.table = some relation ∧
    d.link = relation.link client.settings.primaryKey
  serves : ∀ rows es out, (resolve client owner [request] rows).Course es (.ok out) →
    (∀ x ∈ es, AnsweredFrom client held x) → out = rows.filterMap d.serve

/-- **What a registered relation makes of a row is settled beforehand**, whatever the other rows
are: by what is held for it, with the nested rows inside. -/
theorem exists_deal (hex : AnswersLookups client held ex) (ids : Nat → String) (s : Session σ)
    {owner : String} {request : Request}
    (hregistered : (Nesting.ofRequests [request]).Registered client.relations owner)
    (hkeeps : (Nesting.ofRequests [request]).KeepsKeys client owner) :
    ∃ d : Deal, d.Serves client held owner request := by
  obtain ⟨selection, inside, hnesting⟩ := Nesting.exists_ofRequests_cons request
  rw [hnesting, Nesting.ofRequests_nil] at hregistered hkeeps
  obtain ⟨⟨relation, hrelation⟩, hreginside, -⟩ := hregistered
  obtain ⟨hkeep, hkeepinside, -⟩ := hkeeps
  have hresolve : ∀ rows, resolve client owner [request] rows =
      embedOne client owner request selection (embedAll client inside request.table) rows := by
    intro rows
    rw [resolve, hnesting, Nesting.ofRequests_nil, embedAll_singleton]
  cases hparts : Lookup.parts client request selection
      (relation.link client.settings.primaryKey).relatedColumn with
  | error v =>
    -- the lookup would be refused, so no row has a key
    refine ⟨⟨request, _, [], []⟩, rfl, ⟨relation, hrelation, rfl⟩, fun rows es out h _ => ?_⟩
    rw [hresolve] at h
    obtain ⟨rfl, rfl⟩ | ⟨gathered, hg, rfl⟩ := exists_gathered_of_course_embedOne hrelation h
    · rfl
    · rw [← splice_eq_filterMap]
      by_cases hkeys : wantedKeys (relation.link client.settings.primaryKey).ownerColumn rows = []
      · exact splice_of_wantedKeys_eq_nil hkeys ..
      · obtain ⟨p, hp⟩ := hg.exists_parts hkeys
        rw [hparts] at hp
        cases hp
  | ok p =>
    have hkey : ∀ row, ∀ r ∈ alone ex ids s (embedAll client inside request.table) row,
        r.get? (relation.link client.settings.primaryKey).relatedColumn =
          row.get? (relation.link client.settings.primaryKey).relatedColumn :=
      fun row r hr => preserves_alone hex hreginside hkeepinside row r hr _
        (hkeep relation hrelation)
    refine ⟨⟨request, relation.link client.settings.primaryKey, p.helpers,
      (held (Column.listSql p.columns) p.table.sql
        (relation.link client.settings.primaryKey).relatedColumn).flatMap
        (alone ex ids s (embedAll client inside request.table))⟩, rfl, ⟨relation, hrelation, rfl⟩,
      fun rows es out h hes => ?_⟩
    rw [hresolve] at h
    obtain ⟨rfl, rfl⟩ | ⟨gathered, hg, rfl⟩ := exists_gathered_of_course_embedOne hrelation h
    · rfl
    · rw [← splice_eq_filterMap]
      by_cases hkeys : wantedKeys (relation.link client.settings.primaryKey).ownerColumn rows = []
      · exact splice_of_wantedKeys_eq_nil hkeys ..
      · obtain ⟨later, nested, hnested, hlater, hgathered⟩ :=
          hg.of_answered (client.matchesBy_relatedColumn hrelation) hparts hkeys hes
        cases nested with
        | error e => cases hgathered
        | ok nestedRows =>
          cases hgathered
          have halone : nestedRows = _ :=
            @eq_flatMap_alone _ client held ex ids s hex inside _ hreginside hkeepinside _ _ _
              hnested hlater
          rw [halone]
          refine splice_congr fun row hrow => ?_
          -- matched rows: of what the row's own key finds, whoever else asks
          rw [filter_matched_flatMap hkey, filter_matched_flatMap hkey,
            held.filter_lookup p _ hrow]

/-! ### A level of relations -/

/-- Where each relation of a level has its deal, the level makes of the rows what the deals do, one
after the other. -/
theorem eq_serveAll_of_course_resolve {owner : String} {requests : List Request}
    {deal : Request → Deal}
    (hdeal : ∀ request ∈ requests, (deal request).Serves client held owner request)
    {rows out : List Row} {es : List Exchange}
    (h : (resolve client owner requests rows).Course es (.ok out))
    (hes : ∀ x ∈ es, AnsweredFrom client held x) :
    out = Deal.serveAll (requests.map deal) rows := by
  induction requests generalizing rows es with
  | nil =>
    rw [resolve, Nesting.ofRequests_nil] at h
    exact Except.ok.inj (Action.course_pure_iff.1 h).2
  | cons request rest ih =>
    rw [resolve_cons, Action.course_bind_iff] at h
    obtain ⟨e, -, he⟩ | ⟨mid, es₁, es₂, hone, hall, rfl⟩ := h
    · cases he
    · obtain rfl := (hdeal request List.mem_cons_self).serves rows es₁ mid hone
        fun x hx => hes x (List.mem_append_left _ hx)
      exact ih (fun r hr => hdeal r (List.mem_cons_of_mem _ hr)) hall
        fun x hx => hes x (List.mem_append_right _ hx)

/-- The deals of siblings are independent, if the siblings have fields of their own that are none of
the owner's keys. -/
theorem independent_of_serves {owner : String} {a b : Request} {d d' : Deal}
    (ha : d.Serves client held owner a) (hb : d'.Serves client held owner b)
    (hfields : a.field ≠ b.field) (hkeya : client.SparesKeys owner a.field)
    (hkeyb : client.SparesKeys owner b.field) : d.Independent d' where
  fields := by
    rw [ha.request_eq, hb.request_eq]
    exact hfields
  left := by
    obtain ⟨relation, hrelation, hlink⟩ := ha.registered
    rw [hlink, hb.request_eq]
    exact hkeyb.ownerColumn_ne hrelation
  right := by
    obtain ⟨relation, hrelation, hlink⟩ := hb.registered
    rw [hlink, ha.request_eq]
    exact hkeya.ownerColumn_ne hrelation

/-- **Siblings may be asked for in any order.** Let an engine answer every lookup out of fixed rows,
let every pair of tables that is met be registered, and let no nested relation overwrite the column
that the rows around it are matched by.  Let the requests of a level have fields of their own, of
which none is the primary key or a foreign key of the owner.  If embedding them succeeds in two
orders, in whatever sessions, the results have the same rows in the same order, equal as maps. -/
theorem run_resolve_perm {owner : String} {requests requests' : List Request}
    {rows out out' : List Row} {ids ids' : Nat → String} {s s' t t' : Session σ}
    (hex : AnswersLookups client held ex)
    (hregistered : (Nesting.ofRequests requests).Registered client.relations owner)
    (hkeeps : (Nesting.ofRequests requests).KeepsKeys client owner)
    (hdistinct : (requests.map Request.field).Nodup)
    (hfields : ∀ request ∈ requests, request.field ≠ client.settings.primaryKey ∧
      ∀ related relation, client.relations.get? owner related = some relation →
        relation.kind = .belongsTo → request.field ≠ relation.foreignKey)
    (hperm : requests.Perm requests')
    (h : Dialogue.run ex ids (resolve client owner requests rows).run s = (.ok out, s'))
    (h' : Dialogue.run ex ids' (resolve client owner requests' rows).run t = (.ok out', t')) :
    List.Forall₂ (fun row row' => ∀ column, row.get? column = row'.get? column) out out' := by
  have hexists : ∀ request ∈ requests, ∃ d : Deal, d.Serves client held owner request :=
    fun request hrequest =>
      exists_deal hex ids s (hregistered.of_mem hrequest) (hkeeps.of_mem hrequest)
  choose! deal hdeal using hexists
  -- both runs make of the rows what the deals do, each in its order
  have hcourse := Action.course_run ex ids (resolve client owner requests rows) s
  have hcourse' := Action.course_run ex ids' (resolve client owner requests' rows) t
  rw [h] at hcourse
  rw [h'] at hcourse'
  have hout := eq_serveAll_of_course_resolve hdeal hcourse (answeredFrom_transcript hex ids _ s)
  have hout' := eq_serveAll_of_course_resolve
    (fun request hrequest => hdeal request (hperm.mem_iff.2 hrequest)) hcourse'
    (answeredFrom_transcript hex ids' _ t)
  have hindependent : (requests.map deal).Pairwise Deal.Independent := by
    rw [List.pairwise_map]
    refine (List.pairwise_map.1 hdistinct).imp_of_mem fun ha hb hne => ?_
    exact independent_of_serves (hdeal _ ha) (hdeal _ hb) hne (hfields _ ha) (hfields _ hb)
  rw [hout, hout']
  exact Deal.serveAll_perm (hperm.map deal) hindependent rows

end

/-! ### Two siblings in both orders -/

/-- The same invoices, with their lines set before their customer. -/
def invoicesLinesFirst : List Row :=
  [.ofFields [("id", .str "1"), ("customer_id", .str "7"),
      ("lines", .arr [.obj [("sku", .str "pen")], .obj [("sku", .str "ink")]]),
      ("customers", adaWithCountry)],
    .ofFields [("id", .str "3"), ("customer_id", .str "7"), ("lines", .arr []),
      ("customers", adaWithCountry)]]

theorem filled?_linesFirst :
    filled? ledger (tablesHeld ledgerTables)
      (Nesting.ofRequests [linesOfInvoice, customerOfInvoice]) "invoices" ledgerInvoices =
        some invoicesLinesFirst := by
  rw [ofRequests_linesOfInvoice, ofRequests_customerOfInvoice, Nesting.ofRequests_nil]
  rfl

/-- The customers are embedded in all invoices and the lines in those that are left, or the lines in
all and the customers after them: the two results differ in the order of cells only. -/
theorem run_resolve_perm_ledgerInvoices :
    AnswersLookups ledger (tablesHeld ledgerTables) (reader ledgerTables) ∧
      ∀ ids ids' s t, ∃ s' t',
        Dialogue.run (reader ledgerTables) ids (resolve ledger "invoices"
          [customerOfInvoice, linesOfInvoice] ledgerInvoices).run s =
            (.ok invoicesWithLines, s') ∧
        Dialogue.run (reader ledgerTables) ids' (resolve ledger "invoices"
          [linesOfInvoice, customerOfInvoice] ledgerInvoices).run t =
            (.ok invoicesLinesFirst, t') ∧
        List.Forall₂ (fun row row' => ∀ column, row.get? column = row'.get? column)
          invoicesWithLines invoicesLinesFirst := by
  -- Neither field covers a column by which rows are matched.
  have hfields : ∀ request ∈ [customerOfInvoice, linesOfInvoice],
      request.field ≠ ledger.settings.primaryKey ∧
        ∀ related relation, ledger.relations.get? "invoices" related = some relation →
          relation.kind = .belongsTo → request.field ≠ relation.foreignKey := by
    intro request hrequest
    have hplain : ∀ column ∈ ledger.settings.primaryKey ::
        ledger.relations.entries.map (·.2.foreignKey), request.field ≠ column := by
      rcases List.mem_cons.1 hrequest with rfl | hrequest
      · decide
      · rw [List.mem_singleton.1 hrequest]
        decide
    exact ⟨hplain _ (mem_of_matchesBy (.inl rfl)), fun related relation hget _ =>
      hplain _ (mem_of_matchesBy (.inr ⟨_, related, relation, hget, rfl⟩))⟩
  refine ⟨answersLookups_ledger, fun ids ids' s t => ?_⟩
  obtain ⟨s', h⟩ := run_resolve_of_filled? answersLookups_ledger filled?_customersFirst ids s
  obtain ⟨t', h'⟩ := run_resolve_of_filled? answersLookups_ledger filled?_linesFirst ids' t
  exact ⟨s', t', h, h', run_resolve_perm answersLookups_ledger registered_ledger keepsKeys_ledger
    (by decide) hfields (List.Perm.swap ..) h h'⟩

end Embed

end Graft
