/-
Graft/Proofs/Embed/Batch.lean

Embedding in many rows at once is embedding in each of them alone.

A lookup asks for the keys of all rows, so that what one row is given might
depend on the rows beside it.  It does not, if the engine answers each lookup
out of a fixed list (`Holdings`): the related rows that are matched with a row
are among the answers to every lookup that asks for the row's key.  Embedding
is then row by row,

    Rowwise client held act rows f
      =  act on any of `rows` ends in `f` of each of these, in order,

at every level, the nested rows included.  Nested relations are embedded before
related rows are handed out, so they must not overwrite the column by which
that is done (`Nesting.KeepsKeys`).

What such an engine leads to can be said without any statement (`filled?`,
`eq_of_course_embedAll`).  An engine that reads the statements it is sent, and
answers from the tables that they name, is one (`answersLookups_reader`).
-/
import Graft.Proofs.Embed.Splice

namespace Graft

/-! ### Registered nestings -/

/-- The fields that the requests of one level are embedded in. -/
def Nesting.fields : Nesting → List String
  | .nil => []
  | .cons request _ _ rest => request.field :: rest.fields

/-- Every pair of tables that is met, at any depth, is registered. -/
def Nesting.Registered (relations : Relations) : Nesting → String → Prop
  | .nil, _ => True
  | .cons request _ inside rest, owner =>
    (∃ relation, relations.get? owner request.table = some relation) ∧
      inside.Registered relations request.table ∧ rest.Registered relations owner

/-- No nested relation is embedded under the name of the column that the rows around it are matched
by. -/
def Nesting.KeepsKeys (client : Client) : Nesting → String → Prop
  | .nil, _ => True
  | .cons request _ inside rest, owner =>
    (∀ relation, client.relations.get? owner request.table = some relation →
      (relation.link client.settings.primaryKey).relatedColumn ∉ inside.fields) ∧
      inside.KeepsKeys client request.table ∧ rest.KeepsKeys client owner

/-- The columns that related rows are looked up by: the primary key and the registered foreign
keys. -/
def Client.MatchesBy (client : Client) (column : String) : Prop :=
  column = client.settings.primaryKey ∨
    ∃ owner related relation, client.relations.get? owner related = some relation ∧
      column = relation.foreignKey

theorem Client.matchesBy_relatedColumn (client : Client) {owner related : String}
    {relation : Relation} (h : client.relations.get? owner related = some relation) :
    client.MatchesBy (relation.link client.settings.primaryKey).relatedColumn := by
  obtain ⟨foreignKey, kind⟩ := relation
  cases kind with
  | belongsTo => exact .inl rfl
  | hasMany => exact .inr ⟨owner, related, _, h, rfl⟩

namespace Embed

/-! ### Engines with fixed rows -/

/-- The rows that an engine has for a column list, a table and the column that they are looked up
by. -/
abbrev Holdings := String → String → String → List Row

/-- Whether a row's cell in a column has the text of one of some keys. -/
def hasKeyAmong (column : String) (keys : List Value) (row : Row) : Bool :=
  (row.get? column).any fun v => keys.any (·.text == v.text)

/-- The rows that are held for a lookup and have one of its keys. -/
def Holdings.lookup (held : Holdings) (p : Lookup.Parts) (column : String) (keys : List Value) :
    List Row :=
  (held (Column.listSql p.columns) p.table.sql column).filter (hasKeyAmong column keys)

/-- Every lookup is answered with the rows that are held for it and have one of its keys. -/
def AnswersLookups {σ : Type} (client : Client) (held : Holdings) (ex : Executor σ) : Prop :=
  ∀ (p : Lookup.Parts) (table column : String) (keys : List Value) (engine : σ),
    client.MatchesBy column → Ident.parse column = .ok p.key → keys ≠ [] →
      (ex (p.statement table keys) engine).reply = .ok (held.lookup p column keys)

/-- The same of one exchange. -/
def AnsweredFrom (client : Client) (held : Holdings) (x : Exchange) : Prop :=
  ∀ (p : Lookup.Parts) (table column : String) (keys : List Value),
    client.MatchesBy column → Ident.parse column = .ok p.key → keys ≠ [] →
      x.statement = p.statement table keys → x.reply = .ok (held.lookup p column keys)

/-- The exchanges of a run are answered as the executor answers. -/
theorem answeredFrom_transcript {σ α : Type} {client : Client} {held : Holdings} {ex : Executor σ}
    (hex : AnswersLookups client held ex) (ids : Nat → String) (d : Dialogue α) (s : Session σ) :
    ∀ x ∈ d.transcript ex ids s, AnsweredFrom client held x := by
  intro x hx p table column keys hcolumn hkey hkeys hst
  obtain ⟨engine, hreply⟩ := Dialogue.reply_of_mem_transcript hx
  rw [hreply, hst]
  exact hex p table column keys engine hcolumn hkey hkeys

theorem hasKeyAmong_iff {column : String} {keys : List Value} {row : Row} :
    hasKeyAmong column keys row = true ↔
      ∃ v, row.get? column = some v ∧ v.text ∈ keys.map Value.text := by
  cases h : row.get? column <;> simp [hasKeyAmong, h]

/-- Rows that are looked up for some of the owner's rows are looked up for all of them. -/
theorem Holdings.lookup_subset (held : Holdings) (p : Lookup.Parts) (link : Link)
    {chosen rows : List Row} (h : chosen ⊆ rows) :
    held.lookup p link.relatedColumn (wantedKeys link.ownerColumn chosen) ⊆
      held.lookup p link.relatedColumn (wantedKeys link.ownerColumn rows) := by
  intro r hr
  obtain ⟨hheld, hkey⟩ := List.mem_filter.1 hr
  obtain ⟨v, hv, htext⟩ := hasKeyAmong_iff.1 hkey
  obtain ⟨row, hrow, hk⟩ := text_mem_wantedKeys_iff.1 htext
  exact List.mem_filter.2 ⟨hheld, hasKeyAmong_iff.2
    ⟨v, hv, text_mem_wantedKeys_iff.2 ⟨row, h hrow, hk⟩⟩⟩

/-- A lookup for some rows finds all that is held for each of them. -/
theorem Holdings.filter_lookup (held : Holdings) (p : Lookup.Parts) (link : Link)
    {rows : List Row} {row : Row} (hrow : row ∈ rows) :
    (held.lookup p link.relatedColumn (wantedKeys link.ownerColumn rows)).filter
        (matched link row) =
      (held (Column.listSql p.columns) p.table.sql link.relatedColumn).filter
        (matched link row) := by
  rw [lookup, List.filter_filter]
  refine List.filter_congr fun r _ => ?_
  rw [Bool.and_eq_left_iff_imp]
  intro hmatched
  obtain ⟨k, hk, hr⟩ := matched_iff.1 hmatched
  obtain ⟨v, hv, -, rfl⟩ := rowKey?_eq_some_iff.1 hr
  exact hasKeyAmong_iff.2 ⟨v, hv, text_mem_wantedKeys_iff.2 ⟨row, hrow, hk⟩⟩

/-! ### Splicing row by row -/

theorem splice_eq_flatMap (link : Link) (request : Request) (helpers : List String)
    (related rows : List Row) :
    splice link request helpers related rows =
      rows.flatMap fun row => splice link request helpers related [row] := by
  induction rows with
  | nil => simp [splice]
  | cons row rest ih =>
    rw [List.flatMap_cons, ← ih]
    simp only [splice]
    split
    · by_cases h : related.any (matched link row) = true <;> simp [h]
    · simp

/-- Only the related rows that are matched with a row make a difference to it. -/
theorem splice_congr {link : Link} {request : Request} {helpers : List String}
    {related related' rows : List Row}
    (h : ∀ row ∈ rows,
      related.filter (matched link row) = related'.filter (matched link row)) :
    splice link request helpers related rows = splice link request helpers related' rows := by
  -- What a row is given, and whether it is kept, depend only on the rows that match it.
  have hportion : ∀ row ∈ rows,
      portion link helpers related row = portion link helpers related' row := by
    intro row hrow
    rw [portion, portion, ← List.head?_filter, ← List.head?_filter, h row hrow]
  have hany : ∀ row ∈ rows,
      related.any (matched link row) = related'.any (matched link row) := by
    intro row hrow
    have hfilter : ∀ l : List Row,
        l.any (matched link row) = (l.filter (matched link row)).any fun _ => true := by
      intro l
      rw [List.any_filter]
      simp
    rw [hfilter, hfilter, h row hrow]
  simp only [splice]
  split
  · rw [List.filter_congr hany]
    refine List.map_congr_left fun row hrow => ?_
    rw [hportion row (List.mem_filter.1 hrow).1]
  · refine List.map_congr_left fun row hrow => ?_
    rw [hportion row hrow]

/-- Where no row has a key, the related rows make no difference. -/
theorem splice_of_wantedKeys_eq_nil {link : Link} {rows : List Row}
    (hkeys : wantedKeys link.ownerColumn rows = []) (request : Request)
    (helpers helpers' : List String) (related related' : List Row) :
    splice link request helpers related rows = splice link request helpers' related' rows := by
  have hnone : ∀ helpers related,
      splice link request helpers related rows = splice link request [] [] rows := by
    intro helpers related
    rw [splice_nil, ← splice_nil link request helpers]
    refine splice_congr fun row hrow => ?_
    have hkey := wantedKeys_eq_nil_iff.1 hkeys row hrow
    rw [List.filter_nil, List.filter_eq_nil_iff]
    intro r _
    rw [matched_eq_false hkey r]
    exact Bool.false_ne_true
  rw [hnone helpers related, hnone helpers' related']

/-- A row that was spliced keeps all its cells but the one that takes the related rows. -/
theorem get?_of_mem_splice {link : Link} {request : Request} {helpers : List String}
    {related : List Row} {row r : Row} (h : r ∈ splice link request helpers related [row])
    {column : String} (hcolumn : column ≠ request.field) : r.get? column = row.get? column := by
  simp only [splice, List.mem_map] at h
  obtain ⟨row', hrow', rfl⟩ := h
  have hsame : row' = row := by
    split at hrow'
    · exact List.mem_singleton.1 (List.mem_filter.1 hrow').1
    · exact List.mem_singleton.1 hrow'
  rw [Row.get?_insert, if_neg hcolumn, hsame]

/-! ### Actions that work row by row -/

/-- `Rowwise client held act rows f`: with an engine that answers from what is held, `act` on any
of the rows ends in `f` of each of these, in order. -/
def Rowwise (client : Client) (held : Holdings) (act : List Row → Action (List Row))
    (rows : List Row) (f : Row → List Row) : Prop :=
  ∀ chosen ⊆ rows, ∀ es r, (act chosen).Course es r → (∀ x ∈ es, AnsweredFrom client held x) →
    r = .ok (chosen.flatMap f)

/-- The rows that become of a row have its cells in all columns but some. -/
def Preserves (f : Row → List Row) (changed : List String) : Prop :=
  ∀ row, ∀ r ∈ f row, ∀ column, column ∉ changed → r.get? column = row.get? column

variable {client : Client} {held : Holdings}

/-- Where the rows inside a related row keep its key, they are matched as it is. -/
theorem filter_matched_flatMap {link : Link} {f : Row → List Row}
    (hf : ∀ row, ∀ r ∈ f row, r.get? link.relatedColumn = row.get? link.relatedColumn)
    (row : Row) (related : List Row) :
    (related.flatMap f).filter (matched link row) =
      (related.filter (matched link row)).flatMap f := by
  induction related with
  | nil => rfl
  | cons r rest ih =>
    -- `f` keeps the key, so its rows are matched as the row they are made from.
    have hsame : ∀ r' ∈ f r, matched link row r' = matched link row r := by
      intro r' hr'
      rw [matched, matched, hf r r' hr']
    rw [List.flatMap_cons, List.filter_append, ih]
    by_cases hr : matched link row r = true
    · rw [List.filter_cons_of_pos hr, List.flatMap_cons]
      congr 1
      exact List.filter_eq_self.2 fun r' hr' => (hsame r' hr').trans hr
    · rw [List.filter_cons_of_neg hr]
      have hnone : (f r).filter (matched link row) = [] :=
        List.filter_eq_nil_iff.2 fun r' hr' => by rw [hsame r' hr']; exact hr
      rw [hnone, List.nil_append]

/-- Gathering for some keys does not succeed where the lookup is refused. -/
theorem Gathers.exists_parts {request : Request} {selection : Except Violation Selection}
    {inside : List Row → Action (List Row)} {column : String} {keys : List Value}
    {es : List Exchange} {gathered : Gathered}
    (h : Gathers client request selection inside column keys es (.ok gathered))
    (hkeys : keys ≠ []) : ∃ p, Lookup.parts client request selection column = .ok p := by
  generalize hg : Except.ok gathered = g at h
  cases h with
  | nothing => exact absurd rfl hkeys
  | refused => cases hg
  | failed => cases hg
  | answered hparts => exact ⟨_, hparts⟩

/-- What is gathered where the engine answers from what it holds. -/
theorem Gathers.of_answered {request : Request} {selection : Except Violation Selection}
    {inside : List Row → Action (List Row)} {column : String} {keys : List Value}
    {p : Lookup.Parts} {es : List Exchange} {g : Except Error Gathered}
    (hmatches : client.MatchesBy column)
    (hparts : Lookup.parts client request selection column = .ok p) (hkeys : keys ≠ [])
    (h : Gathers client request selection inside column keys es g)
    (hes : ∀ x ∈ es, AnsweredFrom client held x) :
    ∃ later nested, (inside (held.lookup p column keys)).Course later nested ∧
      (∀ x ∈ later, AnsweredFrom client held x) ∧
      g = nested.map fun rows => { helpers := p.helpers, rows } := by
  rw [gathers_iff_of_parts hkeys hparts] at h
  obtain ⟨reply, later, rfl, hreply⟩ := h
  have hanswer : reply = .ok (held.lookup p column keys) :=
    hes _ List.mem_cons_self p request.table column keys hmatches (Lookup.key_of_parts hparts)
      hkeys rfl
  subst hanswer
  obtain ⟨nested, hnested, rfl⟩ := hreply
  exact ⟨later, nested, hnested, fun x hx => hes x (List.mem_cons_of_mem _ hx), rfl⟩

/-- Gathering for some of the rows that another gathering was for: either no row has a key, or the
related rows are those of the same lookup, with the same nested rows inside. -/
theorem splice_of_gathers {request : Request} {selection : Except Violation Selection}
    {inside : List Row → Action (List Row)} {link : Link} {p : Lookup.Parts} {rows : List Row}
    {f : Row → List Row}
    (hmatches : client.MatchesBy link.relatedColumn)
    (hparts : Lookup.parts client request selection link.relatedColumn = .ok p)
    (hinside : Rowwise client held inside
      (held.lookup p link.relatedColumn (wantedKeys link.ownerColumn rows)) f)
    (hf : ∀ row, ∀ r ∈ f row, r.get? link.relatedColumn = row.get? link.relatedColumn)
    {chosen : List Row} (hchosen : chosen ⊆ rows) {es : List Exchange}
    {g : Except Error Gathered}
    (h : Gathers client request selection inside link.relatedColumn
      (wantedKeys link.ownerColumn chosen) es g)
    (hes : ∀ x ∈ es, AnsweredFrom client held x) :
    ∃ gathered, g = .ok gathered ∧
      splice link request gathered.helpers gathered.rows chosen =
        splice link request p.helpers
          ((held.lookup p link.relatedColumn (wantedKeys link.ownerColumn rows)).flatMap f)
          chosen := by
  by_cases hkeys : wantedKeys link.ownerColumn chosen = []
  · -- no key: the related rows are matched with none of the chosen ones
    rw [hkeys, gathers_nil_iff] at h
    obtain ⟨-, rfl⟩ := h
    exact ⟨_, rfl, splice_of_wantedKeys_eq_nil hkeys ..⟩
  · obtain ⟨later, nested, hnested, hlater, rfl⟩ :=
      h.of_answered hmatches hparts hkeys hes
    obtain rfl := hinside _ (held.lookup_subset p link hchosen) later nested hnested hlater
    refine ⟨_, rfl, splice_congr fun row hrow => ?_⟩
    -- matched rows: of what the row's own key finds, whoever else asks
    rw [filter_matched_flatMap hf, filter_matched_flatMap hf, held.filter_lookup p link hrow,
      held.filter_lookup p link (hchosen hrow)]

/-! ### One relation and all of them -/

/-- To be row by row, an embedding of one relation has to be so where there are rows to embed in. -/
theorem rowwise_embedOne {owner : String} {request : Request}
    {selection : Except Violation Selection} {inside : List Row → Action (List Row)}
    {rows : List Row} {found : FoundRelation} {f : Row → List Row}
    (hfound : ∀ rows, client.findRelation owner request.table rows = .ok found)
    (h : ∀ chosen ⊆ rows, chosen ≠ [] → ∀ es g,
      Gathers client request selection inside (found.link client).relatedColumn
        (wantedKeys (found.link client).ownerColumn chosen) es g →
      (∀ x ∈ es, AnsweredFrom client held x) →
      ∃ gathered, g = .ok gathered ∧
        splice (found.link client) request gathered.helpers gathered.rows chosen =
          chosen.flatMap f) :
    Rowwise client held (embedOne client owner request selection inside) rows f := by
  intro chosen hchosen es r hcourse hes
  by_cases hnil : chosen = []
  · subst hnil
    rw [course_embedOne_iff] at hcourse
    simp only [ne_eq, not_true_eq_false, false_and, or_false, true_and] at hcourse
    exact hcourse.2
  · rw [course_embedOne_found_iff hnil (hfound chosen)] at hcourse
    obtain ⟨g, hg, rfl⟩ := hcourse
    obtain ⟨gathered, rfl, hsplice⟩ := h chosen hchosen hnil es g hg hes
    exact congrArg Except.ok hsplice

/-- Embedding one relation is row by row, if embedding what is nested in it is, and leaves the key
of the related rows alone. -/
theorem exists_rowwise_embedOne {owner : String} {request : Request}
    {selection : Except Violation Selection} {inside : List Row → Action (List Row)}
    {found : FoundRelation} {changed : List String}
    (hfound : ∀ rows, client.findRelation owner request.table rows = .ok found)
    (hmatches : client.MatchesBy (found.link client).relatedColumn)
    (hinside : ∀ replied es out, (inside replied).Course es (.ok out) →
      (∀ x ∈ es, AnsweredFrom client held x) →
      ∃ f, Rowwise client held inside replied f ∧ Preserves f changed)
    (hkeep : (found.link client).relatedColumn ∉ changed)
    {rows out : List Row} {es : List Exchange}
    (h : (embedOne client owner request selection inside rows).Course es (.ok out))
    (hes : ∀ x ∈ es, AnsweredFrom client held x) :
    ∃ f, Rowwise client held (embedOne client owner request selection inside) rows f ∧
      Preserves f [request.field] := by
  have hpreserves : ∀ helpers related, Preserves
      (fun row => splice (found.link client) request helpers related [row]) [request.field] := by
    intro helpers related row r hr column hcolumn
    exact get?_of_mem_splice hr (by simpa using hcolumn)
  by_cases hkeys : wantedKeys (found.link client).ownerColumn rows = []
  · -- no row has a key, and so has none of those that are chosen from them
    refine ⟨_, rowwise_embedOne hfound fun chosen hchosen _ es' g hg _ => ?_, hpreserves [] []⟩
    have hnone : wantedKeys (found.link client).ownerColumn chosen = [] :=
      wantedKeys_eq_nil_iff.2 fun row hrow => wantedKeys_eq_nil_iff.1 hkeys row (hchosen hrow)
    obtain ⟨-, rfl⟩ := gathers_nil_iff.1 (hnone ▸ hg)
    exact ⟨_, rfl, splice_eq_flatMap ..⟩
  · have hrows : rows ≠ [] := by
      rintro rfl
      exact hkeys rfl
    rw [course_embedOne_found_iff hrows (hfound rows)] at h
    obtain ⟨g, hg, hout⟩ := h
    cases g with
    | error e => cases hout
    | ok gathered =>
      obtain ⟨p, hparts⟩ := hg.exists_parts hkeys
      obtain ⟨later, nested, hnested, hlater, hgathered⟩ :=
        hg.of_answered hmatches hparts hkeys hes
      cases nested with
      | error e => cases hgathered
      | ok nestedRows =>
        obtain ⟨f, hrowwise, hf⟩ := hinside _ _ _ hnested hlater
        have hkey : ∀ row, ∀ r ∈ f row,
            r.get? (found.link client).relatedColumn = row.get? (found.link client).relatedColumn :=
          fun row r hr => hf row r hr _ hkeep
        refine ⟨_, rowwise_embedOne hfound fun chosen hchosen _ es' g' hg' hes' => ?_,
          hpreserves p.helpers ((held.lookup p (found.link client).relatedColumn
            (wantedKeys (found.link client).ownerColumn rows)).flatMap f)⟩
        obtain ⟨gathered', rfl, hsplice⟩ :=
          splice_of_gathers hmatches hparts hrowwise hkey hchosen hg' hes'
        exact ⟨gathered', rfl, hsplice.trans (splice_eq_flatMap ..)⟩

/-- Embedding a registered nesting is row by row, if it succeeds. -/
theorem exists_rowwise_embedAll {n : Nesting} {owner : String}
    (hregistered : n.Registered client.relations owner) (hkeeps : n.KeepsKeys client owner)
    {rows out : List Row} {es : List Exchange}
    (h : (embedAll client n owner rows).Course es (.ok out))
    (hes : ∀ x ∈ es, AnsweredFrom client held x) :
    ∃ f, Rowwise client held (embedAll client n owner) rows f ∧ Preserves f n.fields := by
  -- on the nesting: what is nested in the first relation, and then what comes after it
  induction n generalizing owner rows out es with
  | nil =>
    refine ⟨fun row => [row], ?_, ?_⟩
    · intro chosen _ es' r hcourse _
      obtain ⟨-, rfl⟩ := Action.course_pure_iff.1 hcourse
      simp
    · intro row r hr column _
      rw [List.mem_singleton.1 hr]
  | cons request selection inside rest ihinside ihrest =>
    obtain ⟨⟨relation, hrelation⟩, hreginside, hregrest⟩ := hregistered
    obtain ⟨hkeep, hkeepinside, hkeeprest⟩ := hkeeps
    rw [embedAll, Action.course_bind_iff] at h
    obtain ⟨e, -, he⟩ | ⟨mid, es₁, es₂, hone, hall, rfl⟩ := h
    · cases he
    · have hfound : ∀ rows, client.findRelation owner request.table rows =
          .ok ⟨relation, .registered⟩ := by
        intro rows
        rw [Client.findRelation, hrelation]
      -- the first relation: nothing nested in it overwrites the key of its rows
      obtain ⟨f, hf, hpf⟩ := exists_rowwise_embedOne hfound
        (client.matchesBy_relatedColumn hrelation)
        (fun replied es' out' hcourse hes' => ihinside hreginside hkeepinside hcourse hes')
        (hkeep relation hrelation) hone fun x hx => hes x (List.mem_append_left _ hx)
      have hmid := hf rows (List.Subset.refl rows) es₁ _ hone
        fun x hx => hes x (List.mem_append_left _ hx)
      obtain rfl := Except.ok.inj hmid
      obtain ⟨g, hg, hpg⟩ := ihrest hregrest hkeeprest hall
        fun x hx => hes x (List.mem_append_right _ hx)
      refine ⟨fun row => (f row).flatMap g, ?_, ?_⟩
      · intro chosen hchosen es' r hcourse hes'
        rw [embedAll, Action.course_bind_iff] at hcourse
        obtain ⟨e, hone', rfl⟩ | ⟨mid', es₁', es₂', hone', hall', rfl⟩ := hcourse
        · cases hf chosen hchosen es' _ hone' hes'
        · have hmid' := hf chosen hchosen es₁' _ hone'
            fun x hx => hes' x (List.mem_append_left _ hx)
          obtain rfl := Except.ok.inj hmid'
          -- the rows that the others are embedded in become of chosen rows too
          have hsubset : chosen.flatMap f ⊆ rows.flatMap f := by
            intro r hr
            obtain ⟨row, hrow, hr⟩ := List.mem_flatMap.1 hr
            exact List.mem_flatMap.2 ⟨row, hchosen hrow, hr⟩
          rw [hg _ hsubset es₂' r hall' fun x hx => hes' x (List.mem_append_right _ hx),
            List.flatMap_assoc]
      · intro row r hr column hcolumn
        obtain ⟨r', hr', hr⟩ := List.mem_flatMap.1 hr
        rw [Nesting.fields, List.mem_cons, not_or] at hcolumn
        rw [hpg r' r hr column hcolumn.2, hpf row r' hr' column (by simpa using hcolumn.1)]

/-- **Embedding in many rows at once is embedding in each of them alone.**  Let an engine answer
every lookup out of fixed rows, let every pair of tables that is met be registered, and let no
nested relation overwrite the column that the rows around it are matched by.  If embedding some
requests in a list of rows succeeds, then so does embedding them in each of the rows, in whatever
session, and the first result is made of these others, in order. -/
theorem run_resolve_eq_flatMap {σ : Type} {ex : Executor σ} {ids : Nat → String} {owner : String}
    {requests : List Request} {rows out : List Row} {s s' : Session σ}
    (hex : AnswersLookups client held ex)
    (hregistered : (Nesting.ofRequests requests).Registered client.relations owner)
    (hkeeps : (Nesting.ofRequests requests).KeepsKeys client owner)
    (h : Dialogue.run ex ids (resolve client owner requests rows).run s = (.ok out, s')) :
    ∃ single : Row → List Row, out = rows.flatMap single ∧
      ∀ row ∈ rows, ∀ ids t,
        (Dialogue.run ex ids (resolve client owner requests [row]).run t).1 = .ok (single row) := by
  have hcourse := Action.course_run ex ids (resolve client owner requests rows) s
  have hanswered := answeredFrom_transcript hex ids (resolve client owner requests rows).run s
  rw [h] at hcourse
  obtain ⟨f, hf, -⟩ := exists_rowwise_embedAll hregistered hkeeps hcourse hanswered
  refine ⟨f, Except.ok.inj (hf rows (List.Subset.refl rows) _ _ hcourse hanswered), ?_⟩
  intro row hrow ids t
  have hone := hf [row] (List.cons_subset.2 ⟨hrow, List.nil_subset rows⟩) _ _
    (Action.course_run ex ids (resolve client owner requests [row]) t)
    (answeredFrom_transcript hex ids (resolve client owner requests [row]).run t)
  rw [hone, List.flatMap_singleton]

/-! ### Embedding out of fixed rows -/

/-- What a nesting makes of the rows of an owner, said of the rows that are held and without any
statement.  Nothing is said where a relation is not registered, or its lookup would be refused. -/
def filled? (client : Client) (held : Holdings) : Nesting → String → List Row → Option (List Row)
  | .nil, _, rows => some rows
  | .cons request selection inside rest, owner, rows => do
    let relation ← client.relations.get? owner request.table
    let link := relation.link client.settings.primaryKey
    let p ← (Lookup.parts client request selection link.relatedColumn).toOption
    let related ← filled? client held inside request.table
      (held.lookup p link.relatedColumn (wantedKeys link.ownerColumn rows))
    filled? client held rest owner (splice link request p.helpers related rows)

/-- **What an engine with fixed rows leads to**, by induction on the nesting: where something is
said of that, embedding succeeds with just this. -/
theorem eq_of_course_embedAll {n : Nesting} {owner : String} {rows out : List Row}
    (hfilled : filled? client held n owner rows = some out) {es : List Exchange}
    {r : Except Error (List Row)} (h : (embedAll client n owner rows).Course es r)
    (hes : ∀ x ∈ es, AnsweredFrom client held x) : r = .ok out := by
  induction n generalizing owner rows out es r with
  | nil =>
    obtain rfl := Option.some.inj hfilled
    exact (Action.course_pure_iff.1 h).2
  | cons request selection inside rest ihinside ihrest =>
    obtain ⟨relation, hrelation, hfilled⟩ := Option.bind_eq_some_iff.1 hfilled
    obtain ⟨p, hparts, hfilled⟩ := Option.bind_eq_some_iff.1 hfilled
    obtain ⟨related, hrelated, hfilled⟩ := Option.bind_eq_some_iff.1 hfilled
    rw [toOption_eq_some_iff] at hparts
    have hfound : client.findRelation owner request.table rows = .ok ⟨relation, .registered⟩ := by
      rw [Client.findRelation, hrelation]
    -- the first relation: whether there are rows and keys or not, its rows are spliced in
    have hone : ∀ {es r}, (embedOne client owner request selection
        (embedAll client inside request.table) rows).Course es r →
        (∀ x ∈ es, AnsweredFrom client held x) →
        r = .ok (splice (relation.link client.settings.primaryKey) request p.helpers related
          rows) := by
      intro es r hcourse hes
      by_cases hrows : rows = []
      · subst hrows
        rw [course_embedOne_iff] at hcourse
        simp only [ne_eq, not_true_eq_false, false_and, or_false, true_and] at hcourse
        rw [hcourse.2]
        cases hinner : request.inner <;> simp [splice, hinner]
      · rw [course_embedOne_found_iff hrows hfound] at hcourse
        obtain ⟨g, hg, rfl⟩ := hcourse
        by_cases hkeys : wantedKeys (relation.link client.settings.primaryKey).ownerColumn rows = []
        · obtain ⟨-, rfl⟩ := gathers_nil_iff.1 (hkeys ▸ hg)
          exact congrArg Except.ok (splice_of_wantedKeys_eq_nil hkeys ..)
        · obtain ⟨later, nested, hnested, hlater, rfl⟩ :=
            hg.of_answered (client.matchesBy_relatedColumn hrelation) hparts hkeys hes
          obtain rfl := ihinside hrelated hnested hlater
          rfl
    rw [embedAll, Action.course_bind_iff] at h
    obtain ⟨e, h, rfl⟩ | ⟨mid, es₁, es₂, h, hall, rfl⟩ := h
    · cases hone h hes
    · obtain rfl := Except.ok.inj (hone h fun x hx => hes x (List.mem_append_left _ hx))
      exact ihrest hfilled hall fun x hx => hes x (List.mem_append_right _ hx)

theorem run_resolve_of_filled? {σ : Type} {ex : Executor σ} (hex : AnswersLookups client held ex)
    {owner : String} {requests : List Request} {rows out : List Row}
    (hfilled : filled? client held (.ofRequests requests) owner rows = some out)
    (ids : Nat → String) (s : Session σ) :
    ∃ s', Dialogue.run ex ids (resolve client owner requests rows).run s = (.ok out, s') := by
  have hout := eq_of_course_embedAll hfilled
    (Action.course_run ex ids (resolve client owner requests rows) s)
    (answeredFrom_transcript hex ids (resolve client owner requests rows).run s)
  exact ⟨_, Prod.ext hout rfl⟩

/-! ### An engine that reads -/

/-- The text with which a lookup for some keys ends. -/
def membershipText (keys : List Value) : List Char :=
  (" IN (" ++ ", ".intercalate (keys.map fun _ => "?") ++ ")").toList

/-- The text of a statement as far as its list of keys. -/
def questionText (st : Statement) : List Char :=
  st.sql.toList.take (st.sql.toList.length - (membershipText st.params).length)

/-- What stands after the last space of a text. -/
def lastWord (text : List Char) : List Char :=
  (text.reverse.takeWhile (· != ' ')).reverse

theorem lastWord_append {word : List Char} (h : ' ' ∉ word) (before : List Char) :
    lastWord (before ++ ' ' :: word) = word := by
  have hall : ∀ c ∈ word.reverse, (c != ' ') = true := by
    intro c hc
    rw [bne_iff_ne]
    rintro rfl
    exact h (List.mem_reverse.1 hc)
  rw [lastWord, List.reverse_append, List.reverse_cons, List.append_assoc,
    List.takeWhile_append_of_pos hall, List.singleton_append, List.takeWhile_cons_of_neg (by simp),
    List.append_nil, List.reverse_reverse]

/-- An engine that has rows for each question, and searches them by the column named last. -/
def reader (tables : String → List Row) : Executor Unit := fun st _ =>
  { reply := .ok ((tables (String.ofList (questionText st))).filter
      (hasKeyAmong (String.ofList (lastWord (questionText st))) st.params))
    elapsed := 1, events := [], state := () }

/-- The rows that such an engine has for a lookup. -/
def tablesHeld (tables : String → List Row) : Holdings := fun columns table column =>
  tables ("SELECT " ++ columns ++ " FROM " ++ table ++ " WHERE " ++ column)

theorem questionText_statement (p : Lookup.Parts) (table : String) (keys : List Value) :
    questionText (p.statement table keys) =
      ("SELECT " ++ Column.listSql p.columns ++ " FROM " ++ p.table.sql ++ " WHERE " ++
        p.key.sql).toList := by
  have hsql : (p.statement table keys).sql.toList =
      ("SELECT " ++ Column.listSql p.columns ++ " FROM " ++ p.table.sql ++ " WHERE " ++
        p.key.sql).toList ++ membershipText keys := by
    simp only [Lookup.Parts.statement, membershipText, String.toList_append, List.append_assoc]
  have hparams : (p.statement table keys).params = keys := rfl
  rw [questionText, hsql, hparams]
  refine List.take_left' ?_
  rw [List.length_append, Nat.add_sub_cancel]

/-- It answers lookups, as long as the columns that rows are matched by are written as they are. -/
theorem answersLookups_reader (tables : String → List Row)
    (hplain : ∀ column key, client.MatchesBy column → Ident.parse column = .ok key →
      key.sql = column ∧ ' ' ∉ column.toList) :
    AnswersLookups client (tablesHeld tables) (reader tables) := by
  intro p table column keys engine hcolumn hkey _
  obtain ⟨hsql, hspace⟩ := hplain column p.key hcolumn hkey
  have hquestion := questionText_statement p table keys
  rw [hsql] at hquestion
  have hword : lastWord (questionText (p.statement table keys)) = column.toList := by
    rw [hquestion]
    have hwhere : " WHERE ".toList = " WHERE".toList ++ [' '] := rfl
    simp only [String.toList_append, hwhere, List.append_assoc, List.singleton_append]
    simp only [← List.append_assoc]
    exact lastWord_append hspace _
  have hparams : (p.statement table keys).params = keys := rfl
  rw [reader, hword, hquestion, hparams, String.ofList_toList, String.ofList_toList]
  rfl

/-- The columns that rows are matched by are the primary key and those of the registry. -/
theorem mem_of_matchesBy {column : String} (h : client.MatchesBy column) :
    column ∈ client.settings.primaryKey ::
      client.relations.entries.map (·.2.foreignKey) := by
  obtain rfl | ⟨owner, related, relation, hget, rfl⟩ := h
  · exact List.mem_cons_self
  · rw [Relations.get?, List.lookup_eq_some_iff] at hget
    obtain ⟨before, after, hentries, -⟩ := hget
    refine List.mem_cons_of_mem _ (List.mem_map.2 ⟨((owner, related), relation), ?_, rfl⟩)
    rw [hentries]
    exact List.mem_append_right _ List.mem_cons_self

/-! ### Invoices with their customers and lines -/

/-- Invoices belong to customers, and these to countries; and invoices have lines. -/
def ledger : Client where
  relations := ((({} : Relations).belongsTo "invoices" "customers" "customer_id").belongsTo
    "customers" "countries" "country_id").hasMany "invoices" "lines" "invoice_id"

/-- The country of a customer. -/
def countryOfCustomer : Request where
  table := "countries"
  alias? := none
  columns := "code"
  inner := false

/-- The customer of an invoice, which has to have one, with its country. -/
def customerOfInvoice : Request where
  table := "customers"
  alias? := none
  columns := "name, countries(code)"
  inner := true

/-- The lines of an invoice. -/
def linesOfInvoice : Request where
  table := "lines"
  alias? := none
  columns := "sku"
  inner := false

/-- The rows for the three lookups that come of them. -/
def ledgerTables : String → List Row
  | "SELECT name, id, country_id FROM customers WHERE id" =>
    [.ofFields [("name", .str "Ada"), ("id", .str "7"), ("country_id", .str "49")],
      .ofFields [("name", .str "Bob"), ("id", .str "9"), ("country_id", .null)]]
  | "SELECT code, id FROM countries WHERE id" =>
    [.ofFields [("code", .str "DE"), ("id", .str "49")]]
  | "SELECT sku, invoice_id FROM lines WHERE invoice_id" =>
    [.ofFields [("sku", .str "pen"), ("invoice_id", .str "1")],
      .ofFields [("sku", .str "cap"), ("invoice_id", .str "4")],
      .ofFields [("sku", .str "ink"), ("invoice_id", .str "1")]]
  | _ => []

/-- Two invoices share a customer, one has none, and one has an unknown one. -/
def ledgerInvoices : List Row :=
  [.ofFields [("id", .str "1"), ("customer_id", .str "7")],
    .ofFields [("id", .str "2"), ("customer_id", .null)],
    .ofFields [("id", .str "3"), ("customer_id", .str "7")],
    .ofFields [("id", .str "4"), ("customer_id", .str "8")]]

/-- The customer that two of them have. -/
def adaWithCountry : Value :=
  .obj [("name", .str "Ada"), ("countries", .obj [("code", .str "DE")])]

/-- These two, with their customer and their lines, of which the second has none. -/
def invoicesWithLines : List Row :=
  [.ofFields [("id", .str "1"), ("customer_id", .str "7"), ("customers", adaWithCountry),
      ("lines", .arr [.obj [("sku", .str "pen")], .obj [("sku", .str "ink")]])],
    .ofFields [("id", .str "3"), ("customer_id", .str "7"), ("customers", adaWithCountry),
      ("lines", .arr [])]]

theorem answersLookups_ledger :
    AnswersLookups ledger (tablesHeld ledgerTables) (reader ledgerTables) := by
  refine answersLookups_reader ledgerTables fun column key hcolumn hkey => ?_
  have hplain : ∀ column ∈ ledger.settings.primaryKey ::
      ledger.relations.entries.map (·.2.foreignKey),
      (Ident.parse column).toOption.map Ident.sql = some column ∧ ' ' ∉ column.toList := by
    decide
  obtain ⟨hsql, hspace⟩ := hplain column (mem_of_matchesBy hcolumn)
  rw [toOption_eq_some_iff.2 hkey] at hsql
  exact ⟨Option.some.inj hsql, hspace⟩

theorem ofRequests_customerOfInvoice (rest : List Request) :
    Nesting.ofRequests (customerOfInvoice :: rest) =
      .cons customerOfInvoice (.ok ⟨"name", [countryOfCustomer]⟩)
        (.cons countryOfCustomer (.ok ⟨"code", []⟩) .nil .nil) (Nesting.ofRequests rest) := by
  have hcustomer : Selection.parse customerOfInvoice.columns =
      .ok ⟨"name", [countryOfCustomer]⟩ := rfl
  have hcountry : Selection.parse countryOfCustomer.columns = .ok ⟨"code", []⟩ := rfl
  rw [Nesting.ofRequests_cons_ok hcustomer, Nesting.ofRequests_cons_ok hcountry,
    Nesting.ofRequests_nil]

theorem ofRequests_linesOfInvoice (rest : List Request) :
    Nesting.ofRequests (linesOfInvoice :: rest) =
      .cons linesOfInvoice (.ok ⟨"sku", []⟩) .nil (Nesting.ofRequests rest) := by
  have hlines : Selection.parse linesOfInvoice.columns = .ok ⟨"sku", []⟩ := rfl
  rw [Nesting.ofRequests_cons_ok hlines, Nesting.ofRequests_nil]

theorem ofRequests_customersFirst :
    Nesting.ofRequests [customerOfInvoice, linesOfInvoice] =
      .cons customerOfInvoice (.ok ⟨"name", [countryOfCustomer]⟩)
        (.cons countryOfCustomer (.ok ⟨"code", []⟩) .nil .nil)
        (.cons linesOfInvoice (.ok ⟨"sku", []⟩) .nil .nil) := by
  rw [ofRequests_customerOfInvoice, ofRequests_linesOfInvoice, Nesting.ofRequests_nil]

theorem registered_ledger :
    (Nesting.ofRequests [customerOfInvoice, linesOfInvoice]).Registered ledger.relations
      "invoices" := by
  rw [ofRequests_customersFirst]
  exact ⟨⟨_, rfl⟩, ⟨⟨_, rfl⟩, trivial, trivial⟩, ⟨_, rfl⟩, trivial, trivial⟩

theorem keepsKeys_ledger :
    (Nesting.ofRequests [customerOfInvoice, linesOfInvoice]).KeepsKeys ledger "invoices" := by
  rw [ofRequests_customersFirst]
  refine ⟨fun relation hrelation => ?_, ⟨fun _ _ => List.not_mem_nil, trivial, trivial⟩,
    fun _ _ => List.not_mem_nil, trivial, trivial⟩
  cases hrelation
  decide

theorem filled?_customersFirst :
    filled? ledger (tablesHeld ledgerTables)
      (Nesting.ofRequests [customerOfInvoice, linesOfInvoice]) "invoices" ledgerInvoices =
        some invoicesWithLines := by
  rw [ofRequests_customersFirst]
  rfl

/-- The customers, the countries and the lines that are looked up for all of the invoices are those
that are looked up for each. -/
theorem run_resolve_ledgerInvoices :
    AnswersLookups ledger (tablesHeld ledgerTables) (reader ledgerTables) ∧
      (Nesting.ofRequests [customerOfInvoice, linesOfInvoice]).Registered ledger.relations
        "invoices" ∧
      (Nesting.ofRequests [customerOfInvoice, linesOfInvoice]).KeepsKeys ledger "invoices" ∧
      ∀ ids s, ∃ s',
        Dialogue.run (reader ledgerTables) ids (resolve ledger "invoices"
          [customerOfInvoice, linesOfInvoice] ledgerInvoices).run s =
            (.ok invoicesWithLines, s') ∧
        ∃ single : Row → List Row, invoicesWithLines = ledgerInvoices.flatMap single ∧
          ∀ row ∈ ledgerInvoices, ∀ ids t,
            (Dialogue.run (reader ledgerTables) ids (resolve ledger "invoices"
              [customerOfInvoice, linesOfInvoice] [row]).run t).1 = .ok (single row) := by
  refine ⟨answersLookups_ledger, registered_ledger, keepsKeys_ledger, fun ids s => ?_⟩
  obtain ⟨s', h⟩ := run_resolve_of_filled? answersLookups_ledger filled?_customersFirst ids s
  exact ⟨s', h,
    run_resolve_eq_flatMap answersLookups_ledger registered_ledger keepsKeys_ledger h⟩

end Embed

end Graft
