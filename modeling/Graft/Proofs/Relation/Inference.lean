/-
Graft/Proofs/Relation/Inference.lean

Which relation is found between two tables.

`Client.Finds` says what comes of looking for a relation, one rule for each
case: the pair is registered; it is not, and nothing may be guessed; and of the
two columns that are named after the related table (`NamedAfter`), the rows have
one, or both though they differ, or neither.  The rows enter into this with
nothing but the question whether some row has a given column (`HasColumn`), so
these rules leave no room for their order or number or for other columns.

`Client.findRelation` follows the rules, and there is no other outcome
(`Client.findRelation_eq_iff`).  Two lists of rows with the same of the two
columns therefore lead to the same outcome, among them all that are made of
each other by what `Reshaped` allows (`Client.relation_found`).
-/
import Graft.Relation.Inference
import Mathlib.Data.List.Nodup

namespace Graft

/-! ### Columns of some rows -/

/-- Some row has the column, whatever its cell holds. -/
def HasColumn (rows : List Row) (column : String) : Prop :=
  ∃ row ∈ rows, column ∈ row.keys

theorem any_contains_iff {rows : List Row} {column : String} :
    rows.any (·.contains column) = true ↔ HasColumn rows column := by
  simp only [List.any_eq_true, Row.contains_iff, HasColumn]

instance (rows : List Row) (column : String) : Decidable (HasColumn rows column) :=
  decidable_of_iff _ any_contains_iff

theorem hasColumn_cons_iff {row : Row} {rest : List Row} {column : String} :
    HasColumn (row :: rest) column ↔ column ∈ row.keys ∨ HasColumn rest column := by
  simp [HasColumn]

/-- The rows after some changes that leave certain columns alone. -/
inductive Reshaped (Kept : String → Prop) : List Row → List Row → Prop
  | perm {rows rows' : List Row} (h : rows.Perm rows') : Reshaped Kept rows rows'
  /-- A row comes once more. -/
  | duplicate (row : Row) (rest : List Row) : Reshaped Kept (row :: rest) (row :: row :: rest)
  /-- A row gets another column, or another cell under a column that it has. -/
  | insert (row : Row) (rest : List Row) {k : String} (v : Value) (h : ¬ Kept k) :
      Reshaped Kept (row :: rest) (row.insert k v :: rest)
  /-- A row loses another column. -/
  | erase (row : Row) (rest : List Row) {k : String} (h : ¬ Kept k) :
      Reshaped Kept (row :: rest) (row.erase k :: rest)
  | symm {rows rows' : List Row} (h : Reshaped Kept rows rows') : Reshaped Kept rows' rows
  | trans {rows rows' rows'' : List Row} (h : Reshaped Kept rows rows')
      (h' : Reshaped Kept rows' rows'') : Reshaped Kept rows rows''

/-- **The columns that are left alone** are there after the changes just if they were before, by
induction on the changes. -/
theorem Reshaped.hasColumn_iff {Kept : String → Prop} {rows rows' : List Row}
    (h : Reshaped Kept rows rows') {column : String} (hcolumn : Kept column) :
    HasColumn rows column ↔ HasColumn rows' column := by
  have hother : ∀ {k}, ¬ Kept k → column ≠ k := fun hk heq => hk (heq ▸ hcolumn)
  induction h with
  | perm h => simp only [HasColumn, h.mem_iff]
  | duplicate row rest =>
    rw [hasColumn_cons_iff, hasColumn_cons_iff, hasColumn_cons_iff]
    tauto
  | insert row rest v hk =>
    rw [hasColumn_cons_iff, hasColumn_cons_iff, Row.keys_insert]
    split
    · exact Iff.rfl
    · rw [List.mem_append, List.mem_singleton, or_iff_left (hother hk)]
  | erase row rest hk =>
    rw [hasColumn_cons_iff, hasColumn_cons_iff, Row.keys_erase, List.mem_filter, bne_iff_ne,
      and_iff_left (hother hk)]
  | symm _ ih => exact ih.symm
  | trans _ _ ih ih' => exact ih.trans ih'

/-! ### Columns named after a table -/

/-- The column for keys is named after the table, by its singular or by its name as it is. -/
def NamedAfter (table column : String) : Prop :=
  column = keyNamed (singularize table) ∨ column = keyNamed table

theorem namedAfter_singular (table : String) : NamedAfter table (keyNamed (singularize table)) :=
  .inl rfl

theorem namedAfter_self (table : String) : NamedAfter table (keyNamed table) :=
  .inr rfl

/-- The candidates that some rows have. -/
def presentCandidates (related : String) (rows : List Row) : List String :=
  (foreignKeyCandidates related).filter fun column => rows.any (·.contains column)

theorem mem_foreignKeyCandidates_iff {related column : String} :
    column ∈ foreignKeyCandidates related ↔ NamedAfter related column := by
  rw [foreignKeyCandidates, NamedAfter]
  split
  · next hsame => simp [hsame]
  · simp

theorem mem_presentCandidates_iff {related column : String} {rows : List Row} :
    column ∈ presentCandidates related rows ↔
      NamedAfter related column ∧ HasColumn rows column := by
  rw [presentCandidates, List.mem_filter, any_contains_iff, mem_foreignKeyCandidates_iff]

/-- No candidate comes twice. -/
theorem nodup_presentCandidates (related : String) (rows : List Row) :
    (presentCandidates related rows).Nodup := by
  apply List.Nodup.filter
  rw [foreignKeyCandidates]
  split
  · simp
  · next hdistinct => simpa using hdistinct

/-! ### What is found -/

/-- `client.Finds owner related rows r`: what comes of looking for the relation between an owner, of
which some rows are known, and a related table. -/
inductive Client.Finds (client : Client) (owner related : String) (rows : List Row) :
    Except Error FoundRelation → Prop
  | registered {relation : Relation}
      (hrelation : client.relations.get? owner related = some relation) :
      Finds client owner related rows (.ok ⟨relation, .registered⟩)
  | disabled (hrelation : client.relations.get? owner related = none)
      (hpolicy : client.settings.inference = .disabled) :
      Finds client owner related rows (.error (.relation (.unregistered owner related)))
  /-- The rows have one of the two columns, or these are one and the same. -/
  | belongsTo (hrelation : client.relations.get? owner related = none)
      (hpolicy : client.settings.inference = .namingConvention) {column : String}
      (hnamed : NamedAfter related column) (hhas : HasColumn rows column)
      (hsole : ∀ other, NamedAfter related other → HasColumn rows other → other = column) :
      Finds client owner related rows (.ok ⟨⟨column, .belongsTo⟩, .guessed false⟩)
  /-- The rows have both columns, be it the same row or not. -/
  | ambiguous (hrelation : client.relations.get? owner related = none)
      (hpolicy : client.settings.inference = .namingConvention)
      (hdistinct : keyNamed (singularize related) ≠ keyNamed related)
      (hsingular : HasColumn rows (keyNamed (singularize related)))
      (hself : HasColumn rows (keyNamed related)) :
      Finds client owner related rows (.error (.relation
        (.ambiguous owner related [keyNamed (singularize related), keyNamed related])))
  /-- The rows have neither column. -/
  | hasMany (hrelation : client.relations.get? owner related = none)
      (hpolicy : client.settings.inference = .namingConvention)
      (hnone : ∀ column, NamedAfter related column → ¬ HasColumn rows column) :
      Finds client owner related rows
        (.ok ⟨⟨keyNamed (singularize owner), .hasMany⟩, .guessed (isDoubtful owner)⟩)

namespace Client

variable {client : Client} {owner related : String} {rows : List Row}

/-- One rule or another applies. -/
theorem exists_finds (client : Client) (owner related : String) (rows : List Row) :
    ∃ r, client.Finds owner related rows r := by
  cases hrelation : client.relations.get? owner related with
  | some relation => exact ⟨_, .registered hrelation⟩
  | none =>
    cases hpolicy : client.settings.inference with
    | disabled => exact ⟨_, .disabled hrelation hpolicy⟩
    | namingConvention =>
      -- It depends on which of the two candidate columns occur, and whether these are one.
      by_cases hsingular : HasColumn rows (keyNamed (singularize related))
      · by_cases hself : HasColumn rows (keyNamed related)
        · by_cases hsame : keyNamed (singularize related) = keyNamed related
          · refine ⟨_, .belongsTo hrelation hpolicy (namedAfter_self related) hself ?_⟩
            rintro _ (rfl | rfl) _
            · exact hsame
            · rfl
          · exact ⟨_, .ambiguous hrelation hpolicy hsame hsingular hself⟩
        · refine ⟨_, .belongsTo hrelation hpolicy (namedAfter_singular related) hsingular ?_⟩
          rintro _ (rfl | rfl) hhas
          · rfl
          · exact absurd hhas hself
      · by_cases hself : HasColumn rows (keyNamed related)
        · refine ⟨_, .belongsTo hrelation hpolicy (namedAfter_self related) hself ?_⟩
          rintro _ (rfl | rfl) hhas
          · exact absurd hhas hsingular
          · rfl
        · refine ⟨_, .hasMany hrelation hpolicy ?_⟩
          rintro _ (rfl | rfl)
          · exact hsingular
          · exact hself

/-- Where nothing is registered and the policy allows it, the relation is guessed from the
candidates that the rows have. -/
theorem findRelation_of_unregistered (hrelation : client.relations.get? owner related = none)
    (hpolicy : client.settings.inference = .namingConvention) :
    client.findRelation owner related rows =
      match presentCandidates related rows with
      | [] => .ok ⟨⟨keyNamed (singularize owner), .hasMany⟩, .guessed (isDoubtful owner)⟩
      | [foreignKey] => .ok ⟨⟨foreignKey, .belongsTo⟩, .guessed false⟩
      | present => .error (.relation (.ambiguous owner related present)) := by
  rw [findRelation, hrelation, hpolicy]
  rfl

/-- What a rule says is what is found. -/
theorem Finds.eq {r : Except Error FoundRelation} (h : client.Finds owner related rows r) :
    client.findRelation owner related rows = r := by
  cases h with
  | registered hrelation => rw [findRelation, hrelation]
  | disabled hrelation hpolicy => rw [findRelation, hrelation, hpolicy]
  | @belongsTo hrelation hpolicy column hnamed hhas hsole =>
    have hpresent : presentCandidates related rows = [column] := by
      by_contra hne
      rcases ((nodup_presentCandidates related rows).ne_singleton_iff column).1 hne with
        hnil | ⟨other, hother, hdistinct⟩
      · have hmem := mem_presentCandidates_iff.2 ⟨hnamed, hhas⟩
        rw [hnil] at hmem
        cases hmem
      · obtain ⟨hnamedOther, hhasOther⟩ := mem_presentCandidates_iff.1 hother
        exact hdistinct (hsole other hnamedOther hhasOther)
    rw [findRelation_of_unregistered hrelation hpolicy, hpresent]
  | ambiguous hrelation hpolicy hdistinct hsingular hself =>
    have hpresent : presentCandidates related rows =
        [keyNamed (singularize related), keyNamed related] := by
      -- none of the candidates is missing
      rw [presentCandidates, List.filter_eq_self.2, foreignKeyCandidates, if_neg hdistinct]
      intro column hcolumn
      rw [any_contains_iff]
      rcases mem_foreignKeyCandidates_iff.1 hcolumn with rfl | rfl
      · exact hsingular
      · exact hself
    rw [findRelation_of_unregistered hrelation hpolicy, hpresent]
  | hasMany hrelation hpolicy hnone =>
    have hpresent : presentCandidates related rows = [] := by
      rw [List.eq_nil_iff_forall_not_mem]
      intro column hcolumn
      obtain ⟨hnamed, hhas⟩ := mem_presentCandidates_iff.1 hcolumn
      exact hnone column hnamed hhas
    rw [findRelation_of_unregistered hrelation hpolicy, hpresent]

/-- **The rules are all there is** to finding a relation. -/
theorem findRelation_eq_iff {r : Except Error FoundRelation} :
    client.findRelation owner related rows = r ↔ client.Finds owner related rows r := by
  constructor
  · rintro rfl
    obtain ⟨r, hr⟩ := exists_finds client owner related rows
    rw [hr.eq]
    exact hr
  · exact Finds.eq

/-- The rules look at the rows for the columns named after the related table only. -/
theorem Finds.congr {r : Except Error FoundRelation} {rows' : List Row}
    (h : client.Finds owner related rows r)
    (hrows : ∀ column, NamedAfter related column →
      (HasColumn rows column ↔ HasColumn rows' column)) :
    client.Finds owner related rows' r := by
  cases h with
  | registered hrelation => exact .registered hrelation
  | disabled hrelation hpolicy => exact .disabled hrelation hpolicy
  | belongsTo hrelation hpolicy hnamed hhas hsole =>
    exact .belongsTo hrelation hpolicy hnamed ((hrows _ hnamed).1 hhas)
      fun other hother hhasOther => hsole other hother ((hrows other hother).2 hhasOther)
  | ambiguous hrelation hpolicy hdistinct hsingular hself =>
    exact .ambiguous hrelation hpolicy hdistinct
      ((hrows _ (namedAfter_singular related)).1 hsingular)
      ((hrows _ (namedAfter_self related)).1 hself)
  | hasMany hrelation hpolicy hnone =>
    exact .hasMany hrelation hpolicy
      fun column hnamed hhas => hnone column hnamed ((hrows column hnamed).2 hhas)

/-- **The relation that is found** is the one that the rules say, and no other.  Of the rows it
depends only on which of the two columns named after the related table they have.  So it does not
change when rows are put in another order or come several times, or when other columns come or
go. -/
theorem relation_found (client : Client) (owner related : String) (rows : List Row) :
    (∀ r, client.findRelation owner related rows = r ↔ client.Finds owner related rows r) ∧
      (∀ rows', (∀ column, NamedAfter related column →
          (HasColumn rows column ↔ HasColumn rows' column)) →
        client.findRelation owner related rows' = client.findRelation owner related rows) ∧
      ∀ rows', Reshaped (NamedAfter related) rows rows' →
        client.findRelation owner related rows' = client.findRelation owner related rows := by
  have hcongr : ∀ rows', (∀ column, NamedAfter related column →
        (HasColumn rows column ↔ HasColumn rows' column)) →
      client.findRelation owner related rows' = client.findRelation owner related rows :=
    fun rows' hrows => ((findRelation_eq_iff.1 rfl).congr hrows).eq
  refine ⟨fun r => findRelation_eq_iff, hcongr, fun rows' hrows => ?_⟩
  exact hcongr rows' fun column hnamed => hrows.hasColumn_iff hnamed

/-- Rows of which only some have the column of a customer, and then no key in it. -/
def unevenInvoices : List Row :=
  [.ofFields [("id", .str "1")], .ofFields [("id", .str "2"), ("customer_id", .null)]]

/-- They belong to customers all the same, and so they do the other way round, with one of them
twice, and without their own keys. -/
theorem relation_found_unevenInvoices :
    Reshaped (NamedAfter "customers") unevenInvoices
        [(Row.ofFields [("id", .str "2"), ("customer_id", .null)]).erase "id",
          .ofFields [("id", .str "2"), ("customer_id", .null)], .ofFields [("id", .str "1")]] ∧
      ({} : Client).findRelation "invoices" "customers"
          [(Row.ofFields [("id", .str "2"), ("customer_id", .null)]).erase "id",
            .ofFields [("id", .str "2"), ("customer_id", .null)], .ofFields [("id", .str "1")]] =
        .ok ⟨⟨"customer_id", .belongsTo⟩, .guessed false⟩ := by
  obtain ⟨hrules, -, hreshaped⟩ := relation_found {} "invoices" "customers" unevenInvoices
  have hother : ¬ NamedAfter "customers" "id" := by
    rintro (h | h)
    · exact absurd h (by decide)
    · exact absurd h (by decide)
  have hrows : Reshaped (NamedAfter "customers") unevenInvoices
      [(Row.ofFields [("id", .str "2"), ("customer_id", .null)]).erase "id",
        .ofFields [("id", .str "2"), ("customer_id", .null)], .ofFields [("id", .str "1")]] :=
    .trans (.perm (.swap _ _ _)) (.trans (.duplicate _ _) (.erase _ _ hother))
  refine ⟨hrows, (hreshaped _ hrows).trans ((hrules _).2 ?_)⟩
  refine .belongsTo rfl rfl (namedAfter_singular "customers") (by decide) ?_
  rintro _ (rfl | rfl) hhas
  · rfl
  · exact absurd hhas (by decide)

end Client

end Graft
