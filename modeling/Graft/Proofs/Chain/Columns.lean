/-
Graft/Proofs/Chain/Columns.lean

Whether an insertion has columns.

An insertion lists the columns of all its rows, and each of its tuples has one
question mark for each of them.  A row that gets a key has a column.  So an
insertion has none just if no keys are generated and no object of the payload
has a field (`Payload.columnUnion_eq_nil_iff`, `Chain.Inserts.columns_nil_iff`).

An update of no columns is refused, but nothing refuses such an insertion: it
is sent, and names no column and no value.
-/
import Graft.Proofs.Chain.Insertion

namespace Graft

/-! ### Columns of a payload -/

theorem Row.mem_keys_ofFields {fields : List (String × Value)} {k : String} :
    k ∈ (ofFields fields).keys ↔ k ∈ fields.map (·.1) := by
  have hfold : ∀ row : Row,
      k ∈ (fields.foldl (fun r field => r.insert field.1 field.2) row).keys ↔
        k ∈ row.keys ∨ k ∈ fields.map (·.1) := by
    induction fields with
    | nil => simp
    | cons field rest ih =>
      intro row
      rw [List.foldl_cons, ih, keys_insert, List.map_cons, List.mem_cons]
      split
      · next hmem => grind
      · rw [List.mem_append, List.mem_singleton, or_assoc]
  exact (hfold empty).trans (or_iff_right List.not_mem_nil)

namespace Payload

theorem columnUnion_eq_nil_iff {rows : List Row} :
    columnUnion rows = [] ↔ ∀ row ∈ rows, row.keys = [] := by
  simp only [List.eq_nil_iff_forall_not_mem, columnUnion, List.mem_eraseDups, List.mem_flatMap,
    not_exists, not_and]
  exact ⟨fun h row hrow k => h k row hrow, fun h k row hrow => h row hrow k⟩

end Payload

/-- The rows of a payload have no columns just if they get no keys and its objects have no
fields. -/
theorem Client.Keys.columnUnion_eq_nil_iff {client : Client}
    {objects : List (List (String × Value))} {generated : List String} {keyed : List Row}
    (h : client.Keys (objects.map Row.ofFields) generated keyed) (hsome : objects ≠ []) :
    Payload.columnUnion keyed = [] ↔
      client.settings.generateIds = false ∧ ∀ fields ∈ objects, fields = [] := by
  rw [Payload.columnUnion_eq_nil_iff]
  cases hgenerate : client.settings.generateIds with
  | true =>
    -- there is a row, and it has a key
    have hlength := h.length_eq
    obtain ⟨row, hrow⟩ : ∃ row, row ∈ keyed := by
      refine List.exists_mem_of_ne_nil _ fun hnil => hsome ?_
      rw [hnil, List.length_map] at hlength
      exact List.eq_nil_of_length_eq_zero hlength.symm
    obtain ⟨v, hv, -⟩ := h.exists_key hgenerate row hrow
    constructor
    · intro hkeys
      rw [Row.get?_eq_none_iff.2 (hkeys row hrow ▸ List.not_mem_nil)] at hv
      cases hv
    · rintro ⟨hfalse, -⟩
      cases hfalse
  | false =>
    cases h with
    | generating htrue => rw [hgenerate] at htrue; cases htrue
    | leaving =>
      simp only [List.forall_mem_map, true_and]
      refine forall₂_congr fun fields _ => ?_
      rw [List.eq_nil_iff_forall_not_mem, ← List.map_eq_nil_iff (f := fun x => x.1),
        List.eq_nil_iff_forall_not_mem]
      exact forall_congr' fun k => not_congr Row.mem_keys_ofFields

/-! ### Runs -/

/-- **Insertions and their columns.**  A run that sends nothing fails, or has nothing to insert.
Otherwise its first statement inserts the objects of the payload, with a tuple for each of them that
has one question mark for each column; and it has a column just if keys are generated or an object
has a field.  What is sent after it are lookups. -/
theorem Chain.Inserts.columns_nil_iff {σ : Type} {payload : Payload} {c : Chain}
    (h : c.Inserts payload) (client : Client) (ex : Executor σ) (ids : Nat → String)
    (s : Session σ) :
    ((c.execute client).transcript ex ids s = [] →
      (∃ e, ((c.execute client).run ex ids s).1 = .failed e) ∨
        payload = .value (.arr []) ∧ ((c.execute client).run ex ids s).1 = .ran (some [])) ∧
    (∀ x later, (c.execute client).transcript ex ids s = x :: later →
      ∃ (objects : List (List (String × Value))) (names : List String)
        (conflict? : Option Conflict) (returning : List Column),
        payload.objects? = some objects ∧ objects ≠ [] ∧
        x.statement.sql = Payload.insertSql c.table names objects.length ++
          ((conflict?.map Conflict.sql).getD "" ++ Query.returningSql returning) ∧
        (∀ name ∈ names, ∃ ident, Ident.parse name = .ok ident) ∧
        (names = [] ↔ client.settings.generateIds = false ∧ ∀ fields ∈ objects, fields = []) ∧
        x.statement.params.length = objects.length * names.length ∧
        ∀ y ∈ later, Embed.IsLookup y.statement) ∧
    (c.executeSingle client).transcript ex ids s = (c.execute client).transcript ex ids s := by
  rw [h.executeSingle_eq client, Dialogue.transcript_map, c.transcript_execute, c.run_execute]
  refine ⟨fun hnil => ?_, fun x later hsent => ?_, rfl⟩
  · have hcourse := Action.course_run ex ids (c.run client) s
    rw [hnil] at hcourse
    obtain ⟨e, he⟩ | ⟨rfl, hr⟩ := h.course_run_nil hcourse
    · exact .inl ⟨e, by rw [he]; rfl⟩
    · exact .inr ⟨rfl, by rw [hr]; rfl⟩
  · obtain ⟨objects, generated, keyed, conflict?, returning, hobjects, hsome, hkeys, -, hnamed,
      hsql, hparams, hlater⟩ := h.sends ex ids s hsent
    -- Keys are filled in, but no row is added or left out.
    have hlength : keyed.length = objects.length := by
      rw [hkeys.length_eq, List.length_map]
    refine ⟨objects, Payload.columnUnion keyed, conflict?, returning, hobjects, hsome,
      hlength ▸ hsql, hnamed, hkeys.columnUnion_eq_nil_iff hsome, ?_, hlater⟩
    rw [hparams, List.length_flatten, List.map_map, ← hlength]
    have hblock : List.length ∘ Payload.cellsIn (Payload.columnUnion keyed) =
        fun _ => (Payload.columnUnion keyed).length :=
      funext fun row => List.length_map ..
    rw [hblock, List.map_const', List.sum_replicate_nat]

/-- Where keys are generated, even an object without fields has a column. -/
theorem Chain.Inserts.columns_nil_iff_keyed :
    ((Chain.upsert (Chain.upsertInto "invoices" (.value (.obj [])))).execute {}).transcript
        Executor.scripted (fun _ => "fresh") { engine := { replies := [.error (.backend "")] } } =
      [⟨⟨some "upsert invoices",
        "INSERT INTO invoices (id) VALUES (?) ON CONFLICT (id) DO NOTHING RETURNING *",
        [.str "fresh"]⟩, .error (.backend "")⟩] ∧
    ∃ names after, names ≠ [] ∧
      "INSERT INTO invoices (id) VALUES (?) ON CONFLICT (id) DO NOTHING RETURNING *" =
        Payload.insertSql "invoices" names 1 ++ after := by
  have hsent : ((Chain.upsert (Chain.upsertInto "invoices"
      (.value (.obj [])))).execute {}).transcript Executor.scripted (fun _ => "fresh")
      { engine := { replies := [.error (.backend "")] } } =
        [⟨⟨some "upsert invoices",
          "INSERT INTO invoices (id) VALUES (?) ON CONFLICT (id) DO NOTHING RETURNING *",
          [.str "fresh"]⟩, .error (.backend "")⟩] := by
    rfl
  obtain ⟨-, hcolumns, -⟩ := Chain.Inserts.columns_nil_iff
    (@upsertInto (.value (.obj [])) "invoices") {} Executor.scripted (fun _ => "fresh")
    { engine := { replies := [.error (.backend "")] } }
  obtain ⟨objects, names, conflict?, returning, hobjects, -, hsql, -, hnames, -⟩ :=
    hcolumns _ _ hsent
  obtain rfl : objects = [[]] := (Option.some.inj hobjects).symm
  refine ⟨hsent, names, _, fun hnil => ?_, hsql⟩
  obtain ⟨hgenerate, -⟩ := hnames.1 hnil
  cases hgenerate

/-- Without them it has none: the insertion that is sent has no question mark. -/
theorem Chain.not_forall_inserts_placeholder :
    ¬∀ (payload : Value) (c : Chain) (client : Client) (ids : Nat → String) (s : Session Script)
      (x : Exchange) (later : List Exchange), c.Inserts payload →
        (c.execute client).transcript Executor.scripted ids s = x :: later →
          '?' ∈ x.statement.sql.toList := by
  intro h
  have hsent : ((Chain.insert (Chain.insertInto "invoices" (.value (.obj [])))).execute
      { settings := { generateIds := false } }).transcript Executor.scripted (fun _ => "fresh")
        { engine := { replies := [.error (.backend "")] } } =
      [⟨⟨some "insert invoices", "INSERT INTO invoices () VALUES () RETURNING *", []⟩,
        .error (.backend "")⟩] := by
    rfl
  have hmark := h _ _ _ _ _ _ _ (.insertInto "invoices") hsent
  exact absurd hmark (by decide)

end Graft
