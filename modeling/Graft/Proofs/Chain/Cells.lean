/-
Graft/Proofs/Chain/Cells.lean

Where the cells of a payload go.

The rows of a payload may have different columns, in different orders.  An
insertion of them lists the columns of all rows, each once and in the order of
their first occurrence (`Payload.FirstSeen`), and its parameters are a block for
each row.  A block holds the cells of its row in the places of their columns,
and null in all other places (`Payload.Holds`).  So a block and the list of
columns, side by side, are the row again: no cell is lost, none is moved, and
none is added (`Chain.Inserts.cells_placed`).
-/
import Mathlib.Data.List.Nodup
import Graft.Proofs.Chain.Insertion

namespace Graft

theorem forall₂_trans {α β γ : Type} {R : α → β → Prop} {S : β → γ → Prop} {T : α → γ → Prop}
    {as : List α} {bs : List β} {cs : List γ} (h : List.Forall₂ R as bs)
    (h' : List.Forall₂ S bs cs) (hT : ∀ a b c, R a b → S b c → T a c) : List.Forall₂ T as cs := by
  induction h generalizing cs with
  | nil =>
    cases h' with
    | nil => exact .nil
  | cons hab _ ih =>
    cases h' with
    | cons hbc h' => exact .cons (hT _ _ _ hab hbc) (ih h')

/-! ### The order of first occurrences -/

namespace Payload

/-- The names are those of a list, each once, in the order in which they first occur. -/
structure FirstSeen (all names : List String) : Prop where
  nodup : names.Nodup
  mem_iff : ∀ name, name ∈ names ↔ name ∈ all
  order : names.Pairwise fun a b => all.idxOf a < all.idxOf b

/-- Taking out other elements does not change which of two comes first. -/
theorem idxOf_lt_of_filter {p : String → Bool} {all : List String} {a b : String}
    (ha : p a = true) (hb : p b = true)
    (h : (all.filter p).idxOf a < (all.filter p).idxOf b) : all.idxOf a < all.idxOf b := by
  induction all with
  | nil => exact h
  | cons c rest ih =>
    by_cases hc : p c = true
    · rw [List.filter_cons_of_pos hc] at h
      grind
    · rw [List.filter_cons_of_neg hc] at h
      have hca : c ≠ a := fun heq => hc (heq ▸ ha)
      have hcb : c ≠ b := fun heq => hc (heq ▸ hb)
      rw [List.idxOf_cons_ne _ hca, List.idxOf_cons_ne _ hcb]
      exact Nat.succ_lt_succ (ih h)

theorem pairwise_eraseDups (all : List String) :
    all.eraseDups.Pairwise fun a b => all.idxOf a < all.idxOf b := by
  cases all with
  | nil => exact .nil
  | cons first rest =>
    -- the first name is not among the others, so each of these comes later than it
    have hother : ∀ {b}, b ∈ (rest.filter (!· == first)).eraseDups → b ≠ first := fun hb =>
      by simpa using (List.mem_filter.1 (List.mem_eraseDups.1 hb)).2
    rw [List.eraseDups_cons, List.pairwise_cons]
    refine ⟨fun b hb => ?_, ?_⟩
    · rw [List.idxOf_cons_self, List.idxOf_cons_ne _ (hother hb).symm]
      exact Nat.succ_pos _
    · refine (pairwise_eraseDups (rest.filter (!· == first))).imp_of_mem fun ha hb hlt => ?_
      rw [List.idxOf_cons_ne _ (hother ha).symm, List.idxOf_cons_ne _ (hother hb).symm]
      exact Nat.succ_lt_succ
        (idxOf_lt_of_filter (by simpa using hother ha) (by simpa using hother hb) hlt)
termination_by all.length
decreasing_by exact Nat.lt_succ_of_le (List.length_filter_le _ _)

theorem firstSeen_eraseDups (all : List String) : FirstSeen all all.eraseDups where
  nodup := (pairwise_eraseDups all).imp fun {a b} (hlt : all.idxOf a < all.idxOf b) => by
    rintro rfl
    exact Nat.lt_irrefl _ hlt
  mem_iff _ := List.mem_eraseDups
  order := pairwise_eraseDups all

/-! ### Rows and their blocks -/

/-- The block holds the cells of the row in the places of their columns, and null in all other
places. -/
structure Holds (names : List String) (row : Row) (block : List Value) : Prop where
  length_eq : block.length = names.length
  kept : ∀ cell ∈ row.cells, cell ∈ names.zip block
  added : ∀ cell ∈ names.zip block, cell ∈ row.cells ∨ cell.1 ∉ row.keys ∧ cell.2 = .null

/-- The cells of a row in some columns are a block that holds it, if these are all its columns. -/
theorem holds_cellsIn {names : List String} {row : Row} (h : ∀ k ∈ row.keys, k ∈ names) :
    Holds names row (cellsIn names row) := by
  have hzip : names.zip (cellsIn names row) =
      names.map fun name => (name, (row.get? name).getD .null) := by
    have hmap := List.zip_map' (f := id) (g := fun name => (row.get? name).getD .null) (l := names)
    rwa [List.map_id] at hmap
  refine ⟨List.length_map .., ?_, ?_⟩
  · rintro ⟨name, v⟩ hcell
    rw [hzip]
    refine List.mem_map.2 ⟨name, h name (List.mem_map_of_mem (f := Prod.fst) hcell), ?_⟩
    rw [Row.get?_eq_some_iff.2 hcell]
    rfl
  · intro cell hcell
    rw [hzip] at hcell
    obtain ⟨name, -, rfl⟩ := List.mem_map.1 hcell
    cases hget : row.get? name with
    | some v => exact .inl (Row.get?_eq_some_iff.1 hget)
    | none => exact .inr ⟨Row.get?_eq_none_iff.1 hget, rfl⟩

/-- The statement inserts the rows into the table: it lists their columns and takes a block for each
of them. -/
structure Written (table : String) (rows : List Row) (names : List String)
    (blocks : List (List Value)) (st : Statement) : Prop where
  columns : FirstSeen (rows.flatMap Row.keys) names
  named : ∀ name ∈ names, ∃ ident, Ident.parse name = .ok ident
  sql : ∃ (conflict? : Option Conflict) (returning : List Column),
    st.sql = insertSql table names rows.length ++
      ((conflict?.map Conflict.sql).getD "" ++ Query.returningSql returning)
  params : st.params = blocks.flatten
  blocks : List.Forall₂ (Holds names) rows blocks

end Payload

/-! ### Runs -/

/-- **No cell of a payload is lost, moved or added.**  A payload that is no rows is refused, and of
the empty array nothing is inserted.  Otherwise the first statement of a run inserts the objects of
the payload with their keys: it has a block for each object in order, which holds all cells of the
object and else nothing but nulls.  Only a key that is generated takes the place of a null one, or
comes before the cells of a row that has none; then every row has a key, and no two of the generated
ones are the same, if the source does not repeat itself.  Run for a single row, the chain sends the
same and gives the first row of the same response. -/
theorem Chain.Inserts.cells_placed {σ : Type} {payload : Value} {c : Chain} (h : c.Inserts payload)
    (client : Client) (ex : Executor σ) (ids : Nat → String) (s : Session σ) :
    (Payload.objects? payload = none →
      (c.execute client).transcript ex ids s = [] ∧
        ∃ v, ((c.execute client).run ex ids s).1 = .failed (.validation v)) ∧
    (payload = .arr [] → c.Aimed client →
      (c.execute client).transcript ex ids s = [] ∧
        ((c.execute client).run ex ids s).1 = .ran (some [])) ∧
    (∀ x later, (c.execute client).transcript ex ids s = x :: later →
      ∃ objects generated keyed names blocks,
        Payload.objects? payload = some objects ∧
        client.Keys (objects.map Row.ofFields) generated keyed ∧
        generated = (List.range' s.drawn generated.length).map ids ∧
        (Function.Injective ids → generated.Nodup) ∧
        Payload.Written c.table keyed names blocks x.statement ∧
        List.Forall₂ (fun fields block => (fields.map (·.1)).Nodup → ∀ cell ∈ fields,
          (client.settings.generateIds = true → cell ≠ (client.settings.primaryKey, .null)) →
            cell ∈ names.zip block) objects blocks ∧
        (client.settings.generateIds = true → ∀ block ∈ blocks, ∃ v,
          (client.settings.primaryKey, v) ∈ names.zip block ∧ v ≠ .null) ∧
        ∀ y ∈ later, Embed.IsLookup y.statement) ∧
    (c.executeSingle client).transcript ex ids s = (c.execute client).transcript ex ids s ∧
      ((c.executeSingle client).run ex ids s).1 = ((c.execute client).run ex ids s).1.first := by
  have hcourse := Action.course_run ex ids (c.run client) s
  rw [c.transcript_execute, c.run_execute]
  refine ⟨fun hpayload => ?_, ?_, fun x later hsent => ?_, ?_⟩
  · obtain ⟨hnil, e, he, ⟨v, rfl⟩ | ⟨reason, hreason, -⟩⟩ :=
      h.course_run_refused (.inl hpayload) hcourse
    · exact ⟨hnil, v, by rw [he]; rfl⟩
    · cases hreason
  · rintro rfl haimed
    obtain ⟨hnil, hr⟩ := h.course_run_empty haimed hcourse
    exact ⟨hnil, by rw [hr]; rfl⟩
  · obtain ⟨objects, generated, keyed, conflict?, returning, hobjects, -, hkeys, hgenerated,
      hnamed, hsql, hparams, hlater⟩ := h.sends ex ids s hsent
    -- A block has a cell for every column of the union, so it holds all of its row.
    have hholds : ∀ row ∈ keyed, Payload.Holds (Payload.columnUnion keyed) row
        (Payload.cellsIn (Payload.columnUnion keyed) row) := fun row hrow =>
      Payload.holds_cellsIn fun k hk =>
        List.mem_eraseDups.2 (List.mem_flatMap.2 ⟨row, hrow, hk⟩)
    have hblocks := List.forall₂_map_right_iff.2 (List.forall₂_same.2 hholds)
    have hwritten : Payload.Written c.table keyed (Payload.columnUnion keyed)
        (keyed.map (Payload.cellsIn (Payload.columnUnion keyed))) x.statement :=
      ⟨Payload.firstSeen_eraseDups _, hnamed, ⟨conflict?, returning, hsql⟩, hparams, hblocks⟩
    refine ⟨objects, generated, keyed, Payload.columnUnion keyed, _, hobjects, hkeys, hgenerated,
      fun hids => ?_, hwritten, ?_, ?_, hlater⟩
    · rw [hgenerated]
      exact List.Nodup.map hids (List.nodup_range' 1)
    -- From an object to its row, where only a null key is replaced, and from the row to its block.
    · refine forall₂_trans (List.forall₂_map_left_iff.1 hkeys.cells_subset) hblocks ?_
      intro fields row block hcells hblock hnodup cell hcell hne
      refine hblock.kept cell (hcells cell ?_ hne)
      rw [Row.cells_ofFields hnodup]
      exact hcell
    · intro hgenerate block hblock
      obtain ⟨row, hrow, rfl⟩ := List.mem_map.1 hblock
      obtain ⟨v, hv, hsome⟩ := hkeys.exists_key hgenerate row hrow
      exact ⟨v, (hholds row hrow).kept _ (Row.get?_eq_some_iff.1 hv), hsome⟩
  · rw [h.executeSingle_eq client, Dialogue.transcript_map, Dialogue.run_map, c.transcript_execute,
      c.run_execute]
    exact ⟨rfl, rfl⟩

/-- Three invoices: without a key, with a null one, and with a key but without a name. -/
def raggedPayload : Value :=
  .arr [.obj [("name", .str "Ada")], .obj [("name", .str "Bob"), ("id", .null)],
    .obj [("id", .str "7"), ("total", .str "5")]]

/-- A source of identifiers that does not repeat itself. -/
def tally (n : Nat) : String :=
  String.ofList (List.replicate (n + 1) 'k')

/-- The statement for the three invoices. -/
def raggedStatement : Statement where
  tag? := some "insert invoices"
  sql := "INSERT INTO invoices (id, name, total) VALUES (?, ?, ?), (?, ?, ?), (?, ?, ?) RETURNING *"
  params := [.str "k", .str "Ada", .null, .str "kk", .str "Bob", .null, .str "7", .null, .str "5"]

/-- The three invoices are inserted in three columns, the first two with keys of their own. -/
theorem Chain.Inserts.cells_placed_ragged :
    ((Chain.insert (Chain.insertInto "invoices" raggedPayload)).execute {}).transcript
        Executor.scripted tally { engine := { replies := [.error (.backend "locked")] } } =
      [⟨raggedStatement, .error (.backend "locked")⟩] ∧
    Function.Injective tally ∧
    ∃ objects generated keyed names blocks, Payload.objects? raggedPayload = some objects ∧
      Client.Keys {} (objects.map Row.ofFields) generated keyed ∧ generated.Nodup ∧
      Payload.Written "invoices" keyed names blocks raggedStatement := by
  have hsent : ((Chain.insert (Chain.insertInto "invoices" raggedPayload)).execute {}).transcript
      Executor.scripted tally { engine := { replies := [.error (.backend "locked")] } } =
        [⟨raggedStatement, .error (.backend "locked")⟩] := by
    rfl
  have htally : Function.Injective tally := by
    intro m n h
    have hlength := congrArg (fun s : String => s.toList.length) h
    simpa [tally] using hlength
  obtain ⟨-, -, hcells, -⟩ := Chain.Inserts.cells_placed (@insertInto raggedPayload "invoices") {}
    Executor.scripted tally { engine := { replies := [.error (.backend "locked")] } }
  obtain ⟨objects, generated, keyed, names, blocks, hobjects, hkeys, -, hnodup, hwritten, -⟩ :=
    hcells _ _ hsent
  exact ⟨hsent, htally, objects, generated, keyed, names, blocks, hobjects, hkeys, hnodup htally,
    hwritten⟩

end Graft
