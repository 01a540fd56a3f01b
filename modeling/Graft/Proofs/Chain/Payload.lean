/-
Graft/Proofs/Chain/Payload.lean

The rows of a payload, and their primary keys.

A payload is one object or an array of objects, and each of these is a row
(`Payload.objects?`, `Payload.read_rows_of_objects?`).  Anything else is refused,
and so is what has no value.  A row of fields with distinct names has just these
as its cells (`Row.cells_ofFields`).

Before they are inserted, the rows get their primary keys.  `Payload.Keyed` says
what that means without running anything: a row with a key stays as it is, a
null key is replaced in its place, and where there is none it is put before the
other cells.  Each of the latter two takes one identifier, in the order of the
rows (`Payload.draws_fillKeys`).
-/
import Mathlib.Data.List.Forall2
import Graft.Chain.Insert
import Graft.Proofs.Dialogue.Drawing

namespace Graft

/-! ### Rows of a payload -/

/-- The fields of an object. -/
def Value.fields? : Value → Option (List (String × Value))
  | .obj fields => some fields
  | _ => none

/-- The objects of a value, if it is an object or an array of objects. -/
def Value.objects? : Value → Option (List (List (String × Value)))
  | .obj fields => some [fields]
  | .arr items => items.mapM Value.fields?
  | _ => none

/-- The objects of a payload, if its value is an object or an array of objects. -/
def Payload.objects? : Payload → Option (List (List (String × Value)))
  | .value v => v.objects?
  | .unserialized _ => none

theorem toOption_map {ε α β : Type} (x : Except ε α) (f : α → β) :
    (x.map f).toOption = x.toOption.map f := by
  cases x <;> rfl

namespace Payload

theorem toOption_readItems (index : Nat) (items : List Value) :
    (readItems index items).toOption =
      (items.mapM Value.fields?).map (·.map Row.ofFields) := by
  induction items generalizing index with
  | nil => rfl
  | cons item rest ih =>
    rw [List.mapM_cons]
    cases item with
    | obj fields =>
      rw [readItems, toOption_map, ih]
      show _ = Option.map _ ((rest.mapM Value.fields?).bind fun more => some (fields :: more))
      cases rest.mapM Value.fields? <;> rfl
    | _ => rfl

/-- The rows of a value are its objects. -/
theorem readRows_eq_ok_iff {v : Value} {rows : List Row} :
    readRows v = .ok rows ↔
      ∃ objects, v.objects? = some objects ∧ rows = objects.map Row.ofFields := by
  have hrows : (readRows v).toOption = v.objects?.map (·.map Row.ofFields) := by
    cases v with
    | arr items => exact toOption_readItems 0 items
    | _ => rfl
  rw [← toOption_eq_some_iff, hrows, Option.map_eq_some_iff]
  exact exists_congr fun _ => and_congr_right fun _ => eq_comm

/-- A payload that has objects has just these as its rows. -/
theorem read_rows_of_objects? {payload : Payload} {objects : List (List (String × Value))}
    (h : payload.objects? = some objects) :
    payload.read readRows = .ok (objects.map Row.ofFields) := by
  cases payload with
  | unserialized reason => cases h
  | value v => exact mapError_eq_ok_iff.2 (readRows_eq_ok_iff.2 ⟨objects, h, rfl⟩)

/-- The fault of a payload without objects: it has no value, or a value that is not rows. -/
theorem exists_read_rows_error {payload : Payload} (h : payload.objects? = none) :
    ∃ fault, payload.read readRows = .error fault ∧
      ((∃ cause, fault.error = .validation cause) ∨
        ∃ reason, payload = .unserialized reason ∧ fault.error = .decode reason) := by
  cases payload with
  | unserialized reason => exact ⟨.unserialized reason, rfl, .inr ⟨reason, rfl, rfl⟩⟩
  | value v =>
    cases hrows : readRows v with
    | error cause =>
      exact ⟨.misshapen cause, mapError_eq_error_iff.2 ⟨cause, hrows, rfl⟩, .inl ⟨cause, rfl⟩⟩
    | ok rows =>
      obtain ⟨objects, hobjects, -⟩ := readRows_eq_ok_iff.1 hrows
      have hnone : v.objects? = none := h
      rw [hnone] at hobjects
      cases hobjects

/-- Only the empty array is a payload of no rows. -/
theorem eq_arr_nil_of_objects?_nil {payload : Payload} (h : payload.objects? = some []) :
    payload = .value (.arr []) := by
  cases payload with
  | unserialized reason => cases h
  | value v =>
    cases v with
    | arr items =>
      cases items with
      | nil => rfl
      | cons item rest =>
        have hcons : (item.fields?.bind fun fields =>
            (rest.mapM Value.fields?).bind fun more => some (fields :: more)) = some [] := by
          rw [← h, objects?, Value.objects?, List.mapM_cons]
          rfl
        obtain ⟨fields, -, hcons⟩ := Option.bind_eq_some_iff.1 hcons
        obtain ⟨more, -, hcons⟩ := Option.bind_eq_some_iff.1 hcons
        cases hcons
    | obj fields => cases h
    | _ => cases h

end Payload

/-! ### Cells of a row -/

theorem setCell_of_not_mem {k : String} {cells : List (String × Value)}
    (h : k ∉ cells.map (·.1)) (v : Value) : setCell k v cells = cells ++ [(k, v)] := by
  induction cells with
  | nil => rfl
  | cons cell rest ih =>
    obtain ⟨hne, hrest⟩ := not_or.1 (mt List.mem_cons.2 h)
    rw [setCell, if_neg (Ne.symm hne), ih hrest]
    rfl

theorem setCell_eq_map {k : String} {cells : List (String × Value)} (h : k ∈ cells.map (·.1))
    (hnodup : (cells.map (·.1)).Nodup) (v : Value) :
    setCell k v cells = cells.map fun cell => if cell.1 = k then (k, v) else cell := by
  induction cells with
  | nil => cases h
  | cons cell rest ih =>
    obtain ⟨hnot, hrest⟩ := List.nodup_cons.1 hnodup
    by_cases hk : cell.1 = k
    · subst hk
      have hsame : rest.map (fun c => if c.1 = cell.1 then (cell.1, v) else c) = rest := by
        refine (List.map_congr_left fun c hc => if_neg fun heq => ?_).trans (List.map_id' rest)
        exact hnot (List.mem_map.2 ⟨c, hc, heq⟩)
      rw [setCell, if_pos rfl, List.map_cons, if_pos rfl, hsame]
    · have hmem : k ∈ rest.map (·.1) := (List.mem_cons.1 h).resolve_left (Ne.symm hk)
      rw [setCell, if_neg hk, ih hmem hrest, List.map_cons, if_neg hk]

namespace Row

/-- A row of fields with distinct names has just these as its cells. -/
theorem cells_ofFields {fields : List (String × Value)} (h : (fields.map (·.1)).Nodup) :
    (ofFields fields).cells = fields := by
  -- For any row to start from, since the fold goes on from the rows in between.
  have hfold : ∀ row : Row, ((row.cells ++ fields).map (·.1)).Nodup →
      (fields.foldl (fun r field => r.insert field.1 field.2) row).cells = row.cells ++ fields := by
    clear h
    induction fields with
    | nil =>
      intro row _
      exact (List.append_nil _).symm
    | cons field rest ih =>
      intro row hnodup
      have hnot : field.1 ∉ row.cells.map (·.1) := by
        rw [List.map_append, List.map_cons] at hnodup
        exact fun hmem => (List.nodup_append.1 hnodup).2.2 _ hmem _ List.mem_cons_self rfl
      have hcells : (row.insert field.1 field.2).cells = row.cells ++ [field] :=
        setCell_of_not_mem hnot field.2
      rw [List.foldl_cons, ih, hcells, List.append_assoc]
      · rfl
      · rw [hcells, List.append_assoc]
        exact hnodup
  exact hfold empty h

theorem get?_eq_none_iff {row : Row} {k : String} : row.get? k = none ↔ k ∉ row.keys := by
  rw [get?, List.lookup_eq_none_iff, keys, List.mem_map]
  simp only [bne_iff_ne, not_exists, not_and]
  exact forall₂_congr fun _ _ => ne_comm

theorem get?_eq_some_iff {row : Row} {k : String} {v : Value} :
    row.get? k = some v ↔ (k, v) ∈ row.cells := by
  rw [get?, List.lookup_eq_some_iff]
  constructor
  · rintro ⟨before, after, hcells, -⟩
    rw [hcells]
    exact List.mem_append_right _ List.mem_cons_self
  · intro hmem
    obtain ⟨before, after, hcells⟩ := List.append_of_mem hmem
    refine ⟨before, after, hcells, fun cell hcell => ?_⟩
    have hnodup := row.nodup
    rw [hcells, List.map_append, List.map_cons] at hnodup
    refine bne_iff_ne.2 fun heq => ?_
    have hdisjoint := (List.nodup_append.1 hnodup).2.2
    exact hdisjoint _ (List.mem_map_of_mem hcell) _ List.mem_cons_self heq.symm

end Row

/-! ### Primary keys -/

namespace Payload

/-- `Keyed primaryKey rows ids keyed`: `keyed` are the rows with primary keys, for which those
without one took the identifiers `ids`, in that order. -/
inductive Keyed (primaryKey : String) : List Row → List String → List Row → Prop
  | nil : Keyed primaryKey [] [] []
  /-- A row with a primary key stays as it is. -/
  | kept {row : Row} {v : Value} {rows keyed : List Row} {ids : List String}
      (hkey : row.get? primaryKey = some v) (hsome : v ≠ .null)
      (h : Keyed primaryKey rows ids keyed) :
      Keyed primaryKey (row :: rows) ids (row :: keyed)
  /-- A null key is replaced in its place. -/
  | replaced {row row' : Row} {id : String} {rows keyed : List Row} {ids : List String}
      (hkey : row.get? primaryKey = some .null)
      (hcells : row'.cells =
        row.cells.map fun cell => if cell.1 = primaryKey then (primaryKey, .str id) else cell)
      (h : Keyed primaryKey rows ids keyed) :
      Keyed primaryKey (row :: rows) (id :: ids) (row' :: keyed)
  /-- A missing key is put before all other cells. -/
  | led {row row' : Row} {id : String} {rows keyed : List Row} {ids : List String}
      (hkey : row.get? primaryKey = none)
      (hcells : row'.cells = (primaryKey, .str id) :: row.cells)
      (h : Keyed primaryKey rows ids keyed) :
      Keyed primaryKey (row :: rows) (id :: ids) (row' :: keyed)

namespace Keyed

variable {primaryKey : String} {rows keyed : List Row} {ids : List String}

/-- Every row has a primary key then, and none is null. -/
theorem exists_key (h : Keyed primaryKey rows ids keyed) :
    ∀ row ∈ keyed, ∃ v, row.get? primaryKey = some v ∧ v ≠ .null := by
  induction h with
  | nil => simp
  | kept hkey hsome _ ih => exact List.forall_mem_cons.2 ⟨⟨_, hkey, hsome⟩, ih⟩
  | @replaced row row' id _ _ _ hkey hcells _ ih =>
    refine List.forall_mem_cons.2 ⟨⟨.str id, Row.get?_eq_some_iff.2 ?_, nofun⟩, ih⟩
    rw [hcells]
    exact List.mem_map.2 ⟨_, Row.get?_eq_some_iff.1 hkey, if_pos rfl⟩
  | @led row row' id _ _ _ _ hcells _ ih =>
    refine List.forall_mem_cons.2 ⟨⟨.str id, Row.get?_eq_some_iff.2 ?_, nofun⟩, ih⟩
    rw [hcells]
    exact List.mem_cons_self

/-- Every cell but a null key is still there. -/
theorem cells_subset (h : Keyed primaryKey rows ids keyed) :
    List.Forall₂ (fun row row' : Row =>
      ∀ cell ∈ row.cells, cell ≠ (primaryKey, .null) → cell ∈ row'.cells) rows keyed := by
  induction h with
  | nil => exact .nil
  | kept _ _ _ ih => exact .cons (fun cell hcell _ => hcell) ih
  | @replaced row row' id _ _ _ hkey hcells _ ih =>
    refine .cons (fun cell hcell hne => ?_) ih
    have hother : cell.1 ≠ primaryKey := by
      rintro rfl
      rw [Row.get?_eq_some_iff.2 hcell] at hkey
      exact hne (Prod.ext rfl (Option.some.inj hkey))
    rw [hcells]
    exact List.mem_map.2 ⟨cell, hcell, if_neg hother⟩
  | led _ hcells _ ih =>
    refine .cons (fun cell hcell _ => ?_) ih
    rw [hcells]
    exact List.mem_cons_of_mem _ hcell

end Keyed

variable (primaryKey : String) (ids : Nat → String)

/-- A row draws one identifier if its primary key is null or missing. -/
theorem draws_fillKey (first : Nat) (row : Row) :
    (∃ v, row.get? primaryKey = some v ∧ v ≠ .null ∧
        (fillKey primaryKey row).Draws ids first first row) ∨
      ∃ row', (fillKey primaryKey row).Draws ids first (first + 1) row' ∧
        (row.get? primaryKey = some .null ∧
            row'.cells = (row.cells.map fun cell =>
              if cell.1 = primaryKey then (primaryKey, .str (ids first)) else cell) ∨
          row.get? primaryKey = none ∧
            row'.cells = (primaryKey, .str (ids first)) :: row.cells) := by
  unfold fillKey
  -- An id is drawn where the key is null, and takes its place, or missing, and goes in front.
  by_cases hkey : primaryKey ∈ row.keys
  · rw [dif_pos hkey]
    cases hv : row.get? primaryKey with
    | none => exact absurd hkey (Row.get?_eq_none_iff.1 hv)
    | some v =>
      by_cases hnull : v = .null
      · subst hnull
        exact .inr ⟨row.insert primaryKey (.str (ids first)), .draw (.done _ _),
          .inl ⟨rfl, setCell_eq_map hkey row.nodup _⟩⟩
      · refine .inl ⟨v, rfl, hnull, ?_⟩
        have hsome : (some v).any (!·.isNull) = true := by
          cases v with
          | null => exact absurd rfl hnull
          | _ => rfl
        rw [if_pos hsome]
        exact .done _ _
  · rw [dif_neg hkey]
    exact .inr ⟨row.cons primaryKey (.str (ids first)) hkey, .draw (.done _ _),
      .inr ⟨Row.get?_eq_none_iff.2 hkey, rfl⟩⟩

/-- **Keying rows** draws one identifier for each row without a primary key, by induction on the
rows. -/
theorem draws_fillKeys (rows : List Row) (first : Nat) :
    ∃ generated keyed, Keyed primaryKey rows generated keyed ∧
      generated = (List.range' first generated.length).map ids ∧
      (fillKeys primaryKey rows).Draws ids first (first + generated.length) keyed := by
  induction rows generalizing first with
  | nil => exact ⟨[], [], .nil, rfl, .done first []⟩
  | cons row rest ih =>
    -- This row has drawn an id or has not; the rest draws on from there.
    obtain ⟨v, hkey, hsome, hrow⟩ | ⟨row', hrow, hcells⟩ :=
      draws_fillKey primaryKey ids first row
    · obtain ⟨generated, keyed, hkeyed, hgenerated, hrest⟩ := ih first
      exact ⟨generated, row :: keyed, .kept hkey hsome hkeyed, hgenerated,
        hrow.bind (hrest.bind (.done _ _))⟩
    · obtain ⟨generated, keyed, hkeyed, hgenerated, hrest⟩ := ih (first + 1)
      refine ⟨ids first :: generated, row' :: keyed, ?_, ?_, ?_⟩
      · obtain ⟨hkey, hcells⟩ | ⟨hkey, hcells⟩ := hcells
        · exact .replaced hkey hcells hkeyed
        · exact .led hkey hcells hkeyed
      · rw [List.length_cons, List.range'_succ, List.map_cons, ← hgenerated]
      · rw [List.length_cons, ← Nat.add_assoc, Nat.add_right_comm]
        exact hrow.bind (hrest.bind (.done _ _))

end Payload

/-- The rows of a chain as they are inserted: with primary keys, or as they are. -/
inductive Client.Keys (client : Client) (rows : List Row) : List String → List Row → Prop
  | generating {generated : List String} {keyed : List Row}
      (hgenerate : client.settings.generateIds = true)
      (h : Payload.Keyed client.settings.primaryKey rows generated keyed) :
      Keys client rows generated keyed
  | leaving (hgenerate : client.settings.generateIds = false) : Keys client rows [] rows

theorem Client.Keys.exists_key {client : Client} {rows keyed : List Row} {generated : List String}
    (h : client.Keys rows generated keyed) (hgenerate : client.settings.generateIds = true) :
    ∀ row ∈ keyed, ∃ v, row.get? client.settings.primaryKey = some v ∧ v ≠ .null := by
  cases h with
  | generating _ h => exact h.exists_key
  | leaving hleave => exact absurd hgenerate (Bool.eq_false_iff.1 hleave)

/-- No cell of a row is lost but a null primary key in the place of which another one comes. -/
theorem Client.Keys.cells_subset {client : Client} {rows keyed : List Row} {generated : List String}
    (h : client.Keys rows generated keyed) :
    List.Forall₂ (fun row row' : Row => ∀ cell ∈ row.cells,
      (client.settings.generateIds = true → cell ≠ (client.settings.primaryKey, .null)) →
        cell ∈ row'.cells) rows keyed := by
  cases h with
  | generating hgenerate h =>
    exact h.cells_subset.imp fun row row' hcells cell hcell hne => hcells cell hcell (hne hgenerate)
  | leaving => exact List.forall₂_same.2 fun row _ cell hcell _ => hcell

theorem Client.Keys.length_eq {client : Client} {rows keyed : List Row} {generated : List String}
    (h : client.Keys rows generated keyed) : keyed.length = rows.length :=
  h.cells_subset.length_eq.symm

/-- What is done with the rows of a chain sends what it sends to rows with their keys, which come
from the source of identifiers. -/
theorem Client.transcript_keyedRows_bind {σ β : Type} (client : Client) (rows : List Row)
    (ex : Executor σ) (ids : Nat → String) (s : Session σ) (f : List Row → Action β) :
    ∃ generated keyed, client.Keys rows generated keyed ∧
      generated = (List.range' s.drawn generated.length).map ids ∧
      Dialogue.transcript ex ids (client.keyedRows rows >>= f).run s =
        Dialogue.transcript ex ids (f keyed).run
          { s with drawn := s.drawn + generated.length } := by
  unfold keyedRows
  split
  · next hgenerate =>
    obtain ⟨generated, keyed, hkeyed, hgenerated, hdraws⟩ :=
      Payload.draws_fillKeys client.settings.primaryKey ids rows s.drawn
    exact ⟨generated, keyed, .generating hgenerate hkeyed, hgenerated,
      Action.transcript_draws_bind hdraws ex rfl⟩
  · next hgenerate => exact ⟨[], rows, .leaving (Bool.eq_false_iff.2 hgenerate), rfl, rfl⟩

end Graft
