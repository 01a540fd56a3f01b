/-
Graft/Proofs/Chain/Shape.lean

What of a value shows in the text of a statement.

Of the values that a chain is given only their shape counts: of a list to be
searched how many items it has, of a test for null whether the value is null, of
a payload which cells its rows have, and of any other value nothing at all
(`Operator.SameShape`, `Payload.SameRows`).  Conditions and rows of the same
shape compile to queries that differ in values only (`Query.Alike`), and these
have the same text (`Query.Alike.sql_eq`); or they fail to compile with the same
error.

Identifiers of new rows may be drawn for some rows and not for others, but a row
gets its key at a place that only its shape decides (`Payload.alike_fillKey`).
-/
import Graft.Proofs.Chain.Guard
import Graft.Proofs.Dialogue.Alike

namespace Graft

theorem map_eq_map_iff {α β γ : Type} {f : α → γ} {g : β → γ} {as : List α} {bs : List β} :
    as.map f = bs.map g ↔ List.Forall₂ (fun a b => f a = g b) as bs := by
  rw [← List.forall₂_map_right_iff, ← List.forall₂_map_left_iff, List.forall₂_eq_eq_eq]

/-! ### Conditions -/

/-- The operator makes the same text of both values: lists that are searched are equally long, and
tests for null test for the same. -/
def Operator.SameShape : Operator → Value → Value → Prop
  | .oneOf, .arr items, .arr items' => items.length = items'.length
  | .oneOf, .arr _, _ => False
  | .oneOf, _, .arr _ => False
  | .nullity, v, v' => v.isNull = v'.isNull
  | _, _, _ => True

/-- Values to be searched that have the same shape are lists of the same length, or neither is a
list. -/
theorem Operator.SameShape.oneOf {v v' : Value} (h : Operator.oneOf.SameShape v v') :
    (∃ items items', v = .arr items ∧ v' = .arr items' ∧ items.length = items'.length) ∨
      (∀ items, v ≠ .arr items) ∧ ∀ items, v' ≠ .arr items := by
  unfold SameShape at h
  split at h
  · exact .inl ⟨_, _, rfl, rfl, h⟩
  · exact h.elim
  · exact h.elim
  · next hnullity => cases hnullity
  · next hv hv' _ => exact .inr ⟨fun items h => hv _ rfl h, fun items h => hv' _ rfl h⟩

theorem Operator.SameShape.eq_nil_iff {v v' : Value} (h : Operator.oneOf.SameShape v v') :
    v = .arr [] ↔ v' = .arr [] := by
  obtain ⟨items, items', rfl, rfl, hlength⟩ | ⟨hv, hv'⟩ := h.oneOf
  · rw [Value.arr.injEq, Value.arr.injEq, ← List.length_eq_zero_iff, hlength,
      List.length_eq_zero_iff]
  · exact ⟨fun h => absurd h (hv []), fun h => absurd h (hv' [])⟩

/-- The conditions differ in their values only, and these have the same shape. -/
structure Condition.Alike (c c' : Condition) : Prop where
  column : c.column = c'.column
  operator : c.operator = c'.operator
  negated : c.negated = c'.negated
  value : c.operator.SameShape c.value c'.value

namespace Condition

variable {c c' : Condition}

theorem Alike.isUnsatisfiable_eq (h : c.Alike c') : c.isUnsatisfiable = c'.isUnsatisfiable := by
  rw [Bool.eq_iff_iff, isUnsatisfiable_iff, isUnsatisfiable_iff, ← h.operator, ← h.negated]
  refine and_congr_right fun hoperator => and_congr_right fun _ => ?_
  exact (hoperator ▸ h.value).eq_nil_iff

theorem Alike.conjunctOn (h : c.Alike c') (column : Ident) :
    Agree (fun k k' : Conjunct => k.sql = k'.sql) (c.conjunctOn column) (c'.conjunctOn column) := by
  obtain ⟨name, operator, value, negated⟩ := c
  obtain ⟨name', operator', value', negated'⟩ := c'
  obtain ⟨rfl, rfl, rfl, hvalue⟩ := h
  unfold Condition.conjunctOn
  -- Only membership and nullity look at the value before it is bound.
  cases operator
  case oneOf =>
    obtain ⟨items, items', rfl, rfl, hlength⟩ | ⟨hv, hv'⟩ := hvalue.oneOf
    -- The lists are equally long: both are empty, or they have as many marks.
    · match items, items', hlength with
      | [], [], _ =>
        cases negated
        · exact .error _
        · exact .ok rfl
      | first :: rest, first' :: rest', hlength =>
        have hmarks : rest.map (fun _ => "?") = rest'.map fun _ => "?" := by
          rw [List.map_const', List.map_const', Nat.succ.inj hlength]
        refine .ok ?_
        unfold Conjunct.sql
        simp only [hmarks]
    · have hnever : ∀ {v : Value}, (∀ items, v ≠ .arr items) →
          Condition.conjunctOn ⟨name, .oneOf, v, negated⟩ column =
            .error (.validation (.listExpected name)) := by
        intro v hv
        cases v with
        | arr items => exact absurd rfl (hv items)
        | _ => rfl
      have h := hnever hv
      have h' := hnever hv'
      unfold Condition.conjunctOn at h h'
      rw [h, h']
      exact .error _
  case nullity =>
    refine .ok ?_
    unfold Conjunct.sql
    simp only [show value.isNull = value'.isNull from hvalue]
  all_goals
    cases negated
    · exact .ok rfl
    · exact .ok rfl

/-- The text of a condition is that of another of the same shape, and what is wrong with one of them
is wrong with the other. -/
theorem Alike.conjunct (h : c.Alike c') :
    Agree (fun k k' : Conjunct => k.sql = k'.sql) c.conjunct c'.conjunct := by
  unfold Condition.conjunct
  rw [h.column]
  exact .bind_same _ fun column => h.conjunctOn column

end Condition

/-! ### Filters -/

/-- The calls differ in their values only, and these have the same shape; where a call names no
operator, its value does not matter. -/
inductive FilterCall.SameShape : FilterCall → FilterCall → Prop
  | satisfying {c c' : Condition} (h : c.Alike c') : SameShape (.satisfying c) (.satisfying c')
  | compare {column : String} {operator : Operator} {v v' : Value} (h : operator.SameShape v v') :
      SameShape (.compare column operator v) (.compare column operator v')
  | oneOf {column : String} {vs vs' : List Value} (h : vs.length = vs'.length) :
      SameShape (.oneOf column vs) (.oneOf column vs')
  | filter {column operator : String} {v v' : Value}
      (h : ∀ op, Operator.parse operator = .ok op → op.SameShape v v') :
      SameShape (.filter column operator v) (.filter column operator v')
  | not {column operator : String} {v v' : Value}
      (h : ∀ op, Operator.parse operator = .ok op → op.SameShape v v') :
      SameShape (.not column operator v) (.not column operator v')

/-- The conditions of such calls, unless they name no operator. -/
theorem FilterCall.SameShape.condition {call call' : FilterCall} (h : call.SameShape call') :
    Agree Condition.Alike call.condition call'.condition := by
  have hnamed : ∀ {column operator : String} {v v' : Value} {negated : Bool},
      (∀ op, Operator.parse operator = .ok op → op.SameShape v v') →
      Agree Condition.Alike
        ((Operator.parse operator).map fun op => (⟨column, op, v, negated⟩ : Condition))
        ((Operator.parse operator).map fun op => (⟨column, op, v', negated⟩ : Condition)) := by
    intro column operator v v' negated h
    cases hop : Operator.parse operator with
    | ok op => exact .ok ⟨rfl, rfl, rfl, h op hop⟩
    | error v => exact .error v
  unfold FilterCall.condition
  cases h with
  | satisfying h => exact .ok h
  | compare h => exact .ok ⟨rfl, rfl, rfl, h⟩
  | oneOf h => exact .ok ⟨rfl, rfl, rfl, h⟩
  | filter h => exact hnamed h
  | not h => exact hnamed h

/-- The filters hold conditions of the same shape, and put off the same violation. -/
structure Filters.Alike (f f' : Filters) : Prop where
  conditions : List.Forall₂ Condition.Alike f.conditions f'.conditions
  deferred : f.deferred = f'.deferred

namespace Filters.Alike

variable {f f' : Filters}

theorem add (h : f.Alike f') {call call' : FilterCall} (hcall : call.SameShape call') :
    (f.add call).Alike (f'.add call') := by
  unfold Filters.add
  generalize hx : call.condition = x
  generalize hx' : call'.condition = x'
  have hcondition : Agree Condition.Alike x x' := hx ▸ hx' ▸ hcall.condition
  cases hcondition with
  | ok hc => exact ⟨List.rel_append h.conditions (.cons hc .nil), h.deferred⟩
  | error v => exact ⟨h.conditions, by rw [h.deferred]⟩

theorem isEmpty_eq (h : f.Alike f') : f.isEmpty = f'.isEmpty := by
  rw [isEmpty, isEmpty, Bool.eq_iff_iff, List.isEmpty_iff_length_eq_zero,
    List.isEmpty_iff_length_eq_zero, h.conditions.length_eq]

theorem validate_eq (h : f.Alike f') : f.validate = f'.validate := by
  rw [validate, validate, h.deferred]

theorem unsatisfiableColumn?_eq (h : f.Alike f') :
    f.unsatisfiableColumn? = f'.unsatisfiableColumn? := by
  obtain ⟨conditions, deferred⟩ := f
  obtain ⟨conditions', deferred'⟩ := f'
  have hconditions : List.Forall₂ Condition.Alike conditions conditions' := h.conditions
  unfold unsatisfiableColumn?
  clear h
  induction hconditions with
  | nil => rfl
  | @cons c c' cs cs' hc _ ih =>
    rw [List.find?_cons, List.find?_cons, ← hc.isUnsatisfiable_eq]
    cases c.isUnsatisfiable
    · exact ih
    · exact congrArg some hc.column

theorem compile (h : f.Alike f') :
    Agree (fun k k' => Query.clauseSql k = Query.clauseSql k') f.compile f'.compile := by
  unfold Filters.compile
  rw [h.validate_eq]
  refine .bind_same _ fun _ => ?_
  refine (Agree.mapM h.conditions fun _ _ hc => hc.conjunct).mono fun k k' hk => ?_
  have hsql : k.map Conjunct.sql = k'.map Conjunct.sql := map_eq_map_iff.2 hk
  have hempty : k.isEmpty = k'.isEmpty := by
    rw [← List.isEmpty_map (f := Conjunct.sql), hsql, List.isEmpty_map]
  rw [Query.clauseSql_eq, Query.clauseSql_eq, hempty, hsql]

end Filters.Alike

/-! ### Payloads -/

/-- The cells of both rows have the same names, in the same order. -/
abbrev Row.Alike (r r' : Row) : Prop :=
  r.keys = r'.keys

namespace Payload

/-- The values are rows with the same keys in the same order, or values of the same kind that are
no rows. -/
inductive SameKeys : Value → Value → Prop
  | row {fields fields' : List (String × Value)}
      (h : (Row.ofFields fields).keys = (Row.ofFields fields').keys) :
      SameKeys (.obj fields) (.obj fields')
  | other {v v' : Value} (h : v.shape = v'.shape) (hobj : v.shape ≠ .object) : SameKeys v v'

/-- The values are of the same kind and have as many rows, with the same keys each. -/
inductive SameRows : Value → Value → Prop
  | one {v v' : Value} (h : SameKeys v v') (harr : v.shape ≠ .array) : SameRows v v'
  | many {items items' : List Value} (h : List.Forall₂ SameKeys items items') :
      SameRows (.arr items) (.arr items')

/-- The payloads have values in some relation, or neither has a value, for the same reason. -/
inductive Same (R : Value → Value → Prop) : Payload → Payload → Prop
  | value {v v' : Value} (h : R v v') : Same R v v'
  | unserialized (reason : String) : Same R (.unserialized reason) (.unserialized reason)

/-- As many rows in one list as in the other, with the same keys each. -/
abbrev AlikeRows : List Row → List Row → Prop :=
  List.Forall₂ Row.Alike

/-! Of what is no row, only the kind shows. -/

theorem readValues_of_shape {v : Value} (hobj : v.shape ≠ .object) :
    readValues v = .error (.updateShape v.shape) := by
  cases v with
  | obj fields => exact absurd rfl hobj
  | _ => rfl

theorem readItems_of_shape {v : Value} (hobj : v.shape ≠ .object) (index : Nat)
    (rest : List Value) :
    readItems index (v :: rest) = .error (.payloadItemShape index v.shape) := by
  cases v with
  | obj fields => exact absurd rfl hobj
  | _ => rfl

theorem readRows_of_shape {v : Value} (hobj : v.shape ≠ .object) (harr : v.shape ≠ .array) :
    readRows v = .error (.payloadShape v.shape) := by
  cases v with
  | obj fields => exact absurd rfl hobj
  | arr items => exact absurd rfl harr
  | _ => rfl

theorem SameKeys.readValues {v v' : Value} (h : SameKeys v v') :
    Agree Row.Alike (Payload.readValues v) (Payload.readValues v') := by
  cases h with
  | row hkeys => exact .ok hkeys
  | other hshape hobj =>
    rw [readValues_of_shape hobj, readValues_of_shape (hshape ▸ hobj), hshape]
    exact .error _

theorem alike_readItems {items items' : List Value} (h : List.Forall₂ SameKeys items items')
    (index : Nat) : Agree AlikeRows (readItems index items) (readItems index items') := by
  induction h generalizing index with
  | nil => exact .ok .nil
  | cons hitem _ ih =>
    cases hitem with
    | row hkeys => exact (ih (index + 1)).map fun _ _ hrest => .cons hkeys hrest
    | other hshape hobj =>
      rw [readItems_of_shape hobj, readItems_of_shape (hshape ▸ hobj), hshape]
      exact .error _

theorem SameRows.readRows {v v' : Value} (h : SameRows v v') :
    Agree AlikeRows (Payload.readRows v) (Payload.readRows v') := by
  cases h with
  | many hitems => exact alike_readItems hitems 0
  | one hkeys harr =>
    cases hkeys with
    | row hkeys => exact .ok (.cons hkeys .nil)
    | other hshape hobj =>
      rw [readRows_of_shape hobj harr, readRows_of_shape (hshape ▸ hobj) (hshape ▸ harr), hshape]
      exact .error _

/-- What is taken from two values alike is taken from their payloads alike. -/
theorem Same.read {α : Type} {R : Value → Value → Prop} {S : α → α → Prop}
    {take : Value → Except Violation α} {p p' : Payload} (h : Same R p p')
    (htake : ∀ {v v'}, R v v' → Agree S (take v) (take v')) :
    Agree S (p.read take) (p'.read take) := by
  cases h with
  | value h => exact (htake h).mapError _
  | unserialized reason => exact .error _

/-- A row that gets a primary key gets it at the same place. -/
theorem alike_fillKey (primaryKey : String) {row row' : Row} (h : row.Alike row') :
    Dialogue.Alike Row.Alike (fillKey primaryKey row) (fillKey primaryKey row') := by
  unfold fillKey
  by_cases hkey : primaryKey ∈ row.keys
  · -- it has the cell already, so its keys stay, whether the cell is filled or not
    have hkey' : primaryKey ∈ row'.keys := h ▸ hkey
    have hinsert (id : String) : (row.insert primaryKey (.str id)).keys = row.keys := by
      rw [Row.keys_insert, if_pos hkey]
    have hinsert' (id : String) : (row'.insert primaryKey (.str id)).keys = row'.keys := by
      rw [Row.keys_insert, if_pos hkey']
    rw [dif_pos hkey, dif_pos hkey']
    split
    · split
      · exact .done h
      · exact .drawRight fun id => .done (h.trans (hinsert' id).symm)
    · split
      · exact .drawLeft fun id => .done ((hinsert id).trans h)
      · exact .drawLeft fun id => .drawRight fun id' =>
          .done ((hinsert id).trans (h.trans (hinsert' id').symm))
  · rw [dif_neg hkey, dif_neg (h ▸ hkey)]
    exact .drawLeft fun _ => .drawRight fun _ => .done (congrArg (primaryKey :: ·) h)

theorem alike_fillKeys (primaryKey : String) {rows rows' : List Row}
    (h : AlikeRows rows rows') : Dialogue.Alike AlikeRows (fillKeys primaryKey rows)
      (fillKeys primaryKey rows') := by
  induction h with
  | nil => exact .done .nil
  | cons hrow _ ih =>
    refine (alike_fillKey primaryKey hrow).bind fun r r' hr => ih.bind fun rs rs' hrs => ?_
    exact .done (.cons hr hrs)

theorem AlikeRows.columnUnion_eq {rows rows' : List Row} (h : AlikeRows rows rows') :
    columnUnion rows = columnUnion rows' := by
  rw [columnUnion, columnUnion, List.flatMap_def, List.flatMap_def, map_eq_map_iff.2 h]

/-- Each row of an insert has one question mark for each column. -/
theorem tupleSql_cellsIn (columns : List String) (row : Row) :
    Query.tupleSql (cellsIn columns row) =
      "(" ++ ", ".intercalate (columns.map fun _ => "?") ++ ")" := by
  rw [Query.tupleSql, cellsIn, List.map_map]
  rfl

/-- The insertions differ in the cells of their rows only. -/
structure Insertion.Alike (i i' : Insertion) : Prop where
  table : i.table = i'.table
  names : i.names = i'.names
  columns : i.columns = i'.columns
  rows : i.rows.map Query.tupleSql = i'.rows.map Query.tupleSql

theorem AlikeRows.compile {rows rows' : List Row} (h : AlikeRows rows rows') (table : String) :
    Agree Insertion.Alike (Insertion.compile table rows) (Insertion.compile table rows') := by
  unfold Insertion.compile
  rw [h.columnUnion_eq]
  refine .bind_same _ fun columns => .bind_same _ fun table => .ok ⟨rfl, rfl, rfl, ?_⟩
  simp only [List.map_map, Function.comp_def, tupleSql_cellsIn, List.map_const', h.length_eq]

end Payload

theorem Client.alike_keyedRows (client : Client) {rows rows' : List Row}
    (h : Payload.AlikeRows rows rows') :
    Action.Alike Payload.AlikeRows (client.keyedRows rows) (client.keyedRows rows') := by
  unfold keyedRows
  split
  · exact Action.alike_dialogue (Payload.alike_fillKeys _ h)
  · exact Action.alike_pure h

theorem UpdateChain.alike_assignments {values values' : Row} (h : values.Alike values') :
    Agree (List.Forall₂ fun a a' : Ident × Value => a.1 = a'.1) (assignments values)
      (assignments values') := by
  refine Agree.mapM (map_eq_map_iff.1 h) ?_
  rintro ⟨name, v⟩ ⟨_, v'⟩ rfl
  exact (Agree.refl (Ident.parse name)).map fun _ _ hident => hident

/-! ### Queries -/

/-- The queries differ in values only, and have as many of them at each place. -/
inductive Query.Alike : Query → Query → Prop
  | select {columns : List Column} {table : Ident} {clause clause' : Clause}
      {order : List (Ident × Direction)} {window? : Option Window}
      (hclause : clauseSql clause = clauseSql clause') :
      Alike (.select columns table clause order window?)
        (.select columns table clause' order window?)
  | insert {table : Ident} {columns : List Ident} {rows rows' : List (List Value)}
      {conflict? : Option Conflict} {returning : List Column}
      (hrows : rows.map tupleSql = rows'.map tupleSql) :
      Alike (.insert table columns rows conflict? returning)
        (.insert table columns rows' conflict? returning)
  | update {table : Ident} {assigned assigned' : List (Ident × Value)} {clause clause' : Clause}
      {returning : List Column}
      (hassigned : List.Forall₂ (fun a a' => a.1 = a'.1) assigned assigned')
      (hclause : clauseSql clause = clauseSql clause') :
      Alike (.update table assigned clause returning) (.update table assigned' clause' returning)
  | delete {table : Ident} {clause clause' : Clause} {returning? : Option (List Column)}
      (hclause : clauseSql clause = clauseSql clause') :
      Alike (.delete table clause returning?) (.delete table clause' returning?)

theorem Query.Alike.sql_eq {q q' : Query} (h : q.Alike q') : q.sql = q'.sql := by
  unfold sql
  cases h with
  | select hclause => simp only [hclause]
  | insert hrows => simp only [hrows]
  | update hassigned hclause =>
    have hsql := map_eq_map_iff.2
      (hassigned.imp fun a a' h => congrArg (fun c => c.sql ++ " = ?") h)
    simp only [hsql, hclause]
  | delete hclause => simp only [hclause]

section

variable {client : Client}

theorem SelectChain.alike_compile (c : SelectChain) {f : Filters} (h : c.filters.Alike f) :
    Agree (fun q q' => q.1.Alike q'.1) (c.compile client)
      ({ c with filters := f }.compile client) := by
  unfold compile
  refine .bind_same _ fun projection => h.compile.bind fun clause clause' hclause => ?_
  refine .bind_same _ fun table => .bind_same _ fun order => ?_
  exact .ok (.select hclause)

theorem InsertChain.alike_compile (c : InsertChain) {rows rows' : List Row}
    (h : Payload.AlikeRows rows rows') :
    Agree (fun q q' => q.1.Alike q'.1) (c.compile client rows) (c.compile client rows') := by
  unfold compile
  refine .bind_same _ fun projection => (h.compile c.table).check.bind fun i i' hi => ?_
  rw [hi.table, hi.columns]
  exact .ok (.insert hi.rows)

theorem UpsertChain.alike_compile (c : UpsertChain) (conflict : List String)
    {rows rows' : List Row} (h : Payload.AlikeRows rows rows') :
    Agree (fun q q' => q.1.Alike q'.1) (c.compile client conflict rows)
      (c.compile client conflict rows') := by
  unfold compile
  refine .bind_same _ fun target => (h.compile c.table).check.bind fun i i' hi => ?_
  rw [hi.table, hi.names, hi.columns]
  refine .bind_same _ fun updates => .bind_same _ fun projection => ?_
  exact .ok (.insert hi.rows)

theorem UpdateChain.alike_compile (c : UpdateChain) {values values' : Row} {f : Filters}
    (hvalues : values.Alike values') (h : c.filters.Alike f) :
    Agree (fun q q' => q.1.Alike q'.1) (c.compile client values)
      ({ c with filters := f }.compile client values') := by
  have hempty : values.cells.isEmpty = values'.cells.isEmpty := by
    rw [← List.isEmpty_map (f := Prod.fst), show values.cells.map _ = _ from hvalues,
      Row.keys, List.isEmpty_map]
  unfold compile
  refine .bind_same _ fun projection => ?_
  simp only [hempty]
  split
  · exact .error _
  · refine h.compile.bind fun clause clause' hclause => ?_
    refine (alike_assignments hvalues).check.bind fun assigned assigned' hassigned => ?_
    refine .bind_same _ fun table => ?_
    exact .ok (.update hassigned hclause)

theorem DeleteChain.alike_compile (c : DeleteChain) {f : Filters} (h : c.filters.Alike f) :
    Agree (fun q q' => q.1.Alike q'.1) (c.compile client)
      ({ c with filters := f }.compile client) := by
  unfold compile
  refine h.compile.bind fun clause clause' hclause => .bind_same _ fun table => ?_
  refine .bind_same _ fun projection? => ?_
  exact .ok (.delete hclause)

end

end Graft
