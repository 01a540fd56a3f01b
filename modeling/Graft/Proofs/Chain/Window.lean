/-
Graft/Proofs/Chain/Window.lean

Which rows a select asks for.

A select takes calls that limit the number of its rows or want those from one
place to another, among its other calls and in any order (`SelectCall`).  The
numbers are unsigned and have 64 bits, but the engine takes only those that have
a sign as well.  What a call asks for is said here in integers, which never wrap
(`WindowCall.complaint?`, `count`, `start?`), and the chain is compared with
that:

* a call that is accepted sets the limit, and a range the offset too; one that
  is refused changes nothing but to be remembered if it is the first
  (`Windowed.window`);
* all other calls leave the window alone, and a call for a window leaves all
  else alone (`SelectChain.Beside`).

So the statement is that of the chain without its windows, and after it come the
limit that was asked for last and the offset that was asked for last; or the
first refusal is reported (`SelectChain.windowed`).

A window has a limit, with or without an offset.  Kept apart, the two are fields
that each call sets or leaves alone (`Bounds.step`).  That no call leaves an
offset without a limit is then an invariant (`Bounds.Closed.step`), and the text
of both is that of the window (`SelectChain.window_sql_after`).  So the branch of
`windowText` for an offset without a limit is never taken.
-/
import Graft.Proofs.Chain.Guard
import Graft.Proofs.Chain.Preview

namespace Graft

/-! ### Calls for a window -/

/-- A call that says which of the rows are wanted. -/
inductive WindowCall where
  | limit (count : UInt64)
  | range (first last : UInt64)

namespace WindowCall

/-- The chain after the call. -/
def apply (c : SelectChain) : WindowCall → SelectChain
  | .limit count => c.limit count
  | .range first last => c.range first last

/-- The greatest number that an engine takes. -/
def greatest : ℤ := Int64.maxValue.toInt

/-- What is wrong with the call, if anything. -/
def complaint? : WindowCall → Option String
  | .limit count =>
    if (count.toNat : ℤ) > greatest then
      some s!"limit({(count.toNat : ℤ)}) exceeds {greatest}"
    else none
  | .range first last =>
    if (last.toNat : ℤ) < first.toNat then
      some s!"range({(first.toNat : ℤ)}, {(last.toNat : ℤ)}): end precedes start"
    else if (last.toNat : ℤ) - first.toNat + 1 > greatest ∨ (first.toNat : ℤ) > greatest then
      some s!"range({(first.toNat : ℤ)}, {(last.toNat : ℤ)}) exceeds {greatest} rows"
    else none

/-- How many rows are wanted. -/
def count : WindowCall → ℤ
  | .limit count => count.toNat
  | .range first last => last.toNat - first.toNat + 1

/-- How many rows are to be passed over before, if the call says so. -/
def start? : WindowCall → Option ℤ
  | .limit _ => none
  | .range first _ => some first.toNat

/-- The number of rows that is asked for last. -/
def lastCount? (calls : List WindowCall) : Option ℤ :=
  (calls.map count).getLast?

/-- The number of rows to be passed over that is asked for last. -/
def lastStart? (calls : List WindowCall) : Option ℤ :=
  (calls.filterMap start?).getLast?

/-- Who asks for rows to be passed over asks for a number of rows too. -/
theorem lastCount?_ne_none {calls : List WindowCall} (h : lastStart? calls ≠ none) :
    lastCount? calls ≠ none := by
  intro hnone
  rw [lastCount?, List.getLast?_eq_none_iff, List.map_eq_nil_iff] at hnone
  subst hnone
  exact h rfl

/-- The calls with which nothing is wrong. -/
def accepted (calls : List WindowCall) : List WindowCall :=
  calls.filter (·.complaint?.isNone)

end WindowCall

/-- The text for a limit and an offset, of which each may be missing. -/
def windowText : Option ℤ → Option ℤ → String
  | some limit, some offset => s!" LIMIT {limit} OFFSET {offset}"
  | some limit, none => s!" LIMIT {limit}"
  | none, some offset => s!" LIMIT -1 OFFSET {offset}"
  | none, none => ""

/-! ### Limits and offsets apart -/

/-- A limit and an offset, of which each may be missing. -/
structure Bounds where
  limit? : Option UInt64 := none
  offset? : Option UInt64 := none

namespace Bounds

variable {b : Bounds}

/-- The bounds in a statement.  An engine takes no offset without a limit, so one is put there that
limits nothing. -/
def sql : Bounds → String
  | ⟨some limit, some offset⟩ => s!" LIMIT {limit.toNat} OFFSET {offset.toNat}"
  | ⟨some limit, none⟩ => s!" LIMIT {limit.toNat}"
  | ⟨none, some offset⟩ => s!" LIMIT -1 OFFSET {offset.toNat}"
  | ⟨none, none⟩ => ""

/-- The bounds after a call: a limit sets one of them and a range sets both, if it is accepted. -/
def step (b : Bounds) : WindowCall → Bounds
  | .limit count =>
    if count > Violation.windowMax then b else { b with limit? := some count }
  | .range first last =>
    if last < first then b
    else if last - first < Violation.windowMax ∧ first ≤ Violation.windowMax then
      { limit? := some (last - first + 1), offset? := some first }
    else b

/-- There is no offset without a limit. -/
def Closed (b : Bounds) : Prop :=
  b.offset? ≠ none → b.limit? ≠ none

theorem Closed.step (h : b.Closed) (call : WindowCall) : (b.step call).Closed := by
  cases call with
  | limit count =>
    rw [Bounds.step]
    split
    · exact h
    · exact fun _ => Option.some_ne_none count
  | range first last =>
    rw [Bounds.step]
    split
    · exact h
    · split
      · exact fun _ => Option.some_ne_none (last - first + 1)
      · exact h

/-- Calls for a window never leave an offset without a limit, by induction on the calls. -/
theorem closed_foldl_step (calls : List WindowCall) : (calls.foldl step {}).Closed := by
  induction calls using List.reverseRecOn with
  | nil => exact fun h => absurd rfl h
  | append_singleton calls call ih =>
    rw [List.foldl_concat]
    exact ih.step call

theorem sql_eq (b : Bounds) :
    b.sql = windowText (b.limit?.map fun n => n.toNat) (b.offset?.map fun n => n.toNat) := by
  obtain ⟨_ | limit, _ | offset⟩ := b <;> rfl

end Bounds

/-! ### The window of a chain -/

namespace SelectChain

/-- The limit and the offset of the window of a chain. -/
def bounds (c : SelectChain) : Bounds where
  limit? := c.window?.map (·.limit)
  offset? := c.window?.bind (·.offset?)

/-- The text of a window is that of its bounds. -/
theorem sql_bounds (c : SelectChain) :
    (c.window?.map Window.sql).getD "" = c.bounds.sql := by
  unfold bounds
  cases c.window? with
  | none => rfl
  | some w =>
    obtain ⟨limit, _ | offset⟩ := w
    · exact String.append_empty
    · show " LIMIT " ++ toString limit.toNat ++ (" OFFSET " ++ toString offset.toNat) = _
      rw [← String.append_assoc]
      rfl

/-- A call for a window does to the bounds of a chain what it does to bounds. -/
theorem bounds_apply (c : SelectChain) (call : WindowCall) :
    (call.apply c).bounds = c.bounds.step call := by
  cases call with
  | limit count =>
    rw [WindowCall.apply, limit, Bounds.step]
    split
    · rfl
    · rfl
  | range first last =>
    rw [WindowCall.apply, range, Bounds.step]
    split
    · rfl
    · split
      · rfl
      · rfl

/-- The limit of a chain. -/
def limit? (c : SelectChain) : Option ℤ :=
  c.window?.map fun w => w.limit.toNat

/-- The offset of a chain. -/
def offset? (c : SelectChain) : Option ℤ :=
  (c.window?.bind (·.offset?)).map fun offset => offset.toNat

theorem sql_select_eq (columns : List Column) (table : Ident) (clause : Clause)
    (order : List (Ident × Direction)) (window? : Option Window) :
    (Query.select columns table clause order window?).sql =
      (Query.select columns table clause order none).sql ++ (window?.map Window.sql).getD "" := by
  show _ = ("SELECT " ++ Column.listSql columns ++ " FROM " ++ table.sql ++
    Query.clauseSql clause ++ Query.orderSql order ++ "") ++ _
  rw [String.append_empty]
  rfl

theorem windowText_eq (c : SelectChain) :
    (c.window?.map Window.sql).getD "" = windowText c.limit? c.offset? := by
  rw [sql_bounds, Bounds.sql_eq, bounds, Option.map_map]
  rfl

end SelectChain

namespace WindowCall

variable {c : SelectChain} {call : WindowCall} {message : String}

theorem toNat_windowMax : (Violation.windowMax.toNat : ℤ) = greatest := rfl

/-- A call that is refused leaves the window as it was. -/
theorem apply_of_refused (h : call.complaint? = some message) :
    ∃ v, v.text = message ∧ call.apply c = c.refuse v := by
  -- The complaint is about integers, the check is made on 64-bit words.
  cases call with
  | limit count =>
    rw [complaint?] at h
    split at h
    · next hlarge =>
      cases h
      refine ⟨.limitTooLarge count, rfl, if_pos ?_⟩
      rw [gt_iff_lt, UInt64.lt_iff_toNat_lt]
      rw [← toNat_windowMax] at hlarge
      omega
    · cases h
  | range first last =>
    rw [complaint?] at h
    split at h
    · next hreversed =>
      cases h
      refine ⟨.rangeReversed first last, rfl, if_pos ?_⟩
      rw [UInt64.lt_iff_toNat_lt]
      omega
    · next hreversed =>
      split at h
      · next hlarge =>
        cases h
        have hle : first ≤ last := by
          rw [UInt64.le_iff_toNat_le]
          omega
        refine ⟨.rangeTooLarge first last, rfl, ?_⟩
        rw [apply, SelectChain.range, if_neg (UInt64.not_lt.2 hle), if_neg]
        rw [UInt64.lt_iff_toNat_lt, UInt64.le_iff_toNat_le, UInt64.toNat_sub_of_le _ _ hle]
        rw [← toNat_windowMax] at hlarge
        omega
      · cases h

theorem complaint?_limit_eq_none_iff {count : UInt64} :
    (limit count).complaint? = none ↔ (count.toNat : ℤ) ≤ greatest := by
  rw [complaint?]
  split
  · next hlarge => simpa using hlarge
  · next hsmall => simpa using hsmall

theorem complaint?_range_eq_none_iff {first last : UInt64} :
    (range first last).complaint? = none ↔
      (first.toNat : ℤ) ≤ last.toNat ∧ (last.toNat : ℤ) - first.toNat + 1 ≤ greatest ∧
        (first.toNat : ℤ) ≤ greatest := by
  rw [complaint?]
  split
  · next hreversed =>
    constructor
    · intro h
      cases h
    · rintro ⟨hordered, -⟩
      omega
  · next hordered =>
    split
    · next hlarge =>
      constructor
      · intro h
        cases h
      · rintro ⟨-, hcount, hfirst⟩
        omega
    · next hsmall =>
      refine iff_of_true rfl ?_
      omega

/-- A call that is accepted sets the limit; a range sets the offset too, and a limit leaves it. -/
theorem apply_of_accepted (h : call.complaint? = none) :
    (call.apply c).refused? = c.refused? ∧ (call.apply c).limit? = some call.count ∧
      (call.apply c).offset? = call.start?.or c.offset? := by
  cases call with
  | limit count =>
    have haccepted : ¬ count > Violation.windowMax := by
      rw [complaint?_limit_eq_none_iff, ← toNat_windowMax] at h
      rw [gt_iff_lt, UInt64.lt_iff_toNat_lt]
      omega
    rw [apply, SelectChain.limit, if_neg haccepted]
    exact ⟨rfl, rfl, rfl⟩
  | range first last =>
    rw [complaint?_range_eq_none_iff, ← toNat_windowMax] at h
    have hle : first ≤ last := by
      rw [UInt64.le_iff_toNat_le]
      omega
    have hspan : (last - first).toNat = last.toNat - first.toNat :=
      UInt64.toNat_sub_of_le _ _ hle
    have haccepted : last - first < Violation.windowMax ∧ first ≤ Violation.windowMax := by
      rw [UInt64.lt_iff_toNat_lt, UInt64.le_iff_toNat_le, hspan]
      omega
    -- the sum is at most the greatest number with a sign, so it stays far from wrapping
    have hcount : ((last - first + 1).toNat : ℤ) = last.toNat - first.toNat + 1 := by
      have hmax : Violation.windowMax.toNat = 2 ^ 63 - 1 := rfl
      have hone : (1 : UInt64).toNat = 1 := rfl
      rw [UInt64.toNat_add, hspan, hone]
      omega
    rw [apply, SelectChain.range, if_neg (UInt64.not_lt.2 hle), if_pos haccepted]
    exact ⟨rfl, congrArg some hcount, rfl⟩

/-- What is asked for in a call that is accepted is a number that an engine takes. -/
theorem bounds_of_accepted (h : call.complaint? = none) :
    (0 ≤ call.count ∧ call.count ≤ greatest) ∧
      ∀ start ∈ call.start?, 0 ≤ start ∧ start ≤ greatest := by
  cases call with
  | limit count =>
    refine ⟨⟨Int.natCast_nonneg _, complaint?_limit_eq_none_iff.1 h⟩, ?_⟩
    intro start hstart
    cases hstart
  | range first last =>
    obtain ⟨hordered, hcount, hfirst⟩ := complaint?_range_eq_none_iff.1 h
    refine ⟨⟨?_, hcount⟩, ?_⟩
    · rw [count]
      omega
    · intro start hstart
      cases hstart
      exact ⟨Int.natCast_nonneg _, hfirst⟩

end WindowCall

/-! ### What a chain remembers of some calls -/

/-- The chain has the window that the calls asked for, and remembers the first that was refused. -/
structure Windowed (calls : List WindowCall) (c : SelectChain) : Prop where
  refused : c.refused?.map Violation.text = calls.findSome? WindowCall.complaint?
  limit : c.limit? = WindowCall.lastCount? (WindowCall.accepted calls)
  offset : c.offset? = WindowCall.lastStart? (WindowCall.accepted calls)

namespace Windowed

variable {calls : List WindowCall} {c : SelectChain}

theorem selectFrom (table columns : String) : Windowed [] (Chain.selectFrom table columns) :=
  ⟨rfl, rfl, rfl⟩

/-- One more call for a window. -/
theorem window (h : Windowed calls c) (call : WindowCall) :
    Windowed (calls ++ [call]) (call.apply c) := by
  -- A refused call leaves the window and at most adds the first complaint; another sets the window.
  cases hcomplaint : call.complaint? with
  | some message =>
    obtain ⟨v, rfl, happly⟩ := WindowCall.apply_of_refused (c := c) hcomplaint
    have haccepted : WindowCall.accepted (calls ++ [call]) = WindowCall.accepted calls ++ [] := by
      simp [WindowCall.accepted, hcomplaint]
    rw [happly]
    refine ⟨?_, ?_, ?_⟩
    · rw [List.findSome?_append, ← h.refused, List.findSome?_singleton, hcomplaint]
      show (c.refused? <|> some v).map Violation.text = _
      cases c.refused? <;> rfl
    · show c.limit? = _
      rw [h.limit, haccepted, List.append_nil]
    · show c.offset? = _
      rw [h.offset, haccepted, List.append_nil]
  | none =>
    obtain ⟨hrefused, hlimit, hoffset⟩ := WindowCall.apply_of_accepted (c := c) hcomplaint
    have haccepted :
        WindowCall.accepted (calls ++ [call]) = WindowCall.accepted calls ++ [call] := by
      simp [WindowCall.accepted, hcomplaint]
    refine ⟨?_, ?_, ?_⟩
    · rw [hrefused, h.refused, List.findSome?_append, List.findSome?_singleton, hcomplaint,
        Option.or_none]
    · rw [hlimit, haccepted, WindowCall.lastCount?, List.map_append, List.map_singleton,
        List.getLast?_concat]
    · rw [hoffset, h.offset, haccepted, WindowCall.lastStart?, WindowCall.lastStart?,
        List.filterMap_append, List.getLast?_append]
      cases hstart : call.start? <;> simp [hstart]

end Windowed

/-! ### All calls on a select -/

/-- A call on a select. -/
inductive SelectCall where
  | filter (call : FilterCall)
  | orderBy (column : String) (direction : Direction)
  | window (call : WindowCall)

namespace SelectCall

/-- The chain after the call. -/
def apply (c : SelectChain) : SelectCall → SelectChain
  | .filter call => call.apply c
  | .orderBy column direction => c.orderBy column direction
  | .window call => call.apply c

/-- The call for a window that a call is. -/
def window? : SelectCall → Option WindowCall
  | .window call => some call
  | _ => none

/-- The calls for a window among some calls. -/
def windows (calls : List SelectCall) : List WindowCall :=
  calls.filterMap window?

/-- All other calls among some calls. -/
def others (calls : List SelectCall) : List SelectCall :=
  calls.filter fun call => call.window?.isNone

theorem windows_concat (calls : List SelectCall) (call : SelectCall) :
    windows (calls ++ [call]) = windows calls ++ call.window?.toList := by
  rw [windows, List.filterMap_append]
  cases hwindow : call.window? <;> simp [windows, hwindow]

end SelectCall

namespace SelectChain

/-- The select of some columns of a table after some calls. -/
def after (table columns : String) (calls : List SelectCall) : SelectChain :=
  calls.foldl SelectCall.apply (Chain.selectFrom table columns)

theorem after_concat (table columns : String) (calls : List SelectCall) (call : SelectCall) :
    after table columns (calls ++ [call]) = call.apply (after table columns calls) := by
  rw [after, List.foldl_concat]
  rfl

/-- **Windows after some calls**, by induction on the calls. -/
theorem windowed_after (table columns : String) (calls : List SelectCall) :
    Windowed (SelectCall.windows calls) (after table columns calls) := by
  induction calls using List.reverseRecOn with
  | nil => exact .selectFrom table columns
  | append_singleton calls call ih =>
    rw [after_concat, SelectCall.windows_concat]
    -- Filters and orders leave the window as it is.
    cases call with
    | filter call =>
      rw [SelectCall.apply, FilterCall.apply_eq]
      obtain ⟨hrefused, hlimit, hoffset⟩ := ih
      simp only [SelectCall.window?, Option.toList_none, List.append_nil]
      exact ⟨hrefused, hlimit, hoffset⟩
    | orderBy column direction =>
      obtain ⟨hrefused, hlimit, hoffset⟩ := ih
      simp only [SelectCall.window?, Option.toList_none, List.append_nil]
      exact ⟨hrefused, hlimit, hoffset⟩
    | window call => exact ih.window call

/-- Only the calls for a window set the bounds of a chain. -/
theorem bounds_after (table columns : String) (calls : List SelectCall) :
    (after table columns calls).bounds = (SelectCall.windows calls).foldl Bounds.step {} := by
  induction calls using List.reverseRecOn with
  | nil => rfl
  | append_singleton calls call ih =>
    rw [after_concat, SelectCall.windows_concat, List.foldl_append, ← ih]
    cases call with
    | filter call =>
      rw [SelectCall.apply, FilterCall.apply_eq]
      rfl
    | orderBy column direction => rfl
    | window call => exact bounds_apply _ call

/-- **Limits and offsets apart.**  In the statement of a select its window reads as a limit and an
offset do that are set by its calls, each in a field of its own; and none of the calls leaves an
offset without a limit. -/
theorem window_sql_after (table columns : String) (calls : List SelectCall) :
    ((after table columns calls).window?.map Window.sql).getD "" =
        ((SelectCall.windows calls).foldl Bounds.step {}).sql ∧
      ((SelectCall.windows calls).foldl Bounds.step {}).Closed := by
  rw [sql_bounds, bounds_after]
  exact ⟨rfl, Bounds.closed_foldl_step _⟩

/-- The chain is another one with another window. -/
inductive Beside : SelectChain → SelectChain → Prop
  | mk (bare : SelectChain) (window? : Option Window) (refused? : Option Violation) :
      Beside { bare with window?, refused? } bare

/-- A call for a window leaves all else alone. -/
theorem Beside.window {c bare : SelectChain} (h : c.Beside bare) (call : WindowCall) :
    (call.apply c).Beside bare := by
  cases h with
  | mk =>
    cases call with
    | limit count =>
      rw [WindowCall.apply, limit]
      split
      · exact .mk bare _ _
      · exact .mk bare _ _
    | range first last =>
      rw [WindowCall.apply, range]
      split
      · exact .mk bare _ _
      · split
        · exact .mk bare _ _
        · exact .mk bare _ _

/-- All other calls do to a chain with a window what they do to one without. -/
theorem beside_after (table columns : String) (calls : List SelectCall) :
    (after table columns calls).Beside (after table columns (SelectCall.others calls)) := by
  induction calls using List.reverseRecOn with
  | nil => exact .mk (Chain.selectFrom table columns) none none
  | append_singleton calls call ih =>
    rw [SelectCall.others, List.filter_append, ← SelectCall.others, after_concat]
    generalize after table columns calls = c at ih
    -- A window call is left out on the right; any other call does not touch the window.
    cases call with
    | filter call =>
      have hother : [SelectCall.filter call].filter (·.window?.isNone) = [.filter call] := rfl
      rw [hother, after_concat, SelectCall.apply, SelectCall.apply, FilterCall.apply_eq,
        FilterCall.apply_eq]
      generalize after table columns (SelectCall.others calls) = bare at ih
      cases ih with
      | mk _ window? refused? =>
        exact .mk (Filterable.modifyFilters (·.add call) bare) window? refused?
    | orderBy column direction =>
      have hother : [SelectCall.orderBy column direction].filter (·.window?.isNone) =
          [.orderBy column direction] := rfl
      rw [hother, after_concat]
      generalize after table columns (SelectCall.others calls) = bare at ih
      cases ih with
      | mk _ window? refused? => exact .mk (bare.orderBy column direction) window? refused?
    | window call =>
      have hother : [SelectCall.window call].filter (·.window?.isNone) = [] := rfl
      rw [hother, List.append_nil]
      exact ih.window call

theorem Beside.table_eq {c bare : SelectChain} (h : c.Beside bare) : c.table = bare.table := by
  cases h
  rfl

theorem Beside.single {c bare : SelectChain} (h : c.Beside bare) : c.single.Beside bare := by
  cases h
  exact .mk bare _ _

theorem table_after (table columns : String) (calls : List SelectCall) :
    (after table columns calls).table = table := by
  induction calls using List.reverseRecOn with
  | nil => rfl
  | append_singleton calls call ih =>
    rw [after_concat]
    generalize after table columns calls = c at ih
    cases call with
    | filter call =>
      rw [SelectCall.apply, FilterCall.apply_eq]
      exact ih
    | orderBy column direction => exact ih
    | window call => exact ((Beside.mk c c.window? c.refused?).window call).table_eq.trans ih

/-- A chain without calls for a window has none. -/
theorem window?_after_others (table columns : String) (calls : List SelectCall) :
    (after table columns (SelectCall.others calls)).window? = none := by
  have hnone : SelectCall.windows (SelectCall.others calls) = [] := by
    rw [SelectCall.windows, List.filterMap_eq_nil_iff]
    intro call hcall
    exact Option.isNone_iff_eq_none.1 (List.mem_filter.1 hcall).2
  have hlimit := (windowed_after table columns (SelectCall.others calls)).limit
  rw [hnone] at hlimit
  exact Option.map_eq_none_iff.1 hlimit

section

variable {client : Client} {c bare : SelectChain} {sql : String} {params : List Value}

/-- Beside a chain without a window, a chain adds its window to the statement. -/
theorem toSql_of_beside (h : c.Beside bare) (hrefused : c.refused? = none)
    (hbare : bare.window? = none) (hsql : bare.toSql client = .ok (sql, params)) :
    c.toSql client = .ok (sql ++ windowText c.limit? c.offset?, params) := by
  obtain ⟨hvalid, query, projection, hcompile, rfl, rfl⟩ := toSql_eq_ok_iff.1 hsql
  obtain ⟨clause, ident, order, hprojection, hclause, htable, horder, rfl⟩ :=
    compile_eq_ok_iff.1 hcompile
  have hvalid' : c.validate = .ok () := by
    rw [validate_eq_ok_iff] at hvalid ⊢
    cases h
    exact ⟨hrefused, hvalid.2⟩
  have hcompile' : c.compile client =
      .ok (.select projection.columns ident clause order c.window?, projection) := by
    cases h
    exact compile_eq_ok_iff.2 ⟨clause, ident, order, hprojection, hclause, htable, horder, rfl⟩
  refine toSql_eq_ok_iff.2 ⟨hvalid', _, _, hcompile', ?_, rfl⟩
  rw [← windowText_eq c, hbare]
  exact (sql_select_eq _ _ _ _ _).symm

variable {es : List Exchange}

/-- A chain of which a call was refused reports that, whether it is run for all its rows or for a
single one. -/
theorem course_of_refused {v : Violation} (h : c.refused? = some v) :
    (∀ response, ((Chain.select c).execute client).Course es response ↔
      es = [] ∧ response = .failed (.validation v)) ∧
    ∀ response, ((Chain.select c).executeSingle client).Course es response ↔
      es = [] ∧ response = .failed (.validation v) := by
  have hrun : ∀ {d : SelectChain}, d.refused? = some v → ∀ {es r},
      (d.run client).Course es r ↔ es = [] ∧ r = .error (.validation v) := by
    intro d hd es r
    refine course_run_of_validate_error ?_
    rw [validate, hd]
    rfl
  -- A chain for a single row still refuses what was refused.
  constructor
  · intro response
    exact course_execute_of_run (hrun h)
  · intro response
    rw [Chain.course_executeSingle_iff]
    constructor
    · rintro ⟨r, hsingle, rfl⟩
      obtain ⟨hnil, rfl⟩ := (hrun (d := c.single) h).1 hsingle
      exact ⟨hnil, rfl⟩
    · rintro ⟨hnil, rfl⟩
      exact ⟨_, (hrun (d := c.single) h).2 ⟨hnil, rfl⟩, rfl⟩

/-- A chain sends the statement that it tells before anything else. -/
theorem begins_of_toSql {table : String} {r : Except Error (List Row)}
    (h : c.toSql client = .ok (sql, params)) (htable : c.table = table)
    (hrun : (c.run client).Course es r) :
    ∃ reply later, es = ⟨⟨some ("select " ++ table), sql, params⟩, reply⟩ :: later := by
  subst htable
  obtain ⟨hvalid, query, projection, hcompile, rfl, rfl⟩ := toSql_eq_ok_iff.1 h
  obtain ⟨e, hes, -⟩ | ⟨rows, later, hes, -⟩ := (course_run_of_compile hvalid hcompile).1 hrun
  · exact ⟨.error e, [], hes⟩
  · exact ⟨.ok rows, later, hes⟩

end

/-! ### Exact arithmetic -/

/-- The difference of two numbers, unless it is below zero. -/
def difference? (a b : UInt64) : Option UInt64 :=
  if b.toNat ≤ a.toNat then some (a - b) else none

/-- The sum of two numbers, unless it does not fit. -/
def sum? (a b : UInt64) : Option UInt64 :=
  if a.toNat + b.toNat < UInt64.size then some (a + b) else none

/-- Wants the rows from one place to another, unless a number leaves its range on the way. -/
def rangeExact? (c : SelectChain) (first last : UInt64) : Option SelectChain :=
  if last < first then return c.refuse (.rangeReversed first last)
  else do
    let span ← difference? last first
    if span < Violation.windowMax ∧ first ≤ Violation.windowMax then
      let count ← sum? span 1
      return { c with window? := some { limit := count, offset? := some first } }
    else return c.refuse (.rangeTooLarge first last)

/-- No number leaves its range. -/
theorem rangeExact?_eq (c : SelectChain) (first last : UInt64) :
    c.rangeExact? first last = some (c.range first last) := by
  rw [rangeExact?, range]
  split
  · rfl
  · next hordered =>
    have hdifference : difference? last first = some (last - first) :=
      if_pos (UInt64.le_iff_toNat_le.1 (UInt64.not_lt.1 hordered))
    rw [hdifference, Option.bind_eq_bind, Option.bind_some]
    split
    · next hsmall =>
      -- The span is below `2 ^ 63 - 1`, so one more still fits into 64 bits.
      have hsum : sum? (last - first) 1 = some (last - first + 1) := by
        have hmax : Violation.windowMax.toNat = 2 ^ 63 - 1 := rfl
        have hone : (1 : UInt64).toNat = 1 := rfl
        have hsize : UInt64.size = 2 ^ 64 := rfl
        have hspan := UInt64.lt_iff_toNat_lt.1 hsmall.1
        refine if_pos ?_
        omega
      rw [hsum]
      rfl
    · rfl

/-! ### The law -/

/-- **Windows are exact.**  Let a select be valid but for its window, and let its calls for a window
be any.  If one of them is refused, nothing is sent, and the first refusal is reported.  Otherwise
the statement is that of the select without a window, and after it come the number of rows that was
asked for last, which is one if the chain is run for a single row, and the number of rows to be
passed over that was asked for last.  Both are numbers that an engine takes, there is no second
number without a first, and no number leaves its 64 bits. -/
theorem windowed {client : Client} {table columns sql : String} {params : List Value}
    {calls : List SelectCall}
    (hvalid : (after table columns (SelectCall.others calls)).toSql client = .ok (sql, params)) :
    (∀ message, (SelectCall.windows calls).findSome? WindowCall.complaint? = some message →
      ∃ v, (Error.validation v).message = "Validation error: " ++ message ∧
        ∀ es,
          (∀ response,
            ((Chain.select (after table columns calls)).execute client).Course es response ↔
              es = [] ∧ response = .failed (.validation v)) ∧
          ∀ response,
            ((Chain.select (after table columns calls)).executeSingle client).Course es response ↔
              es = [] ∧ response = .failed (.validation v)) ∧
    ((∀ call ∈ SelectCall.windows calls, call.complaint? = none) →
      (∀ es response,
        ((Chain.select (after table columns calls)).execute client).Course es response →
        ∃ reply later, es = ⟨⟨some ("select " ++ table), sql ++
          windowText (WindowCall.lastCount? (SelectCall.windows calls))
            (WindowCall.lastStart? (SelectCall.windows calls)), params⟩, reply⟩ :: later) ∧
      (∀ es response,
        ((Chain.select (after table columns calls)).executeSingle client).Course es response →
        ∃ reply later, es = ⟨⟨some ("select " ++ table), sql ++
          windowText (some 1) (WindowCall.lastStart? (SelectCall.windows calls)), params⟩,
          reply⟩ :: later) ∧
      (∀ n ∈ WindowCall.lastCount? (SelectCall.windows calls),
        0 ≤ n ∧ n ≤ WindowCall.greatest) ∧
      (∀ n ∈ WindowCall.lastStart? (SelectCall.windows calls),
        0 ≤ n ∧ n ≤ WindowCall.greatest) ∧
      (WindowCall.lastStart? (SelectCall.windows calls) ≠ none →
        WindowCall.lastCount? (SelectCall.windows calls) ≠ none)) ∧
    ∀ (c : SelectChain) first last, c.rangeExact? first last = some (c.range first last) := by
  obtain ⟨hrefused, hlimit, hoffset⟩ := windowed_after table columns calls
  refine ⟨fun message hmessage => ?_, fun haccepted => ?_, rangeExact?_eq⟩
  · rw [hmessage] at hrefused
    obtain ⟨v, hv, rfl⟩ := Option.map_eq_some_iff.1 hrefused
    exact ⟨v, rfl, fun es => course_of_refused hv⟩
  -- No call is refused, so the accepted calls are all of them.
  · have hall : WindowCall.accepted (SelectCall.windows calls) = SelectCall.windows calls :=
      List.filter_eq_self.2 fun call hcall => Option.isNone_iff_eq_none.2 (haccepted call hcall)
    have hnone : (after table columns calls).refused? = none := by
      rw [List.findSome?_eq_none_iff.2 haccepted] at hrefused
      exact Option.map_eq_none_iff.1 hrefused
    have hbeside := beside_after table columns calls
    have htable := table_after table columns calls
    -- Besides its window the chain is that of the other calls, whose statement is known.
    have htell : ∀ {c : SelectChain}, c.Beside (after table columns (SelectCall.others calls)) →
        c.refused? = none → c.toSql client = .ok (sql ++ windowText c.limit? c.offset?, params) :=
      fun h hc => toSql_of_beside h hc (window?_after_others table columns calls) hvalid
    rw [hall] at hlimit hoffset
    refine ⟨fun es response hexecute => ?_, fun es response hsingle => ?_, fun n hn => ?_,
      fun n hn => ?_, WindowCall.lastCount?_ne_none⟩
    · obtain ⟨r, hrun, -⟩ := Chain.course_execute_iff.1 hexecute
      rw [← hlimit, ← hoffset]
      exact begins_of_toSql (htell hbeside hnone) htable hrun
    · obtain ⟨r, hrun, -⟩ := Chain.course_executeSingle_iff.1 hsingle
      rw [← hoffset]
      exact begins_of_toSql (c := (after table columns calls).single)
        (htell hbeside.single hnone) htable hrun
    · obtain ⟨call, hcall, rfl⟩ := List.mem_map.1 (List.mem_of_getLast? hn)
      exact (WindowCall.bounds_of_accepted (haccepted call hcall)).1
    · obtain ⟨call, hcall, hstart⟩ := List.mem_filterMap.1 (List.mem_of_getLast? hn)
      exact (WindowCall.bounds_of_accepted (haccepted call hcall)).2 n hstart

/-- Some calls, of which the first limit is taken back and the offset of the range stays. -/
def pagingCalls : List SelectCall :=
  [.window (.limit 5), .orderBy "id" .asc, .window (.range 10 19), .window (.limit 3)]

/-- Some calls of which two are refused. -/
def reversedCalls : List SelectCall :=
  [.orderBy "id" .asc, .window (.range 9 3), .window (.limit 9223372036854775808)]

/-- The invoices from the eleventh on, and a range that ends before it starts. -/
theorem windowed_invoices :
    (after "invoices" "id" (SelectCall.others pagingCalls)).toSql {} =
        .ok ("SELECT id FROM invoices ORDER BY id ASC", []) ∧
      (∀ es response,
        ((Chain.select (after "invoices" "id" pagingCalls)).execute {}).Course es response →
        ∃ reply later, es = ⟨⟨some "select invoices",
          "SELECT id FROM invoices ORDER BY id ASC LIMIT 3 OFFSET 10", []⟩, reply⟩ :: later) ∧
      ∃ v, (Error.validation v).message =
          "Validation error: range(9, 3): end precedes start" ∧
        ((Chain.select (after "invoices" "id" reversedCalls)).execute {}).Course []
          (.failed (.validation v)) := by
  have hpaging : (after "invoices" "id" (SelectCall.others pagingCalls)).toSql {} =
      .ok ("SELECT id FROM invoices ORDER BY id ASC", []) := rfl
  have hreversed : (after "invoices" "id" (SelectCall.others reversedCalls)).toSql {} =
      .ok ("SELECT id FROM invoices ORDER BY id ASC", []) := hpaging
  have haccepted : ∀ call ∈ SelectCall.windows pagingCalls, call.complaint? = none := by decide
  obtain ⟨v, hv, hrefused⟩ := (windowed hreversed).1 "range(9, 3): end precedes start" (by decide)
  refine ⟨hpaging, ?_, v, hv, ((hrefused []).1 _).2 ⟨rfl, rfl⟩⟩
  exact ((windowed hpaging).2.1 haccepted).1

end SelectChain

end Graft
