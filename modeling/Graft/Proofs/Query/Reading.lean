/-
Graft/Proofs/Query/Reading.lean

How an engine reads a statement: with its values put in.

An engine goes through the text from left to right.  A double quote opens or
closes a region; a question mark outside of such regions takes the next value,
and one inside is a letter like any other (`fill`).  Reading fails if a region
stays open, if a value is missing or if one is left over, so it succeeds only
where text and values agree.

The main statement is `Query.reads`: the statement of every query reads as its
`tokens`, in which each value stands where the query has it.  `Reads` is stated
for a text in front of any other, so that it passes from the parts of a text to
the whole; for the texts without values it is `Quiet`.  A name is quiet though
it may hold question marks, as these are between its quotes.
-/
import Graft.Proofs.Ident.Grammar
import Graft.Proofs.Query.Wording

namespace Graft

/-! ### Reading -/

/-- What an engine reads: a letter of the statement or a value. -/
inductive Token where
  | char (c : Char)
  | value (v : Value)

/-- A text, letter by letter. -/
def lit (s : String) : List Token :=
  s.toList.map .char

/-- A place that was taken by a value. -/
def slot (v : Value) : List Token :=
  [.value v]

/-- Reads a statement from some place on, within double quotes or not, with the values that are
left by then. -/
def fill (inside : Bool) : List Char → List Value → Option (List Token)
  | [], values => if inside || !values.isEmpty then none else some []
  | c :: rest, values =>
    if c = '?' ∧ inside = false then
      match values with
      | [] => none
      | v :: values => (fill false rest values).map (.value v :: ·)
    else (fill (if c = '"' then !inside else inside) rest values).map (.char c :: ·)

theorem fill_mark (v : Value) (rest : List Char) (values : List Value) :
    fill false ('?' :: rest) (v :: values) = (fill false rest values).map (.value v :: ·) := by
  rw [fill.eq_def]
  rfl

theorem fill_char {inside : Bool} {c : Char} (h : ¬(c = '?' ∧ inside = false)) (rest : List Char)
    (values : List Value) :
    fill inside (c :: rest) values =
      (fill (if c = '"' then !inside else inside) rest values).map (.char c :: ·) := by
  rw [fill.eq_def]
  exact if_neg h

/-- The number of question marks outside double quotes. -/
def marks (inside : Bool) : List Char → Nat
  | [] => 0
  | c :: rest =>
    if c = '?' ∧ inside = false then marks false rest + 1
    else marks (if c = '"' then !inside else inside) rest

/-- A statement that can be read has a question mark for each value. -/
theorem marks_eq_of_fill {inside : Bool} {s : List Char} {values : List Value} {ts : List Token}
    (h : fill inside s values = some ts) : marks inside s = values.length := by
  induction s generalizing inside values ts with
  | nil =>
    rw [fill] at h
    split at h
    · cases h
    · next hend =>
      rw [Bool.or_eq_true, not_or] at hend
      have hvalues : values = [] := by simpa using hend.2
      rw [hvalues]
      rfl
  | cons c rest ih =>
    rw [marks]
    -- A mark outside quotes takes one value, any other character takes none.
    by_cases hmark : c = '?' ∧ inside = false
    · rw [if_pos hmark]
      obtain ⟨rfl, rfl⟩ := hmark
      cases values with
      | nil => cases h
      | cons v values =>
        rw [fill_mark] at h
        obtain ⟨ts', hts', -⟩ := Option.map_eq_some_iff.1 h
        rw [ih hts', List.length_cons]
    · rw [if_neg hmark]
      rw [fill_char hmark] at h
      obtain ⟨ts', hts', -⟩ := Option.map_eq_some_iff.1 h
      exact ih hts'

/-! ### Reading part by part -/

/-- `Reads s values ts`: in front of any text, and before any further values, `s` takes `values` and
reads as `ts`. -/
def Reads (s : String) (values : List Value) (ts : List Token) : Prop :=
  ∀ rest more, fill false (s.toList ++ rest) (values ++ more) =
    (fill false rest more).map (ts ++ ·)

/-- A text that takes no values and reads as it stands. -/
def Quiet (s : String) : Prop :=
  Reads s [] (lit s)

theorem Reads.fill_eq {s : String} {values : List Value} {ts : List Token}
    (h : Reads s values ts) : fill false s.toList values = some ts := by
  have hnil := h [] []
  rw [List.append_nil, List.append_nil] at hnil
  rw [hnil]
  simp [fill]

theorem Reads.append {s t : String} {vs ws : List Value} {ts us : List Token}
    (hs : Reads s vs ts) (ht : Reads t ws us) : Reads (s ++ t) (vs ++ ws) (ts ++ us) := by
  intro rest more
  rw [String.toList_append, List.append_assoc, List.append_assoc, hs, ht, Option.map_map]
  congr 1
  funext later
  exact (List.append_assoc ts us later).symm

theorem reads_empty : Reads "" [] [] := by
  intro rest more
  show fill false rest more = _
  simp

/-- A question mark takes one value. -/
theorem reads_mark (v : Value) : Reads "?" [v] (slot v) := by
  intro rest more
  exact fill_mark v rest more

@[simp] theorem lit_append (s t : String) : lit (s ++ t) = lit s ++ lit t := by
  rw [lit, lit, lit, String.toList_append, List.map_append]

theorem Quiet.append {s t : String} (hs : Quiet s) (ht : Quiet t) : Quiet (s ++ t) := by
  rw [Quiet, lit_append]
  exact Reads.append hs ht

theorem Quiet.append_reads {s t : String} {ws : List Value} {us : List Token}
    (hs : Quiet s) (ht : Reads t ws us) : Reads (s ++ t) ws (lit s ++ us) :=
  Reads.append hs ht

theorem Reads.append_quiet {s t : String} {vs : List Value} {ts : List Token}
    (hs : Reads s vs ts) (ht : Quiet t) : Reads (s ++ t) vs (ts ++ lit t) := by
  have h := Reads.append hs ht
  rwa [List.append_nil] at h

/-- Texts with a quiet one between them are read one after the other. -/
theorem Reads.intercalate {α : Type} {sep : String} (hsep : Quiet sep) {xs : List α}
    {s : α → String} {v : α → List Value} {t : α → List Token}
    (h : ∀ x ∈ xs, Reads (s x) (v x) (t x)) :
    Reads (sep.intercalate (xs.map s)) (xs.flatMap v) ((lit sep).intercalate (xs.map t)) := by
  induction xs with
  | nil => exact reads_empty
  | cons x rest ih =>
    have hx := h x List.mem_cons_self
    have hrest := ih fun y hy => h y (List.mem_cons_of_mem _ hy)
    cases rest with
    | nil =>
      simp only [List.map_cons, List.map_nil, String.intercalate_singleton,
        List.intercalate_singleton, List.flatMap_cons, List.flatMap_nil, List.append_nil]
      exact hx
    | cons y rest =>
      simp only [List.map_cons, String.intercalate_cons_cons, List.intercalate_cons_cons]
      rw [List.flatMap_cons]
      exact (hx.append_quiet hsep).append hrest

/-! ### Quiet texts -/

/-- No question mark and no double quote. -/
def IsPlain (s : List Char) : Prop :=
  ∀ c ∈ s, c ≠ '?' ∧ c ≠ '"'

theorem fill_plain {s : List Char} (h : IsPlain s) (rest : List Char) (values : List Value) :
    fill false (s ++ rest) values = (fill false rest values).map (s.map .char ++ ·) := by
  induction s with
  | nil => simp
  | cons c s ih =>
    obtain ⟨hmark, hquote⟩ := h c List.mem_cons_self
    rw [List.cons_append, fill_char (fun hc => hmark hc.1), if_neg hquote,
      ih fun d hd => h d (List.mem_cons_of_mem _ hd), Option.map_map]
    rfl

theorem quiet_of_isPlain {s : String} (h : IsPlain s.toList) : Quiet s :=
  fun rest more => fill_plain h rest more

/-- The same by computation, for texts that are written out. -/
theorem quiet_of_all {s : String} (h : (s.toList.all fun c => c != '?' && c != '"') = true) :
    Quiet s := by
  apply quiet_of_isPlain
  intro c hc
  have hplain := List.all_eq_true.1 h c hc
  simpa using hplain

/-! ### Names -/

theorem Part.isPlain_of_isBare {s : List Char} (h : IsBare s) : IsPlain s := by
  intro c hc
  have htail := isTail_of_isBare h c hc
  constructor
  · rintro rfl
    exact absurd htail (by decide)
  · rintro rfl
    exact absurd htail (by decide)

/-- Doubled double quotes do not end a quoted region, and question marks in it take no values. -/
theorem fill_doubleQuotes (text rest : List Char) (values : List Value) :
    fill true (Part.doubleQuotes text ++ '"' :: rest) values =
      (fill false rest values).map ((Part.doubleQuotes text ++ ['"']).map .char ++ ·) := by
  induction text with
  | nil =>
    rw [Part.doubleQuotes, List.nil_append, fill_char (by simp)]
    rfl
  | cons c text ih =>
    rw [Part.doubleQuotes]
    split
    · next hc =>
      -- the region is closed and opened again
      rw [List.cons_append, List.cons_append, fill_char (by simp), fill_char (by simp)]
      simp only [if_true, Bool.not_true, Bool.not_false]
      rw [ih, Option.map_map, Option.map_map]
      rfl
    · next hc =>
      rw [List.cons_append, fill_char (by simp), if_neg hc, ih, Option.map_map]
      rfl

theorem fill_part {p : Part} (h : p.WellFormed) (rest : List Char) (values : List Value) :
    fill false (p.chars ++ rest) values = (fill false rest values).map (p.chars.map .char ++ ·) := by
  cases p with
  | bare text => exact fill_plain (Part.isPlain_of_isBare h) rest values
  | quoted text =>
    rw [Part.chars, List.cons_append, fill_char (by simp), if_pos rfl, List.append_assoc]
    show (fill true (Part.doubleQuotes text.toList ++ '"' :: rest) values).map _ = _
    rw [fill_doubleQuotes, Option.map_map]
    rfl

theorem fill_parts {ps : List Part} (h : ∀ p ∈ ps, p.WellFormed) (rest : List Char)
    (values : List Value) :
    fill false (['.'].intercalate (ps.map Part.chars) ++ rest) values =
      (fill false rest values).map ((['.'].intercalate (ps.map Part.chars)).map .char ++ ·) := by
  induction ps with
  | nil => simp
  | cons p ps ih =>
    have hp := h p List.mem_cons_self
    have ih := ih fun q hq => h q (List.mem_cons_of_mem _ hq)
    cases ps with
    | nil =>
      simp only [List.map_cons, List.map_nil, List.intercalate_singleton]
      exact fill_part hp rest values
    | cons q ps =>
      have hdot : IsPlain ['.'] := by simp [IsPlain]
      simp only [List.map_cons, List.intercalate_cons_cons, List.append_assoc] at ih ⊢
      rw [fill_part hp, fill_plain hdot, ih, Option.map_map, Option.map_map]
      congr 1
      funext later
      simp

/-- A name takes no values, whatever is between its quotes. -/
theorem Ident.quiet (i : Ident) : Quiet i.sql := by
  intro rest more
  rw [lit, sql, String.toList_ofList]
  exact fill_parts i.wellFormed rest more

/-! ### Parts of statements -/

/-- Words and names are quiet, as question marks and double quotes are in names only. -/
theorem wording_quiet : Wording Quiet where
  word {s} h := by
    refine quiet_of_isPlain fun c hc => ?_
    have hword := List.all_eq_true.1 h c hc
    constructor
    · rintro rfl
      exact absurd hword (by decide)
    · rintro rfl
      exact absurd hword (by decide)
  name i := i.quiet
  append hs ht := hs.append ht

theorem quiet_comma : Quiet ", " :=
  wording_quiet.word rfl

theorem Conflict.quiet (c : Conflict) : Quiet c.sql :=
  wording_quiet.conflict (quiet_of_all rfl) (quiet_of_all rfl) c

/-! ### Statements with their values -/

/-- A conjunct with its values. -/
def Conjunct.tokens : Conjunct → List Token
  | .nullity column isNull => lit (column.sql ++ if isNull then " IS NULL" else " IS NOT NULL")
  | .member column negated first rest =>
    lit (column.sql ++ if negated then " NOT IN (" else " IN (") ++
      (lit ", ").intercalate ((first :: rest).map slot) ++ lit ")"
  | .anything => lit "1 = 1"
  | .compare column op v => lit (column.sql ++ " " ++ op.sql ++ " ") ++ slot v
  | .negatedCompare column op v =>
    lit ("NOT (" ++ column.sql ++ " " ++ op.sql ++ " ") ++ slot v ++ lit ")"
  | .notLike column v => lit (column.sql ++ " NOT LIKE ") ++ slot v

/-- A clause with its values, and the keyword before it. -/
def Clause.tokens (c : Clause) : List Token :=
  if c.isEmpty then [] else lit " WHERE " ++ (lit " AND ").intercalate (c.map Conjunct.tokens)

/-- The values of a row in parentheses. -/
def tupleTokens (row : List Value) : List Token :=
  lit "(" ++ (lit ", ").intercalate (row.map slot) ++ lit ")"

/-- An assignment of a value to the column with the given name. -/
def assignmentTokens (name : String) (v : Value) : List Token :=
  lit (name ++ " = ") ++ slot v

/-- A statement with its values. -/
def Query.tokens : Query → List Token
  | .select columns table clause order window? =>
    lit ("SELECT " ++ Column.listSql columns ++ " FROM " ++ table.sql) ++ clause.tokens ++
      lit (orderSql order ++ (window?.map Window.sql).getD "")
  | .insert table columns rows conflict? returning =>
    lit ("INSERT INTO " ++ table.sql ++ " (" ++ ", ".intercalate (columns.map Ident.sql) ++
        ") VALUES ") ++
      (lit ", ").intercalate (rows.map tupleTokens) ++
      lit ((conflict?.map Conflict.sql).getD "" ++ returningSql returning)
  | .update table assignments clause returning =>
    lit ("UPDATE " ++ table.sql ++ " SET ") ++
      (lit ", ").intercalate (assignments.map fun a => assignmentTokens a.1.sql a.2) ++
      clause.tokens ++ lit (returningSql returning)
  | .delete table clause returning? =>
    lit ("DELETE FROM " ++ table.sql) ++ clause.tokens ++
      lit ((returning?.map returningSql).getD "")

/-- Question marks with commas between them take one value each. -/
theorem reads_marks (values : List Value) :
    Reads (", ".intercalate (values.map fun _ => "?")) values
      ((lit ", ").intercalate (values.map slot)) := by
  have h : Reads (", ".intercalate (values.map fun _ => "?")) (values.flatMap fun v => [v])
      ((lit ", ").intercalate (values.map slot)) :=
    Reads.intercalate quiet_comma fun v _ => reads_mark v
  rwa [List.flatMap_singleton'] at h

theorem Conjunct.reads (c : Conjunct) : Reads c.sql c.params c.tokens := by
  have hspace : Quiet " " := quiet_of_all rfl
  have hclose : Quiet ")" := quiet_of_all rfl
  -- The texts are regrouped so that every mark is read on its own.
  cases c with
  | nullity column isNull =>
    have hnull : Quiet (if isNull then " IS NULL" else " IS NOT NULL") := by
      cases isNull <;> exact quiet_of_all rfl
    rw [sql, params, tokens]
    exact column.quiet.append hnull
  | member column negated first rest =>
    have hopen : Quiet (if negated then " NOT IN (" else " IN (") := by
      cases negated <;> exact quiet_of_all rfl
    have hmarks := reads_marks (first :: rest)
    rw [List.map_cons] at hmarks
    rw [sql, params, tokens]
    exact ((column.quiet.append hopen).append_reads hmarks).append_quiet hclose
  | anything =>
    rw [sql, params, tokens]
    exact quiet_of_all rfl
  | compare column op v =>
    have hmark : " ?" = " " ++ "?" := rfl
    rw [sql, params, tokens, hmark, ← String.append_assoc]
    exact (((column.quiet.append hspace).append (wording_quiet.operator op)).append
      hspace).append_reads (reads_mark v)
  | negatedCompare column op v =>
    have hnot : Quiet "NOT (" := quiet_of_all rfl
    have hmark : " ?)" = " " ++ ("?" ++ ")") := rfl
    rw [sql, params, tokens, hmark, ← String.append_assoc, ← String.append_assoc]
    exact ((((hnot.append column.quiet).append hspace).append (wording_quiet.operator op)).append
      hspace).append_reads (reads_mark v) |>.append_quiet hclose
  | notLike column v =>
    have hlike : Quiet " NOT LIKE " := quiet_of_all rfl
    have hmark : " NOT LIKE ?" = " NOT LIKE " ++ "?" := rfl
    rw [sql, params, tokens, hmark, ← String.append_assoc]
    exact (column.quiet.append hlike).append_reads (reads_mark v)

theorem Clause.reads (c : Clause) : Reads (Query.clauseSql c) c.params c.tokens := by
  have hwhere : Quiet " WHERE " := quiet_of_all rfl
  have hand : Quiet " AND " := quiet_of_all rfl
  have hspace : " " ++ "WHERE " = " WHERE " := rfl
  rw [Query.clauseSql, tokens, sql]
  split
  · next hempty =>
    rw [List.isEmpty_iff.1 hempty]
    exact reads_empty
  · rw [← String.append_assoc, hspace]
    exact hwhere.append_reads (Reads.intercalate hand fun conjunct _ => conjunct.reads)

theorem reads_tupleSql (row : List Value) : Reads (Query.tupleSql row) row (tupleTokens row) := by
  have hopen : Quiet "(" := quiet_of_all rfl
  have hclose : Quiet ")" := quiet_of_all rfl
  exact (hopen.append_reads (reads_marks row)).append_quiet hclose

/-- **Statements read as their queries.**  The statement of a query can be read with the values of
the query, and each value is read where the query has it. -/
theorem Query.reads (q : Query) : Reads q.sql q.params q.tokens := by
  -- Each statement is a quiet head, the parts that take values, and a quiet tail.
  cases q with
  | select columns table clause order window? =>
    have hselect : Quiet "SELECT " := quiet_of_all rfl
    have hfrom : Quiet " FROM " := quiet_of_all rfl
    have hhead := ((hselect.append (wording_quiet.columns columns)).append hfrom).append table.quiet
    have htail := (wording_quiet.order order).append
      (wording_quiet.optional wording_quiet.window window?)
    have hsql : (select columns table clause order window?).sql =
        "SELECT " ++ Column.listSql columns ++ " FROM " ++ table.sql ++ clauseSql clause ++
          (orderSql order ++ (window?.map Window.sql).getD "") := String.append_assoc ..
    rw [hsql]
    exact (hhead.append_reads clause.reads).append_quiet htail
  | insert table columns rows conflict? returning =>
    have hinsert : Quiet "INSERT INTO " := quiet_of_all rfl
    have hopen : Quiet " (" := quiet_of_all rfl
    have hvalues : Quiet ") VALUES " := quiet_of_all rfl
    have hcolumns : Quiet (", ".intercalate (columns.map Ident.sql)) :=
      wording_quiet.commas fun i _ => i.quiet
    have hhead := (((hinsert.append table.quiet).append hopen).append hcolumns).append hvalues
    have htail := (wording_quiet.optional Conflict.quiet conflict?).append
      (wording_quiet.returning returning)
    have hrows : Reads (", ".intercalate (rows.map tupleSql)) rows.flatten
        ((lit ", ").intercalate (rows.map tupleTokens)) := by
      rw [← List.flatMap_id]
      exact Reads.intercalate quiet_comma fun row _ => reads_tupleSql row
    have hsql : (insert table columns rows conflict? returning).sql =
        "INSERT INTO " ++ table.sql ++ " (" ++ ", ".intercalate (columns.map Ident.sql) ++
          ") VALUES " ++ ", ".intercalate (rows.map tupleSql) ++
          ((conflict?.map Conflict.sql).getD "" ++ returningSql returning) :=
      String.append_assoc ..
    rw [hsql]
    exact (hhead.append_reads hrows).append_quiet htail
  | update table assignments clause returning =>
    have hupdate : Quiet "UPDATE " := quiet_of_all rfl
    have hset : Quiet " SET " := quiet_of_all rfl
    have hequals : Quiet " = " := quiet_of_all rfl
    have hhead := (hupdate.append table.quiet).append hset
    have hassignments : Reads (", ".intercalate (assignments.map fun a => a.1.sql ++ " = ?"))
        (assignments.map (·.2))
        ((lit ", ").intercalate (assignments.map fun a => assignmentTokens a.1.sql a.2)) := by
      have hmark : " = ?" = " = " ++ "?" := rfl
      have hvalues : assignments.map (·.2) = assignments.flatMap fun a => [a.2] :=
        List.map_eq_flatMap
      rw [hvalues]
      refine Reads.intercalate quiet_comma ?_
      intro a _
      rw [hmark, ← String.append_assoc]
      exact (a.1.quiet.append hequals).append_reads (reads_mark a.2)
    have hsql : (update table assignments clause returning).sql =
        "UPDATE " ++ table.sql ++ " SET " ++
          ", ".intercalate (assignments.map fun a => a.1.sql ++ " = ?") ++
          clauseSql clause ++ returningSql returning := rfl
    rw [hsql]
    exact ((hhead.append_reads hassignments).append clause.reads).append_quiet
      (wording_quiet.returning returning)
  | delete table clause returning? =>
    have hdelete : Quiet "DELETE FROM " := quiet_of_all rfl
    have hhead := hdelete.append table.quiet
    have hsql : (delete table clause returning?).sql =
        "DELETE FROM " ++ table.sql ++ clauseSql clause ++
          (returning?.map returningSql).getD "" := rfl
    rw [hsql]
    exact (hhead.append_reads clause.reads).append_quiet
      (wording_quiet.optional wording_quiet.returning returning?)

end Graft
