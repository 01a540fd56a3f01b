/-
Graft/Proofs/Query/Parentheses.lean

Between the parentheses of a statement there is always something.

A membership test in the empty list would be written as a parenthesis that is
closed where it was opened.  The outline of a text is what stands outside
double quotes, the spaces left out; a text is `Filled` if in its outline no
closing parenthesis comes right after an opening one.  This passes on to what is
put together from filled texts, because none of them begins with a closing
parenthesis or ends in an opening one, and parentheses come in pairs around a
text whose outline is not empty (`Filled.parenthesized`).

Every select, update and delete is filled (`Query.filled`).  An insert need not
be: its column list is in parentheses, and a quoted name has no outline.
-/
import Graft.Proofs.Ident.Grammar
import Graft.Proofs.Query.Wording
import Mathlib.Data.List.Chain

namespace Graft

/-! ### Outlines -/

/-- What stands outside double quotes in a text, without the spaces; none if a double quote stays
open. -/
def outline? (s : String) : Option (List Char) :=
  (outside? false s.toList).map (·.filter (· ≠ ' '))

theorem outline?_append {s t : String} {a b : List Char} (hs : outline? s = some a)
    (ht : outline? t = some b) : outline? (s ++ t) = some (a ++ b) := by
  obtain ⟨out₁, h₁, rfl⟩ := Option.map_eq_some_iff.1 hs
  obtain ⟨out₂, h₂, rfl⟩ := Option.map_eq_some_iff.1 ht
  rw [outline?, String.toList_append, outside?_append h₁, h₂, Option.map_some, Option.map_some,
    List.filter_append]

theorem outline?_of_not_mem {s : String} (h : '"' ∉ s.toList) :
    outline? s = some (s.toList.filter (· ≠ ' ')) := by
  rw [outline?, outside?_of_not_mem h]
  rfl

/-! ### Filled texts -/

/-- Something stands between the two characters, if they are a pair of parentheses. -/
def Apart (c d : Char) : Prop :=
  ¬(c = '(' ∧ d = ')')

/-- An outline in which something stands between any two parentheses, also if it is put between
other such outlines. -/
structure FilledOutline (out : List Char) : Prop where
  apart : out.IsChain Apart
  head : out.head? ≠ some ')'
  last : out.getLast? ≠ some '('

/-- A text in whose outline something stands between any two parentheses. -/
def Filled (s : String) : Prop :=
  ∃ out, outline? s = some out ∧ FilledOutline out

namespace FilledOutline

variable {a b : List Char}

theorem append (ha : FilledOutline a) (hb : FilledOutline b) : FilledOutline (a ++ b) where
  apart := by
    refine ha.apart.append hb.apart ?_
    rintro c hc d hd ⟨rfl, rfl⟩
    exact ha.last hc
  head := by
    rw [List.head?_append]
    intro h
    rcases Option.or_eq_some_iff.1 h with h | ⟨-, h⟩
    · exact ha.head h
    · exact hb.head h
  last := by
    rw [List.getLast?_append]
    intro h
    rcases Option.or_eq_some_iff.1 h with h | ⟨-, h⟩
    · exact hb.last h
    · exact ha.last h

/-- Parentheses around something. -/
theorem parenthesized (h : FilledOutline a) (hne : a ≠ []) :
    FilledOutline ('(' :: (a ++ [')'])) where
  apart := by
    refine List.isChain_cons.2 ⟨?_, h.apart.append (List.isChain_singleton _) ?_⟩
    · rintro c hc ⟨-, rfl⟩
      rw [List.head?_append_of_ne_nil _ hne] at hc
      exact h.head hc
    · rintro c hc d - ⟨rfl, -⟩
      exact h.last hc
  head := by simp
  last := by
    rw [← List.cons_append, List.getLast?_concat]
    simp

theorem of_not_mem (hopen : '(' ∉ a) (hclose : ')' ∉ a) : FilledOutline a where
  apart := by
    induction a with
    | nil => exact List.isChain_nil
    | cons c a ih =>
      obtain ⟨hc, hrest⟩ := List.ne_and_not_mem_of_not_mem_cons hopen
      refine List.isChain_cons.2 ⟨?_, ih hrest fun h => hclose (List.mem_cons_of_mem _ h)⟩
      rintro d - ⟨rfl, -⟩
      exact hc rfl
  head hhead := hclose (List.mem_of_mem_head? hhead)
  last hlast := hopen (List.mem_of_getLast? hlast)

theorem not_infix (h : FilledOutline a) : ¬['(', ')'] <:+: a := by
  intro hinfix
  have hpair : ['(', ')'].IsChain Apart := h.apart.infix hinfix
  exact (List.isChain_cons.1 hpair).1 ')' rfl ⟨rfl, rfl⟩

end FilledOutline

namespace Filled

theorem append {s t : String} (hs : Filled s) (ht : Filled t) : Filled (s ++ t) := by
  obtain ⟨a, ha, hfilled⟩ := hs
  obtain ⟨b, hb, hfilled'⟩ := ht
  exact ⟨a ++ b, outline?_append ha hb, hfilled.append hfilled'⟩

/-- A text with a question mark may stand in parentheses. -/
theorem parenthesized {before s t : String} (hbefore : Filled before) (hs : Filled s)
    (ht : Filled t) : Filled (before ++ ("(" ++ (s ++ "?" ++ t) ++ ")")) := by
  obtain ⟨a, ha, hfilled⟩ := hs
  obtain ⟨b, hb, hfilled'⟩ := ht
  have hmark : FilledOutline ['?'] := .of_not_mem (by decide) (by decide)
  have hinner : outline? (s ++ "?" ++ t) = some (a ++ ['?'] ++ b) :=
    outline?_append (outline?_append ha rfl) hb
  have hopen : outline? "(" = some ['('] := rfl
  have hclose : outline? ")" = some [')'] := rfl
  refine hbefore.append ⟨_, outline?_append (outline?_append hopen hinner) hclose, ?_⟩
  exact ((hfilled.append hmark).append hfilled').parenthesized (by simp)

theorem of_all {s : String}
    (h : (s.toList.all fun c => c != '"' && c != '(' && c != ')') = true) : Filled s := by
  have hall : ∀ c ∈ s.toList, c ≠ '"' ∧ c ≠ '(' ∧ c ≠ ')' := by
    intro c hc
    simpa [and_assoc] using List.all_eq_true.1 h c hc
  refine ⟨_, outline?_of_not_mem fun hc => (hall _ hc).1 rfl, .of_not_mem ?_ ?_⟩
  · exact fun hc => (hall _ (List.mem_of_mem_filter hc)).2.1 rfl
  · exact fun hc => (hall _ (List.mem_of_mem_filter hc)).2.2 rfl

end Filled

theorem Ident.filled (i : Ident) : Filled i.sql := by
  obtain ⟨out, hout, hchars⟩ := i.exists_outside?
  have hparenthesis : ∀ c : Char, Part.isTail c = false → c ≠ '.' →
      c ∉ out.filter (· ≠ ' ') := by
    intro c htail hdot hc
    rcases hchars c (List.mem_of_mem_filter hc) with h | h
    · rw [htail] at h
      cases h
    · exact hdot h
  refine ⟨out.filter (· ≠ ' '), ?_, .of_not_mem (hparenthesis '(' rfl (by decide))
    (hparenthesis ')' rfl (by decide))⟩
  rw [outline?, sql, String.toList_ofList, hout]
  rfl

/-- Words and names are filled, as there are no parentheses in them outside double quotes. -/
theorem wording_filled : Wording Filled where
  word {s} h := by
    refine Filled.of_all (List.all_eq_true.2 fun c hc => ?_)
    have hword := List.all_eq_true.1 h c hc
    have hother : ∀ d : Char, isWordChar d = false → c ≠ d := by
      rintro d hd rfl
      rw [hword] at hd
      cases hd
    simp [hother '"' rfl, hother '(' rfl, hother ')' rfl]
  name i := i.filled
  append hs ht := hs.append ht

/-! ### Statements -/

/-- A membership test has a question mark for its first value. -/
theorem Conjunct.filled (c : Conjunct) : Filled c.sql := by
  have hspace : Filled " " := .of_all rfl
  cases c with
  | nullity column isNull =>
    have hnull : Filled (if isNull then " IS NULL" else " IS NOT NULL") := by
      cases isNull <;> exact .of_all rfl
    exact column.filled.append hnull
  | member column negated first rest =>
    -- The first mark of the list is what stands between the parentheses.
    have hmarks : ∃ more, Filled more ∧
        ", ".intercalate ("?" :: rest.map fun _ => "?") = "" ++ "?" ++ more := by
      cases rest with
      | nil => exact ⟨"", .of_all rfl, rfl⟩
      | cons second rest =>
        have hcommas : Filled (", ".intercalate ((second :: rest).map fun _ => "?")) :=
          wording_filled.commas fun _ _ => .of_all rfl
        have hcomma : Filled ", " := .of_all rfl
        refine ⟨_, hcomma.append hcommas, ?_⟩
        rw [List.map_cons, String.intercalate_cons_cons, String.append_assoc]
        rfl
    obtain ⟨more, hmore, hmarks⟩ := hmarks
    have hin : Filled (if negated then " NOT IN " else " IN ") := by
      cases negated <;> exact .of_all rfl
    have hopen : (if negated then " NOT IN (" else " IN (") =
        (if negated then " NOT IN " else " IN ") ++ "(" := by
      cases negated <;> rfl
    have hsql : (member column negated first rest).sql =
        column.sql ++ (if negated then " NOT IN " else " IN ") ++
          ("(" ++ ("" ++ "?" ++ more) ++ ")") := by
      simp only [sql, hopen, hmarks, String.append_assoc]
    rw [hsql]
    exact .parenthesized (column.filled.append hin) (.of_all rfl) hmore
  | anything => exact .of_all rfl
  | compare column op v =>
    have hmark : Filled " ?" := .of_all rfl
    exact ((column.filled.append hspace).append (wording_filled.operator op)).append hmark
  | negatedCompare column op v =>
    have hnot : Filled "NOT " := .of_all rfl
    have hinner := ((column.filled.append hspace).append (wording_filled.operator op)).append hspace
    have hopen : "NOT (" = "NOT " ++ "(" := rfl
    have hclose : " ?)" = " " ++ "?" ++ "" ++ ")" := rfl
    have hsql : (negatedCompare column op v).sql =
        "NOT " ++ ("(" ++ (column.sql ++ " " ++ op.sql ++ " " ++ "?" ++ "") ++ ")") := by
      simp only [sql, hopen, hclose, String.append_assoc]
    rw [hsql]
    exact .parenthesized hnot hinner (.of_all rfl)
  | notLike column v =>
    have hlike : Filled " NOT LIKE ?" := .of_all rfl
    exact column.filled.append hlike

theorem Query.filled_clauseSql (c : Clause) : Filled (clauseSql c) := by
  have hspace : Filled " " := .of_all rfl
  have hwhere : Filled "WHERE " := .of_all rfl
  have hand : Filled " AND " := .of_all rfl
  rw [clauseSql, Clause.sql]
  split
  · exact .of_all rfl
  · exact hspace.append (hwhere.append
      (wording_filled.intercalate hand fun conjunct _ => conjunct.filled))

/-- The clause of a query; an insert has none. -/
def Query.clause? : Query → Option Clause
  | .select _ _ clause _ _ => some clause
  | .insert _ _ _ _ _ => none
  | .update _ _ clause _ => some clause
  | .delete _ clause _ => some clause

/-- **Every list in parentheses has something in it**, in each query that takes a clause. -/
theorem Query.filled {q : Query} {clause : Clause} (h : q.clause? = some clause) :
    Filled q.sql := by
  cases q with
  | select columns table clause order window? =>
    have hselect : Filled "SELECT " := .of_all rfl
    have hfrom : Filled " FROM " := .of_all rfl
    exact (((((hselect.append (wording_filled.columns columns)).append hfrom).append
      table.filled).append (filled_clauseSql clause)).append (wording_filled.order order)).append
      (wording_filled.optional wording_filled.window window?)
  | insert table columns rows conflict? returning => cases h
  | update table assignments clause returning =>
    have hupdate : Filled "UPDATE " := .of_all rfl
    have hset : Filled " SET " := .of_all rfl
    have hmark : Filled " = ?" := .of_all rfl
    exact ((((hupdate.append table.filled).append hset).append
      (wording_filled.commas fun a _ => a.1.filled.append hmark)).append
      (filled_clauseSql clause)).append (wording_filled.returning returning)
  | delete table clause returning? =>
    have hdelete : Filled "DELETE FROM " := .of_all rfl
    exact ((hdelete.append table.filled).append (filled_clauseSql clause)).append
      (wording_filled.optional wording_filled.returning returning?)

end Graft
