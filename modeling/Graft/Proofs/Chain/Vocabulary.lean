/-
Graft/Proofs/Chain/Vocabulary.lean

What a chain's statements are written with.

Tables, columns and keys are arbitrary strings, and they end up in the text of
statements.  Whatever they are, they cannot end the statement that they stand
in, nor begin another one or a comment: outside double quotes there are only
characters of the vocabulary (`isVocabulary`), and every double quote that is
opened is closed again.

`outside?` reads off what stands outside double quotes.  A text is `Clean` if
that is vocabulary.  The texts of queries are `Woven`: put together from words
of the vocabulary and from the parts of identifiers, and in no other way
(`Query.woven`).  A part is clean because it is well-formed (`Part.clean`), and
so is all that is woven (`Woven.clean`).
-/
import Graft.Proofs.Chain.Sending
import Graft.Proofs.Ident.Grammar
import Graft.Proofs.Query.Wording

namespace Graft

/-! ### The vocabulary -/

/-- The characters that statements are written with, if they are not between double quotes. -/
def isVocabulary (c : Char) : Bool :=
  c.isAlphanum || [' ', '_', '$', '.', ',', '(', ')', '?', '=', '!', '<', '>', '*'].contains c

/-! ### Clean texts -/

/-- Vocabulary outside double quotes, all double quotes closed, and no NUL anywhere. -/
def Clean (s : String) : Prop :=
  (∃ out, outside? false s.toList = some out ∧ ∀ c ∈ out, isVocabulary c = true) ∧
    '\x00' ∉ s.toList

theorem Clean.append {s t : String} (hs : Clean s) (ht : Clean t) : Clean (s ++ t) := by
  obtain ⟨⟨out₁, h₁, hout₁⟩, hnul₁⟩ := hs
  obtain ⟨⟨out₂, h₂, hout₂⟩, hnul₂⟩ := ht
  rw [Clean, String.toList_append, outside?_append h₁, h₂]
  refine ⟨⟨out₁ ++ out₂, rfl, fun c hc => ?_⟩, fun hc => ?_⟩
  · rcases List.mem_append.1 hc with hc | hc
    · exact hout₁ c hc
    · exact hout₂ c hc
  · rcases List.mem_append.1 hc with hc | hc
    · exact hnul₁ hc
    · exact hnul₂ hc

theorem outside?_of_vocabulary {s : List Char} (h : ∀ c ∈ s, isVocabulary c = true) :
    outside? false s = some s :=
  outside?_of_not_mem fun hquote => absurd (h _ hquote) (by decide)

theorem clean_of_vocabulary {s : String} (h : ∀ c ∈ s.toList, isVocabulary c = true) :
    Clean s :=
  ⟨⟨s.toList, outside?_of_vocabulary h, h⟩, fun hc => absurd (h _ hc) (by decide)⟩

/-! ### Parts of names -/

theorem Part.isVocabulary_of_isTail {c : Char} (h : isTail c = true) : isVocabulary c = true := by
  simp only [isTail, isVocabulary, Bool.or_eq_true, beq_iff_eq] at h ⊢
  rcases h with (rfl | rfl) | h
  · exact .inr (by decide)
  · exact .inr (by decide)
  · exact .inl h

theorem Part.clean {p : Part} (h : p.WellFormed) : Clean (String.ofList p.chars) := by
  cases p with
  | bare text =>
    refine clean_of_vocabulary fun c hc => ?_
    rw [String.toList_ofList] at hc
    exact isVocabulary_of_isTail (isTail_of_isBare h c hc)
  | quoted text =>
    obtain ⟨-, hnul⟩ := h
    rw [Clean, String.toList_ofList, chars]
    refine ⟨⟨[], ?_, fun c hc => (List.not_mem_nil hc).elim⟩, ?_⟩
    · rw [outside?_quote, Bool.not_false, outside?_doubleQuotes]
      rfl
    · simp [mem_doubleQuotes_iff, hnul]

/-! ### Woven texts -/

/-- Texts put together from words of the vocabulary and from parts of names. -/
inductive Woven : String → Prop
  | word {s : String} (h : s.toList.all isVocabulary = true) : Woven s
  | part {p : Part} (h : p.WellFormed) : Woven (String.ofList p.chars)
  | append {s t : String} (hs : Woven s) (ht : Woven t) : Woven (s ++ t)

theorem Woven.clean {s : String} (h : Woven s) : Clean s := by
  induction h with
  | word h => exact clean_of_vocabulary (List.all_eq_true.1 h)
  | part h => exact Part.clean h
  | append _ _ hs ht => exact hs.append ht

theorem isVocabulary_of_isWordChar {c : Char} (h : isWordChar c = true) :
    isVocabulary c = true := by
  have hsigns : [' ', ',', '.', '*', '=', '!', '<', '>'] ⊆
      [' ', '_', '$', '.', ',', '(', ')', '?', '=', '!', '<', '>', '*'] := by decide
  simp only [isWordChar, isVocabulary, Bool.or_eq_true, List.contains_iff_mem] at h ⊢
  exact h.imp_right fun hsign => hsigns hsign

theorem Ident.woven (i : Ident) : Woven i.sql := by
  have hdot : Woven "." := .word rfl
  have hsql : i.sql = ".".intercalate (i.parts.map fun p => String.ofList p.chars) := by
    rw [← String.toList_inj, sql, String.toList_ofList, String.toList_intercalate, List.map_map]
    have htoList : (String.toList ∘ fun p : Part => String.ofList p.chars) = Part.chars :=
      funext fun _ => String.toList_ofList
    rw [htoList]
    rfl
  rw [hsql]
  exact intercalate_of_append (.word rfl) .append hdot fun p hp => .part (i.wellFormed p hp)

/-- Words and names are woven, as the words are of the vocabulary. -/
theorem wording_woven : Wording Woven where
  word {s} h := by
    refine .word (List.all_eq_true.2 fun c hc => ?_)
    exact isVocabulary_of_isWordChar (List.all_eq_true.1 h c hc)
  name i := i.woven
  append hs ht := hs.append ht

theorem Conflict.woven (c : Conflict) : Woven c.sql :=
  wording_woven.conflict (.word rfl) (.word rfl) c

/-- A question mark for each of some things. -/
theorem woven_marks {α : Type} (xs : List α) :
    Woven (", ".intercalate (xs.map fun _ => "?")) :=
  wording_woven.commas fun _ _ => .word rfl

theorem Conjunct.woven (c : Conjunct) : Woven c.sql := by
  have hspace : Woven " " := .word rfl
  have hclose : Woven ")" := .word rfl
  -- Each part of the text is a fixed word or the text of a name.
  cases c with
  | nullity column isNull =>
    have hnull : Woven (if isNull then " IS NULL" else " IS NOT NULL") := by
      cases isNull <;> exact .word rfl
    exact column.woven.append hnull
  | member column negated first rest =>
    have hopen : Woven (if negated then " NOT IN (" else " IN (") := by
      cases negated <;> exact .word rfl
    exact ((column.woven.append hopen).append (woven_marks (first :: rest))).append hclose
  | anything => exact .word rfl
  | compare column op v =>
    have hmark : Woven " ?" := .word rfl
    exact ((column.woven.append hspace).append (wording_woven.operator op)).append hmark
  | negatedCompare column op v =>
    have hnot : Woven "NOT (" := .word rfl
    have hmark : Woven " ?)" := .word rfl
    exact (((hnot.append column.woven).append hspace).append
      (wording_woven.operator op)).append hmark
  | notLike column v =>
    have hlike : Woven " NOT LIKE ?" := .word rfl
    exact column.woven.append hlike

theorem woven_clauseSql (c : Clause) : Woven (Query.clauseSql c) := by
  have hspace : Woven " " := .word rfl
  have hwhere : Woven "WHERE " := .word rfl
  have hand : Woven " AND " := .word rfl
  rw [Query.clauseSql, Clause.sql]
  split
  · exact .word rfl
  · exact hspace.append (hwhere.append
      (wording_woven.intercalate hand fun conjunct _ => conjunct.woven))

/-- **Queries are woven.**  The statement of a query is put together from words of the vocabulary
and from the parts of its identifiers. -/
theorem Query.woven (q : Query) : Woven q.sql := by
  cases q with
  | select columns table clause order window? =>
    have hselect : Woven "SELECT " := .word rfl
    have hfrom : Woven " FROM " := .word rfl
    exact (((((hselect.append (wording_woven.columns columns)).append hfrom).append
      table.woven).append (woven_clauseSql clause)).append (wording_woven.order order)).append
      (wording_woven.optional wording_woven.window window?)
  | insert table columns rows conflict? returning =>
    have hinsert : Woven "INSERT INTO " := .word rfl
    have hopen : Woven " (" := .word rfl
    have hvalues : Woven ") VALUES " := .word rfl
    have htuple : ∀ row ∈ rows, Woven (tupleSql row) := by
      intro row _
      have hopen : Woven "(" := .word rfl
      have hclose : Woven ")" := .word rfl
      exact (hopen.append (woven_marks row)).append hclose
    exact ((((((hinsert.append table.woven).append hopen).append
      (wording_woven.commas fun i _ => i.woven)).append hvalues).append
      (wording_woven.commas htuple)).append
      (wording_woven.optional Conflict.woven conflict?)).append
      (wording_woven.returning returning)
  | update table assignments clause returning =>
    have hupdate : Woven "UPDATE " := .word rfl
    have hset : Woven " SET " := .word rfl
    have hmark : Woven " = ?" := .word rfl
    exact ((((hupdate.append table.woven).append hset).append
      (wording_woven.commas fun a _ => a.1.woven.append hmark)).append
      (woven_clauseSql clause)).append (wording_woven.returning returning)
  | delete table clause returning? =>
    have hdelete : Woven "DELETE FROM " := .word rfl
    exact ((hdelete.append table.woven).append (woven_clauseSql clause)).append
      (wording_woven.optional wording_woven.returning returning?)

/-! ### Statements of chains -/

/-- A lookup is a query. -/
theorem Embed.IsLookup.clean {st : Statement} (h : IsLookup st) : Clean st.sql := by
  obtain ⟨p, table, keys, hkeys, rfl⟩ := h
  obtain ⟨first, rest, rfl⟩ := List.exists_cons_of_ne_nil hkeys
  rw [← p.statement_query]
  exact (Query.woven _).clean

/-- **No name gets out of its place.**  Whatever strings a chain and its client are made of, and
whatever the replies, each statement that is sent has as many double quotes opened as closed;
outside of them there are only characters of the vocabulary, and so no semicolon, single quote,
hyphen or slash; and there is no NUL anywhere. -/
theorem Chain.statements_clean {client : Client} {c : Chain} {es : List Exchange}
    {error? : Option Error} (h : c.Ends client es error?) :
    ∀ x ∈ es, x.statement.sql.toList.count '"' % 2 = 0 ∧
      (∃ out, outside? false x.statement.sql.toList = some out ∧
        (∀ ch ∈ out, isVocabulary ch = true) ∧ ∀ ch ∈ [';', '\x27', '-', '/'], ch ∉ out) ∧
      '\x00' ∉ x.statement.sql.toList := by
  -- The first statement is that of the plan's query, every later one is a lookup.
  have hclean : ∀ x ∈ es, Clean x.statement.sql := by
    by_cases hes : es = []
    · subst hes
      intro x hx
      cases hx
    · obtain ⟨c', plan, -, -, ⟨e, rfl, -⟩ | ⟨rows, later, r, rfl, hfinish, -⟩⟩ :=
        (ends_sends_iff hes).1 h
      · intro x hx
        rw [List.mem_singleton.1 hx]
        exact plan.query.woven.clean
      · intro x hx
        rcases List.mem_cons.1 hx with rfl | hx
        · exact plan.query.woven.clean
        · exact (Plan.isLookup_of_course_finish hfinish x hx).clean
  intro x hx
  obtain ⟨⟨out, hout, hvocabulary⟩, hnul⟩ := hclean x hx
  refine ⟨count_quote_of_outside? hout, ⟨out, hout, hvocabulary, fun ch hch hmem => ?_⟩, hnul⟩
  have hnone : ([';', '\x27', '-', '/'].all fun ch => !isVocabulary ch) = true := rfl
  have hforbidden := List.all_eq_true.1 hnone ch hch
  rw [hvocabulary ch hmem] at hforbidden
  cases hforbidden

/-- A delete whose table is named like a statement, and whose filter is on a column with a double
quote and the beginning of a comment in its name. -/
def deleteOddTable : DeleteChain :=
  { table := "\"drafts; DROP TABLE invoices\""
    filters := { conditions := [
      { column := "drafts.\"a\"\"/*b\"", operator := .eq, value := .str "7" }] } }

/-- Its statement. -/
def deleteOddStatement : Statement where
  tag? := some "delete \"drafts; DROP TABLE invoices\""
  sql := "DELETE FROM \"drafts; DROP TABLE invoices\" WHERE drafts.\"a\"\"/*b\" = ?"
  params := [.str "7"]

/-- The semicolon and the comment are between double quotes, and not outside of them. -/
theorem Chain.statements_clean_deleteOddTable :
    (Chain.delete deleteOddTable).Ends {} [⟨deleteOddStatement, .ok []⟩] none ∧
      outside? false deleteOddStatement.sql.toList = some "DELETE FROM  WHERE drafts. = ?".toList ∧
      ∃ out, outside? false deleteOddStatement.sql.toList = some out ∧ ';' ∉ out ∧ '/' ∉ out := by
  have hends : (Chain.delete deleteOddTable).Ends {} [⟨deleteOddStatement, .ok []⟩] none :=
    .all (Dialogue.course_run Executor.scripted (fun _ => "")
      ((Chain.delete deleteOddTable).execute {}) { engine := {} })
  obtain ⟨-, ⟨out, hout, -, hforbidden⟩, -⟩ :=
    Chain.statements_clean hends _ List.mem_cons_self
  exact ⟨hends, rfl, out, hout, hforbidden ';' (by decide), hforbidden '/' (by decide)⟩

end Graft
