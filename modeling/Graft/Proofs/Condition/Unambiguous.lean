/-
Graft/Proofs/Condition/Unambiguous.lean

Different filters never make up the same clause.

A clause falls into conjuncts in one way only, and each conjunct tells the
filter that it was made of (`Conjunct.States`), up to what makes no difference
to a statement (`Condition.SameFilter`): patterns are matched in one way,
whether or not the case of letters was to be heeded; a test for null does not
show the value that it was made with; and what every row satisfies does not
show its column.

The names of the columns do no harm, as each is one word: neither one that is a
word of the clause itself, such as `NOT`, nor one with something that looks like
a condition between its double quotes.
-/
import Graft.Proofs.Condition.Words

namespace Graft

/-! ### Operators -/

/-- The operator, whether or not it ignores the case of letters. -/
def Operator.upToCase : Operator → Operator
  | .ilike => .like
  | op => op

theorem Operator.ofName?_sql (op : Operator) :
    ofName? (normalize op.sql) = some op.upToCase := by
  cases op <;> rfl

theorem Operator.sql_upToCase (op : Operator) : op.upToCase.sql = op.sql := by
  cases op <;> rfl

theorem Operator.sql_eq_iff {op op' : Operator} :
    op.sql = op'.sql ↔ op.upToCase = op'.upToCase := by
  constructor
  · intro h
    rw [← Option.some_inj, ← ofName?_sql, ← ofName?_sql, h]
  · intro h
    rw [← sql_upToCase, ← sql_upToCase op', h]

theorem Operator.upToCase_eq_self {op : Operator} (h : op.upToCase ≠ .like) : op.upToCase = op := by
  cases op with
  | ilike => exact absurd rfl h
  | _ => rfl

theorem Operator.eq_of_upToCase_eq {op op' : Operator} (h : op.upToCase = op'.upToCase)
    (hlike : op.upToCase ≠ .like) : op = op' := by
  rw [← upToCase_eq_self hlike, h, upToCase_eq_self (h ▸ hlike)]

/-! ### What a conjunct says -/

/-- What a condition on a column says, if this is its conjunct. -/
def Conjunct.States (c : Condition) (column : Ident) : Conjunct → Prop
  | .nullity column' isNull =>
    column' = column ∧ c.operator = .nullity ∧ isNull = (c.value.isNull != c.negated)
  | .member column' negated first rest =>
    column' = column ∧ c.operator = .oneOf ∧ c.negated = negated ∧ c.value = .arr (first :: rest)
  | .anything => c.operator = .oneOf ∧ c.negated = true ∧ c.value = .arr []
  | .compare column' op v =>
    column' = column ∧ c.operator = op ∧ op ≠ .nullity ∧ op ≠ .oneOf ∧ c.negated = false ∧
      c.value = v
  | .negatedCompare column' op v =>
    column' = column ∧ c.operator = op ∧ op ≠ .nullity ∧ op ≠ .oneOf ∧ op.upToCase ≠ .like ∧
      c.negated = true ∧ c.value = v
  | .notLike column' v =>
    column' = column ∧ c.operator.upToCase = .like ∧ c.negated = true ∧ c.value = v

namespace Condition

theorem states_of_conjunctOn {c : Condition} {column : Ident} {j : Conjunct}
    (h : c.conjunctOn column = .ok j) : j.States c column := by
  obtain ⟨name, op, value, negated⟩ := c
  -- Split as `conjunctOn` does: nullity, membership, patterns, other comparisons.
  cases op with
  | nullity =>
    cases h
    exact ⟨rfl, rfl, rfl⟩
  | oneOf =>
    cases value with
    | arr items =>
      cases items with
      | nil =>
        cases negated <;> cases h
        exact ⟨rfl, rfl, rfl⟩
      | cons first rest =>
        cases h
        exact ⟨rfl, rfl, rfl, rfl⟩
    | _ => cases h
  | like | ilike =>
    cases negated <;> cases h
    · exact ⟨rfl, rfl, nofun, nofun, rfl, rfl⟩
    · exact ⟨rfl, rfl, rfl, rfl⟩
  | _ =>
    cases negated <;> cases h
    · exact ⟨rfl, rfl, nofun, nofun, rfl, rfl⟩
    · exact ⟨rfl, rfl, nofun, nofun, nofun, rfl, rfl⟩

theorem conjunctOn_of_states {c : Condition} {column : Ident} {j : Conjunct}
    (h : j.States c column) : c.conjunctOn column = .ok j := by
  obtain ⟨name, op, value, negated⟩ := c
  cases j with
  | nullity column' isNull =>
    obtain ⟨rfl, rfl, rfl⟩ := h
    rfl
  | member column' negated' first rest =>
    obtain ⟨rfl, rfl, rfl, rfl⟩ := h
    rfl
  | anything =>
    obtain ⟨rfl, rfl, rfl⟩ := h
    rfl
  -- A comparison's operator is neither nullity nor membership.
  | compare column' op' v =>
    obtain ⟨rfl, rfl, hnull, hone, rfl, rfl⟩ := h
    cases op <;> first | rfl | contradiction
  | negatedCompare column' op' v =>
    obtain ⟨rfl, rfl, hnull, hone, hlike, rfl, rfl⟩ := h
    cases op <;> first | rfl | contradiction
  | notLike column' v =>
    obtain ⟨rfl, hlike, rfl, rfl⟩ := h
    cases op <;> first | rfl | cases hlike

theorem conjunct_eq_ok_iff {c : Condition} {j : Conjunct} :
    c.conjunct = .ok j ↔ ∃ column, Ident.parse c.column = .ok column ∧ j.States c column := by
  simp only [conjunct, bind_eq_ok_iff, check_eq_ok_iff]
  constructor
  · rintro ⟨column, hcolumn, h⟩
    exact ⟨column, hcolumn, states_of_conjunctOn h⟩
  · rintro ⟨column, hcolumn, h⟩
    exact ⟨column, hcolumn, conjunctOn_of_states h⟩

end Condition

/-- A condition on a column has one conjunct at most. -/
theorem Conjunct.States.unique {c : Condition} {column : Ident} {j k : Conjunct}
    (hj : j.States c column) (hk : k.States c column) : j = k := by
  have hone := Condition.conjunctOn_of_states hj
  rw [Condition.conjunctOn_of_states hk] at hone
  exact (Except.ok.inj hone).symm

/-! ### The same filter -/

namespace Condition

/-- Two conditions that come to the same filter: the same comparison of the same column, or the
same test of the same column for null, or two that every row satisfies. -/
inductive SameFilter : Condition → Condition → Prop
  | same {c d : Condition} : Text.trim c.column.toList = Text.trim d.column.toList →
      c.operator.upToCase = d.operator.upToCase → c.negated = d.negated → c.value = d.value →
      SameFilter c d
  | nullity {c d : Condition} : c.operator = .nullity → d.operator = .nullity →
      Text.trim c.column.toList = Text.trim d.column.toList →
      (c.value.isNull != c.negated) = (d.value.isNull != d.negated) → SameFilter c d
  | anything {c d : Condition} : c.operator = .oneOf → c.negated = true → c.value = .arr [] →
      d.operator = .oneOf → d.negated = true → d.value = .arr [] → SameFilter c d

/-- Two names stand alike in a statement just if they were written alike, blanks around them
aside. -/
theorem sql_eq_iff {a b : String} {i k : Ident} (hi : Ident.parse a = .ok i)
    (hk : Ident.parse b = .ok k) : i.sql = k.sql ↔ Text.trim a.toList = Text.trim b.toList := by
  rw [Ident.sql_of_parse hi, Ident.sql_of_parse hk, String.ofList_inj]

variable {c d : Condition} {j k : Conjunct}

theorem sameFilter_of_twin (hc : c.conjunct = .ok j) (hd : d.conjunct = .ok k) (h : j.Twin k) :
    c.SameFilter d := by
  obtain ⟨column, hcolumn, hj⟩ := conjunct_eq_ok_iff.1 hc
  obtain ⟨column', hcolumn', hk⟩ := conjunct_eq_ok_iff.1 hd
  have hsame := (sql_eq_iff hcolumn hcolumn').1
  obtain ⟨hwords, hparams⟩ := h
  have hkind := Conjunct.kind_eq_of_append (congrArg (· ++ []) hwords)
  -- Conjuncts with the same words are of one kind, so six of the pairs are left.
  cases j <;> cases k <;> cases hkind
  case nullity.nullity.refl _ isNull _ =>
    obtain ⟨rfl, hop, hnull⟩ := hj
    obtain ⟨rfl, hop', hnull'⟩ := hk
    refine .nullity hop hop' (hsame ?_) (hnull ▸ hnull')
    cases isNull <;> exact (List.cons.inj hwords).1
  case member.member.refl _ negated first rest _ first' rest' =>
    obtain ⟨rfl, hop, hnegated, hvalue⟩ := hj
    obtain ⟨rfl, hop', hnegated', hvalue'⟩ := hk
    refine .same (hsame ?_) (by rw [hop, hop']) (hnegated.trans hnegated'.symm) ?_
    · cases negated <;> exact (List.cons.inj hwords).1
    · exact hvalue.trans ((congrArg Value.arr hparams).trans hvalue'.symm)
  case anything.anything.refl =>
    obtain ⟨hop, hnegated, hvalue⟩ := hj
    obtain ⟨hop', hnegated', hvalue'⟩ := hk
    exact .anything hop hnegated hvalue hop' hnegated' hvalue'
  case compare.compare.refl =>
    obtain ⟨rfl, rfl, -, -, hnegated, rfl⟩ := hj
    obtain ⟨rfl, rfl, -, -, hnegated', rfl⟩ := hk
    obtain ⟨hname, hrest⟩ := List.cons.inj hwords
    exact .same (hsame hname) (Operator.sql_eq_iff.1 (List.cons.inj hrest).1)
      (hnegated.trans hnegated'.symm) (List.cons.inj hparams).1
  case negatedCompare.negatedCompare.refl =>
    obtain ⟨rfl, rfl, -, -, -, hnegated, rfl⟩ := hj
    obtain ⟨rfl, rfl, -, -, -, hnegated', rfl⟩ := hk
    obtain ⟨hname, hrest⟩ := List.cons.inj (List.cons.inj hwords).2
    exact .same (hsame ((String.append_right_inj _).1 hname))
      (Operator.sql_eq_iff.1 (List.cons.inj hrest).1) (hnegated.trans hnegated'.symm)
      (List.cons.inj hparams).1
  case notLike.notLike.refl =>
    obtain ⟨rfl, hop, hnegated, rfl⟩ := hj
    obtain ⟨rfl, hop', hnegated', rfl⟩ := hk
    exact .same (hsame (List.cons.inj hwords).1) (hop.trans hop'.symm)
      (hnegated.trans hnegated'.symm) (List.cons.inj hparams).1

/-- Conditions that compare alike, on columns that are written alike, have the same part in a
statement. -/
theorem twin_of_states {column column' : Ident} (hname : column.sql = column'.sql)
    (hop : c.operator.upToCase = d.operator.upToCase) (hnegated : c.negated = d.negated)
    (hvalue : c.value = d.value) (hj : j.States c column) (hk : k.States d column') :
    j.Twin k := by
  -- unless they match patterns, the operators are the same
  have hsame := Operator.eq_of_upToCase_eq hop
  cases j with
  | nullity _ isNull =>
    obtain ⟨rfl, hnullity, hnull⟩ := hj
    have hop' := hsame (by rw [hnullity]; decide)
    rw [hk.unique (k := .nullity column' isNull)
      ⟨rfl, hop' ▸ hnullity, by rw [hnull, hnegated, hvalue]⟩]
    refine ⟨?_, rfl⟩
    cases isNull <;> rw [Conjunct.words, Conjunct.words, hname]
  | member _ negated first rest =>
    obtain ⟨rfl, hone, rfl, hlist⟩ := hj
    have hop' := hsame (by rw [hone]; decide)
    rw [hk.unique (k := .member column' c.negated first rest)
      ⟨rfl, hop' ▸ hone, hnegated.symm, hvalue ▸ hlist⟩]
    refine ⟨?_, rfl⟩
    cases c.negated <;> rw [Conjunct.words, Conjunct.words, hname]
  | anything =>
    obtain ⟨hone, htrue, hnil⟩ := hj
    have hop' := hsame (by rw [hone]; decide)
    rw [hk.unique (k := .anything) ⟨hop' ▸ hone, hnegated ▸ htrue, hvalue ▸ hnil⟩]
    exact ⟨rfl, rfl⟩
  | compare _ op v =>
    obtain ⟨rfl, rfl, hnull, hone, hfalse, rfl⟩ := hj
    have hkeeps : ∀ op, op.upToCase ≠ .like → c.operator ≠ op → d.operator ≠ op := by
      rintro op hlike hne rfl
      exact hne (hsame (hop ▸ hlike))
    rw [hk.unique (k := .compare column' d.operator c.value)
      ⟨rfl, rfl, hkeeps _ (by decide) hnull, hkeeps _ (by decide) hone, hnegated ▸ hfalse,
        hvalue.symm⟩]
    refine ⟨?_, rfl⟩
    rw [Conjunct.words, Conjunct.words, hname, Operator.sql_eq_iff.2 hop]
  | negatedCompare _ op v =>
    obtain ⟨rfl, rfl, hnull, hone, hlike, htrue, rfl⟩ := hj
    rw [hk.unique (k := .negatedCompare column' c.operator c.value)
      ⟨rfl, (hsame hlike).symm, hnull, hone, hlike, hnegated ▸ htrue, hvalue.symm⟩]
    exact ⟨by rw [Conjunct.words, Conjunct.words, hname], rfl⟩
  | notLike _ v =>
    obtain ⟨rfl, hlike, htrue, rfl⟩ := hj
    rw [hk.unique (k := .notLike column' c.value)
      ⟨rfl, hop ▸ hlike, hnegated ▸ htrue, hvalue.symm⟩]
    exact ⟨by rw [Conjunct.words, Conjunct.words, hname], rfl⟩

theorem twin_of_sameFilter (hc : c.conjunct = .ok j) (hd : d.conjunct = .ok k)
    (h : c.SameFilter d) : j.Twin k := by
  obtain ⟨column, hcolumn, hj⟩ := conjunct_eq_ok_iff.1 hc
  obtain ⟨column', hcolumn', hk⟩ := conjunct_eq_ok_iff.1 hd
  have hname := (sql_eq_iff hcolumn hcolumn').2
  cases h with
  | same htrim hop hnegated hvalue =>
    exact twin_of_states (hname htrim) hop hnegated hvalue hj hk
  | nullity hop hop' htrim hnull =>
    rw [hj.unique (k := .nullity column _) ⟨rfl, hop, rfl⟩,
      hk.unique (k := .nullity column' _) ⟨rfl, hop', rfl⟩, hnull]
    refine ⟨?_, rfl⟩
    cases d.value.isNull != d.negated <;> rw [Conjunct.words, Conjunct.words, hname htrim]
  | anything hop hnegated hvalue hop' hnegated' hvalue' =>
    rw [hj.unique (k := .anything) ⟨hop, hnegated, hvalue⟩,
      hk.unique (k := .anything) ⟨hop', hnegated', hvalue'⟩]
    exact ⟨rfl, rfl⟩

end Condition

/-! ### The filters of a clause -/

namespace Clause

variable {xs ys : List Condition} {c d : Clause}

theorem forall₂_of_compile (h : compile xs = .ok c) :
    List.Forall₂ (fun x j => x.conjunct = .ok j) xs c := by
  rw [compile, mapM_eq_ok_iff, ← List.forall₂_eq_eq_eq, List.forall₂_map_left_iff,
    List.forall₂_map_right_iff] at h
  exact h

theorem forall₂_twin_iff (hx : List.Forall₂ (fun x j => x.conjunct = .ok j) xs c)
    (hy : List.Forall₂ (fun x j => x.conjunct = .ok j) ys d) :
    List.Forall₂ Conjunct.Twin c d ↔ List.Forall₂ Condition.SameFilter xs ys := by
  induction hx generalizing ys d with
  | nil => cases hy <;> simp
  | cons hj _ ih =>
    cases hy with
    | nil => simp
    | cons hk hy =>
      rw [List.forall₂_cons, List.forall₂_cons, ih hy]
      exact and_congr_left' ⟨Condition.sameFilter_of_twin hj hk, Condition.twin_of_sameFilter hj hk⟩

theorem sql_params_of_twin (h : List.Forall₂ Conjunct.Twin c d) :
    c.sql = d.sql ∧ c.params = d.params := by
  have hparts : c.map Conjunct.sql = d.map Conjunct.sql ∧ c.params = d.params := by
    induction h with
    | nil => exact ⟨rfl, rfl⟩
    | cons hjk _ ih =>
      have hsql := congrArg (String.intercalate " ") hjk.words
      rw [Conjunct.intercalate_words, Conjunct.intercalate_words] at hsql
      rw [List.map_cons, List.map_cons, hsql, ih.1, params, params, List.flatMap_cons,
        List.flatMap_cons, hjk.params]
      exact ⟨rfl, congrArg _ ih.2⟩
  refine ⟨?_, hparts.2⟩
  rw [sql, sql, body, body, ← List.isEmpty_map (f := Conjunct.sql), hparts.1, List.isEmpty_map]

/-- **Clauses are unambiguous.**  Two lists of conditions that are compiled have the same text and
the same parameters just if they are equally long and have the same filter in each place. -/
theorem sql_params_eq_iff (hx : compile xs = .ok c) (hy : compile ys = .ok d) :
    (c.sql = d.sql ∧ c.params = d.params) ↔ List.Forall₂ Condition.SameFilter xs ys := by
  rw [← forall₂_twin_iff (forall₂_of_compile hx) (forall₂_of_compile hy)]
  constructor
  · rintro ⟨hsql, hparams⟩
    exact forall₂_twin (words_eq_of_sql hsql) hparams
  · exact sql_params_of_twin

/-- Some filters on columns with odd names. -/
def oddFilters : List Condition :=
  [{ column := " NOT", operator := .ilike, value := .str "a%", negated := true },
    { column := "\"a IS NULL AND b\"", operator := .nullity, value := .null },
    { column := "AND", operator := .oneOf, value := .arr [], negated := true }]

/-- The same filters, which differ where it makes no difference. -/
def oddFilters' : List Condition :=
  [{ column := "NOT", operator := .like, value := .str "a%", negated := true },
    { column := "\"a IS NULL AND b\"", operator := .nullity, value := .str "b", negated := true },
    { column := "IS", operator := .oneOf, value := .arr [], negated := true }]

/-- They come to one text, so they are the same. -/
theorem sql_params_eq_iff_oddFilters :
    ∃ c d, compile oddFilters = .ok c ∧ compile oddFilters' = .ok d ∧
      c.sql = "WHERE NOT NOT LIKE ? AND \"a IS NULL AND b\" IS NULL AND 1 = 1" ∧ c.sql = d.sql ∧
      c.params = d.params ∧ List.Forall₂ Condition.SameFilter oddFilters oddFilters' := by
  obtain ⟨c, hc, hsql, hparams⟩ : ∃ c, compile oddFilters = .ok c ∧
      c.sql = "WHERE NOT NOT LIKE ? AND \"a IS NULL AND b\" IS NULL AND 1 = 1" ∧
      c.params = [.str "a%"] := ⟨_, rfl, rfl, rfl⟩
  obtain ⟨d, hd, hsql', hparams'⟩ : ∃ d, compile oddFilters' = .ok d ∧
      d.sql = "WHERE NOT NOT LIKE ? AND \"a IS NULL AND b\" IS NULL AND 1 = 1" ∧
      d.params = [.str "a%"] := ⟨_, rfl, rfl, rfl⟩
  have htext := hsql.trans hsql'.symm
  have hvalues := hparams.trans hparams'.symm
  exact ⟨c, d, hc, hd, hsql, htext, hvalues, (sql_params_eq_iff hc hd).1 ⟨htext, hvalues⟩⟩

end Clause

end Graft
