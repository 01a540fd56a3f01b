/-
Graft/Proofs/Condition/Words.lean

The words of a clause.

Conjuncts are made of words, that is of texts that have spaces only between
double quotes (`Conjunct.words`):

    column IN (?, ?)     is     column   IN   (?,   ?)
    NOT (column = ?)     is     NOT   (column   =   ?)

and so is a clause, with `AND` in front of each conjunct.  As a text falls into
words in one way only, the words of a clause can be told from its text
(`Clause.words_eq_of_sql`).

The second and the third word of a conjunct tell what kind of conjunct it is
(`Conjunct.kindOf`); the first one need not be looked at, so it does not matter
which name it is.  From the kind it is known where the words and the parameters
of the conjunct end, or from the question mark before the parenthesis if it
tests membership in a list (`Conjunct.length_eq_of_append`).  Hence a clause
falls into conjuncts in one way (`Clause.forall₂_twin`).
-/
import Graft.Proofs.Condition.Conjunction
import Graft.Proofs.Ident.Grammar
import Graft.Proofs.Text.Words
import Mathlib.Data.List.Forall2

namespace Graft

/-! ### Names and operators -/

theorem Operator.isWord (op : Operator) : IsWord op.sql.toList := by
  cases op <;> exact isWord_of_all rfl

theorem Ident.isWord (i : Ident) : IsWord i.sql.toList := by
  obtain ⟨out, hout, hchars⟩ := i.exists_outside?
  rw [sql, String.toList_ofList]
  exact ⟨out, hout, fun hspace => absurd (hchars _ hspace) (by decide)⟩

namespace Conjunct

/-! ### The words of a conjunct -/

/-- The question marks for some values and one more, as words; `opening` stands before the first. -/
def marks (opening : String) : List Value → List String
  | [] => [opening ++ "?)"]
  | _ :: rest => (opening ++ "?,") :: marks "" rest

/-- The words of a conjunct. -/
def words : Conjunct → List String
  | .nullity column true => [column.sql, "IS", "NULL"]
  | .nullity column false => [column.sql, "IS", "NOT", "NULL"]
  | .member column false _ rest => column.sql :: "IN" :: marks "(" rest
  | .member column true _ rest => column.sql :: "NOT" :: "IN" :: marks "(" rest
  | .anything => ["1", "=", "1"]
  | .compare column op _ => [column.sql, op.sql, "?"]
  | .negatedCompare column op _ => ["NOT", "(" ++ column.sql, op.sql, "?)"]
  | .notLike column _ => [column.sql, "NOT", "LIKE", "?"]

theorem marks_ne_nil (opening : String) (rest : List Value) : marks opening rest ≠ [] := by
  cases rest <;> exact List.cons_ne_nil _ _

/-- The words of marks are the marks, separated by commas, and a parenthesis that closes them. -/
theorem intercalate_marks (opening : String) (rest : List Value) :
    " ".intercalate (marks opening rest) =
      opening ++ (", ".intercalate ("?" :: rest.map fun _ => "?") ++ ")") := by
  induction rest generalizing opening with
  | nil =>
    rw [marks, String.intercalate_singleton, List.map_nil, String.intercalate_singleton]
    rfl
  | cons v rest ih =>
    rw [marks, String.intercalate_cons_of_ne_nil (marks_ne_nil "" rest), ih, List.map_cons,
      String.intercalate_cons_cons, String.empty_append]
    simp only [String.append_assoc]
    rfl

/-- A conjunct is made of its words. -/
theorem intercalate_words (j : Conjunct) : " ".intercalate j.words = j.sql := by
  cases j with
  | nullity column isNull =>
    cases isNull <;>
      simp only [words, sql, String.intercalate_cons_cons, String.intercalate_singleton,
        String.append_assoc] <;> rfl
  | member column negated first rest =>
    have hmarks : ∀ word, " ".intercalate (word :: marks "(" rest) =
        word ++ (" " ++ " ".intercalate (marks "(" rest)) := fun word => by
      rw [String.intercalate_cons_of_ne_nil (marks_ne_nil "(" rest), String.append_assoc]
    cases negated <;>
      simp only [words, sql, String.intercalate_cons_cons, hmarks, intercalate_marks,
        String.append_assoc] <;> rfl
  | anything => rfl
  | compare column op v | negatedCompare column op v | notLike column v =>
    simp only [words, sql, String.intercalate_cons_cons, String.intercalate_singleton,
      String.append_assoc]
    rfl

theorem isWord_marks {opening : String} (h : IsWord opening.toList) (rest : List Value) :
    ∀ w ∈ marks opening rest, IsWord w.toList := by
  induction rest generalizing opening with
  | nil =>
    rw [marks, List.forall_mem_singleton, String.toList_append]
    exact h.append (isWord_of_all rfl)
  | cons v rest ih =>
    rw [marks, List.forall_mem_cons, String.toList_append]
    exact ⟨h.append (isWord_of_all rfl), ih (isWord_of_all rfl)⟩

theorem isWord_words (j : Conjunct) : ∀ w ∈ j.words, IsWord w.toList := by
  have hnil := List.forall_mem_nil fun w : String => IsWord w.toList
  cases j with
  | nullity column isNull =>
    cases isNull <;> simp only [words, List.forall_mem_cons]
    · exact ⟨column.isWord, isWord_of_all rfl, isWord_of_all rfl, isWord_of_all rfl, hnil⟩
    · exact ⟨column.isWord, isWord_of_all rfl, isWord_of_all rfl, hnil⟩
  | member column negated first rest =>
    have hmarks := isWord_marks (isWord_of_all (s := "(") rfl) rest
    cases negated <;> simp only [words, List.forall_mem_cons]
    · exact ⟨column.isWord, isWord_of_all rfl, hmarks⟩
    · exact ⟨column.isWord, isWord_of_all rfl, isWord_of_all rfl, hmarks⟩
  | anything =>
    simp only [words, List.forall_mem_cons]
    exact ⟨isWord_of_all rfl, isWord_of_all rfl, isWord_of_all rfl, hnil⟩
  | compare column op v =>
    simp only [words, List.forall_mem_cons]
    exact ⟨column.isWord, op.isWord, isWord_of_all rfl, hnil⟩
  | negatedCompare column op v =>
    simp only [words, List.forall_mem_cons, String.toList_append]
    exact ⟨isWord_of_all rfl, (isWord_of_all rfl).append column.isWord, op.isWord,
      isWord_of_all rfl, hnil⟩
  | notLike column v =>
    simp only [words, List.forall_mem_cons]
    exact ⟨column.isWord, isWord_of_all rfl, isWord_of_all rfl, isWord_of_all rfl, hnil⟩

/-! ### Which conjunct it is -/

/-- What kind of conjunct a conjunct is. -/
inductive Kind where
  | nullity (isNull : Bool)
  | member (negated : Bool)
  | anything | compare | negatedCompare | notLike

/-- The kind of a conjunct. -/
def kind : Conjunct → Kind
  | .nullity _ isNull => .nullity isNull
  | .member _ negated _ _ => .member negated
  | .anything => .anything
  | .compare _ _ _ => .compare
  | .negatedCompare _ _ _ => .negatedCompare
  | .notLike _ _ => .notLike

/-- The kind that a conjunct with these words for its second and third one has. -/
def kindOf (second third : String) : Kind :=
  if second.toList.head? = some '(' then .negatedCompare
  else if third = "?" then .compare
  else if third = "LIKE" then .notLike
  else if third = "NULL" then .nullity true
  else if third = "NOT" then .nullity false
  else if third = "IN" then .member true
  else if third = "1" then .anything
  else .member false

/-- The second and the third word of a conjunct tell its kind. -/
theorem exists_words (j : Conjunct) :
    ∃ first second third more, j.words = first :: second :: third :: more ∧
      kindOf second third = j.kind := by
  -- The second and the third word tell the kind; a negated comparison has a parenthesis there.
  cases j with
  | nullity column isNull => cases isNull <;> exact ⟨_, _, _, _, rfl, rfl⟩
  | member column negated first rest =>
    cases negated <;> cases rest <;> exact ⟨_, _, _, _, rfl, rfl⟩
  | compare column op v =>
    refine ⟨_, _, _, _, rfl, ?_⟩
    cases op <;> rfl
  | negatedCompare column op v =>
    refine ⟨_, _, _, _, rfl, ?_⟩
    have hopen : ("(" ++ column.sql).toList.head? = some '(' := by
      rw [String.toList_append]
      rfl
    rw [kindOf, if_pos hopen, kind]
  | anything | notLike => exact ⟨_, _, _, _, rfl, rfl⟩

theorem words_ne_nil (j : Conjunct) : j.words ≠ [] := by
  obtain ⟨_, _, _, _, hj, -⟩ := j.exists_words
  rw [hj]
  exact List.cons_ne_nil _ _

section

variable {j k : Conjunct} {ws ws' : List String} {vs vs' : List Value}

theorem kind_eq_of_append (h : j.words ++ ws = k.words ++ ws') : j.kind = k.kind := by
  obtain ⟨first, second, third, more, hj, hkind⟩ := j.exists_words
  obtain ⟨first', second', third', more', hk, hkind'⟩ := k.exists_words
  rw [hj, hk] at h
  obtain ⟨-, hsecond⟩ := List.cons.inj h
  obtain ⟨rfl, hthird⟩ := List.cons.inj hsecond
  obtain ⟨rfl, -⟩ := List.cons.inj hthird
  rw [← hkind, hkind']

theorem length_marks (opening : String) (rest : List Value) :
    (marks opening rest).length = rest.length + 1 := by
  induction rest generalizing opening with
  | nil => rfl
  | cons v rest ih => rw [marks, List.length_cons, List.length_cons, ih]

/-- Among the words of a list of marks, the one with the parenthesis is the last. -/
theorem length_eq_of_marks {opening : String} {rest rest' : List Value}
    (h : marks opening rest ++ ws = marks opening rest' ++ ws') : rest.length = rest'.length := by
  have hlast : ∀ opening : String, opening ++ "?)" ≠ opening ++ "?," := by
    intro opening heq
    exact absurd ((String.append_right_inj opening).1 heq) (by decide)
  induction rest generalizing opening rest' with
  | nil =>
    cases rest' with
    | nil => rfl
    | cons v' rest' => exact absurd (List.cons.inj h).1 (hlast opening)
  | cons v rest ih =>
    cases rest' with
    | nil => exact absurd (List.cons.inj h).1.symm (hlast opening)
    | cons v' rest' => rw [List.length_cons, List.length_cons, ih (List.cons.inj h).2]

/-- Two conjuncts that make up the same part of a statement. -/
structure Twin (j k : Conjunct) : Prop where
  words : j.words = k.words
  params : j.params = k.params

/-- A list of words starts with the words of one conjunct at most, and of these with one number of
parameters. -/
theorem length_eq_of_append (h : j.words ++ ws = k.words ++ ws') :
    j.words.length = k.words.length ∧ j.params.length = k.params.length := by
  have hkind := kind_eq_of_append h
  cases j <;> cases k <;> cases hkind
  case nullity.nullity.refl column isNull column' => cases isNull <;> exact ⟨rfl, rfl⟩
  case member.member.refl column negated first rest column' first' rest' =>
    have hlength : rest.length = rest'.length := by
      cases negated
      · exact length_eq_of_marks (List.cons.inj (List.cons.inj h).2).2
      · exact length_eq_of_marks (List.cons.inj (List.cons.inj (List.cons.inj h).2).2).2
    cases negated <;> simp [words, params, length_marks, hlength]
  all_goals exact ⟨rfl, rfl⟩

/-- Where the words of a conjunct and its parameters end, is known from themselves. -/
theorem twin_of_append (h : j.words ++ ws = k.words ++ ws')
    (hparams : j.params ++ vs = k.params ++ vs') : j.Twin k ∧ ws = ws' ∧ vs = vs' := by
  obtain ⟨hwords, hvalues⟩ := length_eq_of_append h
  obtain ⟨hwords, hws⟩ := List.append_inj h hwords
  obtain ⟨hparams, hvs⟩ := List.append_inj hparams hvalues
  exact ⟨⟨hwords, hparams⟩, hws, hvs⟩

end

end Conjunct

/-! ### The words of a clause -/

namespace Clause

/-- The words of a clause, with one more in front. -/
def words (c : Clause) : List String :=
  c.flatMap fun j => "AND" :: j.words

theorem words_cons (j : Conjunct) (rest : Clause) :
    words (j :: rest) = ("AND" :: j.words) ++ rest.words :=
  List.flatMap_cons

theorem words_ne_nil {c : Clause} (h : c ≠ []) : c.words ≠ [] := by
  obtain ⟨j, rest, rfl⟩ := List.exists_cons_of_ne_nil h
  exact List.cons_ne_nil _ _

theorem isWord_words (c : Clause) : ∀ w ∈ c.words, IsWord w.toList := by
  intro w hw
  obtain ⟨j, -, hw⟩ := List.mem_flatMap.1 hw
  rcases List.mem_cons.1 hw with rfl | hw
  · exact isWord_of_all rfl
  · exact j.isWord_words w hw

/-- A clause is made of its words. -/
theorem intercalate_words {c : Clause} (h : c ≠ []) :
    " ".intercalate c.words = "AND " ++ c.body := by
  have hfirst : ∀ j : Conjunct, " ".intercalate ("AND" :: j.words) = "AND " ++ j.sql := by
    intro j
    rw [String.intercalate_cons_of_ne_nil j.words_ne_nil, j.intercalate_words]
    rfl
  induction c with
  | nil => exact absurd rfl h
  | cons j rest ih =>
    by_cases hrest : rest = []
    · subst hrest
      rw [words_cons, body_singleton, ← hfirst, words, List.flatMap_nil, List.append_nil]
    · have hbody : body (j :: rest) = j.sql ++ " AND " ++ body rest := by
        rw [← body_singleton, ← body_append (List.cons_ne_nil j []) hrest, List.singleton_append]
      rw [words_cons, hbody, String.intercalate_append_of_ne_nil (List.cons_ne_nil _ _)
        (words_ne_nil hrest), hfirst, ih hrest]
      simp only [String.append_assoc]
      rfl

variable {c d : Clause}

/-- The words of a clause can be told from its text. -/
theorem words_eq_of_sql (h : c.sql = d.sql) : c.words = d.words := by
  have hempty : ∀ {c : Clause}, c ≠ [] → sql [] ≠ c.sql := by
    intro c hc
    rw [sql_of_ne_nil hc]
    intro hnil
    rw [sql, if_pos List.isEmpty_nil] at hnil
    simp at hnil
  -- The empty clause is the only one with no text.
  by_cases hc : c = []
  · by_cases hd : d = []
    · rw [hc, hd]
    · rw [hc] at h
      exact absurd h (hempty hd)
  · by_cases hd : d = []
    · rw [hd] at h
      exact absurd h.symm (hempty hc)
    · rw [sql_of_ne_nil hc, sql_of_ne_nil hd, String.append_right_inj] at h
      -- Between words there is one blank, and outside quotes no word has one.
      have hwords : " ".intercalate c.words = " ".intercalate d.words := by
        rw [intercalate_words hc, intercalate_words hd, h]
      have hlists := congrArg String.toList hwords
      rw [String.toList_intercalate, String.toList_intercalate] at hlists
      exact List.map_injective_iff.2 (fun _ _ => String.toList_inj.1)
        (IsWord.eq_of_intercalate_eq (List.forall_mem_map.2 c.isWord_words)
          (List.forall_mem_map.2 d.isWord_words) (by simpa using words_ne_nil hc)
          (by simpa using words_ne_nil hd) hlists)

/-- **A clause falls into conjuncts in one way.** -/
theorem forall₂_twin (hwords : c.words = d.words) (hparams : c.params = d.params) :
    List.Forall₂ Conjunct.Twin c d := by
  induction c generalizing d with
  | nil =>
    cases d with
    | nil => exact .nil
    | cons k d => cases hwords
  | cons j c ih =>
    cases d with
    | nil => cases hwords
    | cons k d =>
      obtain ⟨htwin, hwords, hparams⟩ :=
        Conjunct.twin_of_append (List.cons.inj hwords).2 hparams
      exact .cons htwin (ih hwords hparams)

end Clause

end Graft
