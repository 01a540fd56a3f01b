/-
Graft/Proofs/Condition/Conjunction.lean

Conditions that are added narrow the clause and change nothing of it.

Compiling goes through the conditions of a chain in order and stops at the
first that fails.  So what comes of two lists of conditions, one after the
other, is told by what comes of each (`Clause.compile_append`):

    WHERE a AND b   and   WHERE c   give   WHERE a AND b AND c

and the parameters of the one are followed by those of the other.  A clause
without conditions has no text, not even the keyword, which is why it is a case
apart.
-/
import Graft.Condition.Clause

namespace Graft.Clause

variable {c d : Clause}

/-! ### Clauses in a row -/

theorem params_append (c d : Clause) : params (c ++ d) = c.params ++ d.params :=
  List.flatMap_append

theorem sql_of_ne_nil (h : c ≠ []) : c.sql = "WHERE " ++ c.body := by
  rw [sql, if_neg (by simpa using h)]

theorem body_singleton (j : Conjunct) : body [j] = j.sql :=
  String.intercalate_singleton

theorem body_append (hc : c ≠ []) (hd : d ≠ []) :
    body (c ++ d) = c.body ++ " AND " ++ d.body := by
  have hc' : c.map Conjunct.sql ≠ [] := by simpa using hc
  have hd' : d.map Conjunct.sql ≠ [] := by simpa using hd
  rw [body, List.map_append, String.intercalate_append_of_ne_nil hc' hd']
  rfl

theorem sql_append (hc : c ≠ []) (hd : d ≠ []) :
    sql (c ++ d) = "WHERE " ++ c.body ++ " AND " ++ d.body := by
  rw [sql_of_ne_nil (List.append_ne_nil_of_left_ne_nil hc d), body_append hc hd,
    ← String.append_assoc, ← String.append_assoc]

/-! ### Compiling -/

variable {xs ys : List Condition}

/-- There is a conjunct for each condition. -/
theorem eq_nil_iff_of_compile (h : compile xs = .ok c) : c = [] ↔ xs = [] := by
  rw [← List.length_eq_zero_iff, length_of_mapM_ok h, List.length_eq_zero_iff]

theorem compile_singleton_eq_ok_iff {x : Condition} :
    compile [x] = .ok c ↔ ∃ conjunct, x.conjunct = .ok conjunct ∧ c = [conjunct] := by
  rw [compile, mapM_eq_ok_iff, List.map_singleton, eq_comm, List.map_eq_singleton_iff]
  simp only [eq_comm, and_comm]

theorem compile_singleton_eq_error_iff {x : Condition} {e : Error} :
    compile [x] = .error e ↔ x.conjunct = .error e := by
  rw [compile, List.mapM_cons, bind_eq_error_iff]
  constructor
  · rintro (h | ⟨_, -, h⟩)
    · exact h
    · cases h
  · exact .inl

theorem compile_append_eq_ok_iff :
    compile (xs ++ ys) = .ok c ↔
      ∃ cx cy, compile xs = .ok cx ∧ compile ys = .ok cy ∧ c = cx ++ cy := by
  simp only [compile, List.mapM_append, bind_eq_ok_iff]
  constructor
  · rintro ⟨cx, hx, cy, hy, h⟩
    cases h
    exact ⟨cx, cy, hx, hy, rfl⟩
  · rintro ⟨cx, cy, hx, hy, rfl⟩
    exact ⟨cx, hx, cy, hy, rfl⟩

theorem compile_append_eq_error_iff {e : Error} :
    compile (xs ++ ys) = .error e ↔
      compile xs = .error e ∨ (∃ cx, compile xs = .ok cx) ∧ compile ys = .error e := by
  simp only [compile, List.mapM_append, bind_eq_error_iff]
  constructor
  · rintro (h | ⟨cx, hx, h | ⟨_, -, h⟩⟩)
    · exact .inl h
    · exact .inr ⟨⟨cx, hx⟩, h⟩
    · cases h
  · rintro (h | ⟨⟨cx, hx⟩, h⟩)
    · exact .inl h
    · exact .inr ⟨cx, hx, .inl h⟩

/-- **Conditions are joined with AND.**  Two lists of conditions in a row fail to compile just if
one of them does, and then for the first condition that fails by itself.  Otherwise the parameters
of the second follow those of the first, and their texts are joined under one keyword, or one of
them is the text of both if the other list is empty.  So a condition that is added at the end adds
its conjunct, and all before it stays as it was. -/
theorem compile_append (xs ys : List Condition) :
    (∀ e, compile (xs ++ ys) = .error e ↔
      compile xs = .error e ∨ (∃ cx, compile xs = .ok cx) ∧ compile ys = .error e) ∧
    (∀ e, compile (xs ++ ys) = .error e ↔ ∃ before x after c, xs ++ ys = before ++ x :: after ∧
      compile before = .ok c ∧ compile [x] = .error e) ∧
    (∀ cx cy, compile xs = .ok cx → compile ys = .ok cy →
      ∃ c, compile (xs ++ ys) = .ok c ∧ c.params = cx.params ++ cy.params ∧
        (xs = [] → c.sql = cy.sql) ∧ (ys = [] → c.sql = cx.sql) ∧
        (xs ≠ [] → ys ≠ [] → ∃ bodyx bodyy, cx.sql = "WHERE " ++ bodyx ∧
          cy.sql = "WHERE " ++ bodyy ∧ c.sql = "WHERE " ++ bodyx ++ " AND " ++ bodyy)) ∧
    ∀ y c, compile (xs ++ [y]) = .ok c →
      ∃ cx conjunct, compile xs = .ok cx ∧ y.conjunct = .ok conjunct ∧
        c.params = cx.params ++ conjunct.params ∧
        c.sql = (if xs = [] then "WHERE " else cx.sql ++ " AND ") ++ conjunct.sql := by
  refine ⟨fun e => compile_append_eq_error_iff, fun e => ?_, fun cx cy hx hy => ?_, fun y c h => ?_⟩
  · simp only [compile_singleton_eq_error_iff]
    exact mapM_eq_error_iff
  · refine ⟨cx ++ cy, compile_append_eq_ok_iff.2 ⟨cx, cy, hx, hy, rfl⟩, params_append cx cy,
      fun hnil => ?_, fun hnil => ?_, fun hxs hys => ?_⟩
    · rw [(eq_nil_iff_of_compile hx).2 hnil, List.nil_append]
    · rw [(eq_nil_iff_of_compile hy).2 hnil, List.append_nil]
    -- Both sides have conditions, so both texts start with WHERE.
    · have hcx := mt (eq_nil_iff_of_compile hx).1 hxs
      have hcy := mt (eq_nil_iff_of_compile hy).1 hys
      exact ⟨cx.body, cy.body, sql_of_ne_nil hcx, sql_of_ne_nil hcy, sql_append hcx hcy⟩
  · obtain ⟨cx, cy, hx, hy, rfl⟩ := compile_append_eq_ok_iff.1 h
    obtain ⟨conjunct, hconjunct, rfl⟩ := compile_singleton_eq_ok_iff.1 hy
    refine ⟨cx, conjunct, hx, hconjunct, ?_, ?_⟩
    · rw [params_append]
      exact congrArg (cx.params ++ ·) (List.flatMap_singleton _ _)
    · split
      · next hnil =>
        rw [(eq_nil_iff_of_compile hx).2 hnil, List.nil_append,
          sql_of_ne_nil (List.cons_ne_nil _ _), body_singleton]
      · next hxs =>
        have hcx := mt (eq_nil_iff_of_compile hx).1 hxs
        rw [sql_append hcx (List.cons_ne_nil _ _), sql_of_ne_nil hcx, body_singleton]

end Graft.Clause
