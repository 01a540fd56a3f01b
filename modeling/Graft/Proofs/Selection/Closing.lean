/-
Graft/Proofs/Selection/Closing.lean

Where a relation of an expression ends.

An item with a parenthesis has another one that closes it (`exists_encloses`),
and may go on after that.  The reader does not look for it: it takes the item
from its first parenthesis to its end, and only wants a closing one there.  So
what comes after the parenthesis that closes the first one is refused, unless
it ends in a closing parenthesis too.  Then it goes with the columns of the
relation, whose parentheses do not match (`matched_columns_iff`).
-/
import Graft.Proofs.Selection.Items
import Mathlib.Data.List.Forall2

namespace Graft.Selection

/-! ### The closing parenthesis -/

/-- An item is a head, a parenthesis that opens, what it encloses, and what comes after the one that
closes it. -/
structure Encloses (text head body more : List Char) : Prop where
  eq : text = head ++ '(' :: (body ++ ')' :: more)
  first : '(' ∉ head
  matched : Matched body

/-- Where more is open than in the end, the last that is closed has its closing parenthesis. -/
theorem exists_closing {depth : Nat} {s : List Char} (h : depthAfter? (depth + 1) s = some 0) :
    ∃ body more, s = body ++ ')' :: more ∧ depthAfter? depth body = some 0 := by
  -- on the text, with any number of open parentheses around the one in question
  induction s generalizing depth with
  | nil => cases h
  | cons c s ih =>
    obtain ⟨-, h⟩ := depthAfter?_cons_eq_some_iff.1 h
    -- a character that leaves it open goes to the text that it encloses
    have hgoes : depthStep (depth + 1) c = depthStep depth c + 1 → ¬(c = ')' ∧ depth = 0) →
        ∃ body more, c :: s = body ++ ')' :: more ∧ depthAfter? depth body = some 0 := by
      intro hstep hclose
      rw [hstep] at h
      obtain ⟨body, more, rfl, hbody⟩ := ih h
      exact ⟨c :: body, more, rfl, depthAfter?_cons_eq_some_iff.2 ⟨hclose, hbody⟩⟩
    by_cases hclose : c = ')'
    · subst hclose
      cases depth with
      | zero => exact ⟨[], s, rfl, rfl⟩
      | succ depth => exact hgoes rfl (by simp)
    · refine hgoes ?_ (by simp [hclose])
      simp only [depthStep, if_neg hclose]
      split <;> rfl

/-- Every piece with a parenthesis has one that closes it. -/
theorem exists_encloses {text : List Char} (hpiece : IsPiece text) (hopen : '(' ∈ text) :
    ∃ head body more, Encloses text head body more := by
  cases hcut : Text.cut '(' text with
  | none => exact absurd hopen (Text.cut_eq_none_iff.1 hcut)
  | some cut =>
    obtain ⟨head, tail⟩ := cut
    obtain ⟨rfl, hfirst⟩ := Text.cut_eq_some_iff.1 hcut
    obtain ⟨-, -, htail⟩ := (isPiece_append_iff hfirst).1 hpiece
    obtain ⟨body, more, rfl, hbody⟩ := exists_closing (depthAfter?_of_uncut? htail)
    exact ⟨head, body, more, rfl, hfirst, balanced_iff_matched.1 hbody⟩

/-! ### The columns of a relation -/

/-- What is kept of an item that was read as a relation. -/
theorem columns_of_encloses {text head body more : List Char} {r : Request}
    (he : Encloses text head body more) (h : readItem text = .ok (.relation r)) :
    r.columns.toList = orStar (Text.trim (body ++ ')' :: more).dropLast) ∧
      (Matched r.columns.toList ↔ more = []) ∧ (more = [] ∨ more.getLast? = some ')') := by
  obtain ⟨-, hitem⟩ | ⟨head', tail, r, htext, hfirst, hr, hitem⟩ := readItem_eq_ok_iff.1 h
  · cases hitem
  · cases hitem
    -- the item has one first parenthesis
    have hcut := Text.cut_eq_some_iff.2 ⟨he.eq, he.first⟩
    rw [Text.cut_eq_some_iff.2 ⟨htext, hfirst⟩] at hcut
    cases hcut
    obtain ⟨written, alias?, table, hint?, hend, -, -, -, -, hr⟩ := readRelation_eq_ok_iff.1 hr
    have hcolumns : r.columns.toList = orStar (Text.trim written) := by
      rw [hr, String.toList_ofList]
    have hmatched : Matched r.columns.toList ↔ Balanced written := by
      rw [← balanced_iff_matched, hcolumns, Balanced, follows_depthAfter?.orStar]
      rfl
    have hbody : Balanced body := balanced_iff_matched.2 he.matched
    rw [hmatched, hend, List.dropLast_concat, hcolumns]
    refine ⟨rfl, ?_⟩
    rcases List.eq_nil_or_concat more with rfl | ⟨after, c, rfl⟩
    · obtain ⟨rfl, -⟩ := List.append_inj' hend rfl
      exact ⟨iff_of_true hbody rfl, .inl rfl⟩
    · rw [List.concat_eq_append, ← List.cons_append, ← List.append_assoc] at hend
      obtain ⟨rfl, hc⟩ := List.append_inj' hend rfl
      -- the second closing parenthesis closes what was not open
      have hunopened : ¬ Balanced (body ++ ')' :: after) := by
        rw [Balanced, depthAfter?_append, hbody]
        intro h
        cases h
      refine ⟨iff_of_false hunopened (by simp), .inr ?_⟩
      rw [List.concat_eq_append, hc, List.getLast?_concat]

/-! ### The relations of an expression -/

/-- The items of an expression that have parentheses. -/
def relationTexts (expr : String) : List (List Char) :=
  (itemTexts (pieces 0 expr.toList)).filter ('(' ∈ ·)

/-- Each relation among some items is read from a text with a parenthesis, in order. -/
theorem forall₂_of_mapM_readItem {R : List Char → Request → Prop} {texts : List (List Char)}
    {items : List Item} (h : texts.mapM readItem = .ok items)
    (hR : ∀ text ∈ texts, ∀ r, readItem text = .ok (.relation r) → '(' ∈ text → R text r) :
    List.Forall₂ R (texts.filter ('(' ∈ ·)) (items.filterMap Item.request?) := by
  induction texts generalizing items with
  | nil =>
    cases h
    exact .nil
  | cons text rest ih =>
    rw [List.mapM_cons] at h
    obtain ⟨item, hitem, h⟩ := bind_eq_ok_iff.1 h
    obtain ⟨items, hrest, h⟩ := bind_eq_ok_iff.1 h
    cases h
    have ih := ih hrest fun t ht => hR t (List.mem_cons_of_mem _ ht)
    have hhead := hR text List.mem_cons_self
    obtain ⟨hopen, rfl⟩ | ⟨head, tail, r, rfl, -, -, rfl⟩ := readItem_eq_ok_iff.1 hitem
    · rw [List.filter_cons_of_neg (by simpa using hopen)]
      exact ih
    · have hopen : '(' ∈ head ++ '(' :: tail := by simp
      rw [List.filter_cons_of_pos (by simp)]
      exact .cons (hhead r hitem hopen) ih

/-- **Where a relation ends.**  Each relation of an expression is read from an item that encloses
something in the first parenthesis and the one that closes it.  The parentheses of its columns match
just if nothing comes after that.  What does come after it ends in a closing parenthesis, and all up
to there is taken for columns. -/
theorem matched_columns_iff {expr : String} {s : Selection} (h : parse expr = .ok s) :
    List.Forall₂ (fun text r =>
        (∃ head body more, Encloses text head body more) ∧
        ∀ head body more, Encloses text head body more →
          r.columns.toList = orStar (Text.trim (body ++ ')' :: more).dropLast) ∧
          (Matched r.columns.toList ↔ more = []) ∧ (more = [] ∨ more.getLast? = some ')'))
      (relationTexts expr) s.relations := by
  obtain ⟨ps, items, hps, hitems, rfl⟩ := parse_eq_ok_iff.1 h
  rw [relationTexts, ← (splitTopLevel_eq_ok_iff.1 hps).2]
  refine forall₂_of_mapM_readItem hitems fun text htext r hr hopen => ?_
  obtain ⟨-, -, hpiece⟩ := isPiece_of_mem_itemTexts hps htext
  exact ⟨exists_encloses hpiece hopen, fun head body more he => columns_of_encloses he hr⟩

/-- A missing comma makes one relation of two. -/
theorem matched_columns_iff_customers :
    parse "id, customers(name) items(qty)" =
        .ok ⟨"id", [⟨"customers", none, "name) items(qty", false⟩]⟩ ∧
      ¬ Matched "name) items(qty".toList := by
  have hread : parse "id, customers(name) items(qty)" =
      .ok ⟨"id", [⟨"customers", none, "name) items(qty", false⟩]⟩ := rfl
  have htexts : relationTexts "id, customers(name) items(qty)" =
      ["customers(name) items(qty)".toList] := rfl
  have hcolumns := matched_columns_iff hread
  rw [htexts, List.forall₂_cons] at hcolumns
  have hencloses : Encloses "customers(name) items(qty)".toList "customers".toList "name".toList
      " items(qty)".toList := ⟨rfl, by decide, balanced_iff_matched.1 (by decide)⟩
  obtain ⟨-, hmatched, -⟩ := hcolumns.1.2 _ _ _ hencloses
  exact ⟨hread, fun h => absurd (hmatched.1 h) (by decide)⟩

/-- The parentheses of a relation's columns need not match. -/
theorem not_forall_matched_columns :
    ¬ ∀ expr s, parse expr = .ok s → ∀ r ∈ s.relations, Matched r.columns.toList := by
  intro h
  have hmatched := h "id, customers(name) items(qty)"
    ⟨"id", [⟨"customers", none, "name) items(qty", false⟩]⟩ rfl _ List.mem_cons_self
  exact absurd (balanced_iff_matched.2 hmatched) (by decide)

end Graft.Selection
