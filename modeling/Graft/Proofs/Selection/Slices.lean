/-
Graft/Proofs/Selection/Slices.lean

Reading select expressions by slices.

The reader cuts an expression up in one scan that counts open parentheses, and a
relation at two offsets: that of its first parenthesis, and that of the closing
one at its end.  Here all of these are slices between offsets in bytes, and the
reading that takes them is the one that goes by characters
(`gives_parseBySlices`).

In a relation, the first offset is less than the second for a simple reason.  The
parenthesis at the first opens and that at the second closes, so they are not the
same one (`opening_lt_closing`).
-/
import Graft.Proofs.Text.Scanning
import Graft.Selection

namespace Graft.Selection

open Text

/-! ### Pieces -/

/-- The scan for the commas outside parentheses; its state is the number of open ones. -/
def depthCutter (expr : List Char) : Cutter Nat where
  step depth c :=
    if c = '(' then .ok (depth + 1)
    else if c = ')' then
      if depth = 0 then .error (.unopenedParenthesis (String.ofList expr)) else .ok (depth - 1)
    else .ok depth
  isCut depth c := c = ',' ∧ depth = 0
  finish depth :=
    if depth = 0 then .ok () else .error (.unclosedParenthesis (String.ofList expr))
  one_byte := by
    intro depth c hcut
    obtain ⟨rfl, -⟩ := of_decide_eq_true hcut
    rfl

/-- The pieces of what is left of an expression, or which of its parentheses is at fault. -/
def splitRest (expr : List Char) (depth : Nat) (rest : List Char) :
    Except Violation (List (List Char)) :=
  match depthAfter? depth rest with
  | none => .error (.unopenedParenthesis (String.ofList expr))
  | some 0 => .ok (pieces depth rest)
  | some _ => .error (.unclosedParenthesis (String.ofList expr))

theorem splitRest_comma (expr rest : List Char) :
    splitRest expr 0 (',' :: rest) = (splitRest expr 0 rest).map ([] :: ·) := by
  have hdepth : depthAfter? 0 (',' :: rest) = depthAfter? 0 rest := rfl
  have hpieces : pieces 0 (',' :: rest) = [] :: pieces 0 rest := rfl
  rw [splitRest, splitRest, hdepth, hpieces]
  rcases depthAfter? 0 rest with _ | _ | depth <;> rfl

/-- A character that the expression is not cut at goes to the piece at hand. -/
theorem splitRest_cons {expr : List Char} {depth : Nat} {c : Char} (rest : List Char)
    (hclose : ¬(c = ')' ∧ depth = 0)) (hcomma : ¬(c = ',' ∧ depth = 0)) :
    splitRest expr depth (c :: rest) =
      (splitRest expr (depthStep depth c) rest).map (List.modifyHead (c :: ·)) := by
  have hdepth : depthAfter? depth (c :: rest) = depthAfter? (depthStep depth c) rest := by
    rw [depthAfter?, depthStep]
    grind
  rw [splitRest, splitRest, hdepth, pieces, if_neg hcomma]
  rcases depthAfter? (depthStep depth c) rest with _ | _ | depth <;> rfl

theorem pieces_depthCutter (expr : List Char) (depth : Nat) (rest : List Char) :
    (depthCutter expr).pieces depth rest = splitRest expr depth rest := by
  induction rest generalizing depth with
  | nil => cases depth <;> rfl
  | cons c rest ih =>
    by_cases hcomma : c = ',' ∧ depth = 0
    · rw [Cutter.pieces_of_isCut _ (decide_eq_true hcomma), ih]
      obtain ⟨rfl, rfl⟩ := hcomma
      exact (splitRest_comma expr rest).symm
    · by_cases hclose : c = ')' ∧ depth = 0
      · obtain ⟨rfl, rfl⟩ := hclose
        rfl
      · have hstep : (depthCutter expr).step depth c = .ok (depthStep depth c) := by
          simp only [depthCutter, depthStep]
          grind
        rw [Cutter.pieces_of_step _ (decide_eq_false hcomma) hstep, ih]
        exact (splitRest_cons rest hclose hcomma).symm

/-- The pieces of an expression, by slices. -/
def splitBySlices (expr : List Char) : Slicing (List (List Char)) :=
  (depthCutter expr).scan 0 expr

theorem gives_splitBySlices (expr : List Char) :
    (splitBySlices expr).Gives (splitTopLevel expr) := by
  have hscan := (depthCutter expr).scan_gives 0 expr
  rwa [pieces_depthCutter] at hscan

/-! ### Items -/

/-- The item that a piece without blanks around it is, by slices.  Where it is a relation, the last
slice ends before the closing parenthesis. -/
def itemBySlices (item : List Char) : Slicing Item :=
  match offset? '(' item with
  | none => return .column item
  | some opening => do
    if item.getLast? ≠ some ')' then
      throw (.textAfterRelation (String.ofList item))
    let head ← slice? item 0 opening
    let columns ← slice? item (opening + 1) (byteLength item - 1)
    let request ← readRelation item head (columns ++ [')'])
    return .relation request

/-- What an item with a parenthesis and one that closes at its end is made of. -/
theorem eq_of_opening {item : List Char} {opening : Nat} (hopen : offset? '(' item = some opening)
    (hclose : item.getLast? = some ')') :
    ∃ head columns, item = head ++ '(' :: (columns ++ [')']) ∧ '(' ∉ head ∧
      opening = byteLength head := by
  rw [offset?_eq, Option.map_eq_some_iff] at hopen
  obtain ⟨⟨head, tail⟩, hcut, rfl⟩ := hopen
  obtain ⟨rfl, hfirst⟩ := cut_eq_some_iff.1 hcut
  rcases List.eq_nil_or_concat tail with rfl | ⟨columns, c, rfl⟩
  · simp at hclose
  · rw [List.concat_eq_append, ← List.cons_append, ← List.append_assoc,
      List.getLast?_concat] at hclose
    obtain rfl := Option.some.inj hclose
    exact ⟨head, columns, by rw [List.concat_eq_append], hfirst, rfl⟩

/-- The first parenthesis of a relation lies before the closing one at its end. -/
theorem opening_lt_closing {item : List Char} {opening : Nat}
    (hopen : offset? '(' item = some opening) (hclose : item.getLast? = some ')') :
    opening < byteLength item - 1 := by
  obtain ⟨head, columns, rfl, -, rfl⟩ := eq_of_opening hopen hclose
  have hopening : '('.utf8Size = 1 := rfl
  have hclosing : ')'.utf8Size = 1 := rfl
  simp only [byteLength_append, byteLength_cons, byteLength_nil]
  omega

/-- The slices of a relation: what is before its first parenthesis, and what is between that and the
closing one at its end. -/
theorem slices_of_relation (head columns : List Char) :
    let item := head ++ '(' :: (columns ++ [')'])
    slice? item 0 (byteLength head) = some head ∧
      slice? item (byteLength head + 1) (byteLength item - 1) = some columns := by
  intro item
  refine ⟨slice?_append [] head ('(' :: (columns ++ [')'])), ?_⟩
  have hcolumns := slice?_append (head ++ ['(']) columns [')']
  have hitem : head ++ ['('] ++ columns ++ [')'] = item := by simp [item]
  have hstart : byteLength (head ++ ['(']) = byteLength head + 1 := byteLength_append head ['(']
  have hstop : byteLength (head ++ ['('] ++ columns) = byteLength item - 1 := by
    rw [← hitem, byteLength_append _ [')']]
    rfl
  rwa [hitem, hstart, hstop] at hcolumns

/-- Where no parenthesis closes an item at its end, none closes what comes after the first. -/
theorem getLast?_tail {item head tail : List Char} (hcut : cut '(' item = some (head, tail))
    (hclose : item.getLast? ≠ some ')') : tail.getLast? ≠ some ')' := by
  obtain ⟨rfl, -⟩ := cut_eq_some_iff.1 hcut
  intro htail
  obtain ⟨columns, rfl⟩ := List.getLast?_eq_some_iff.1 htail
  rw [← List.cons_append, ← List.append_assoc, List.getLast?_concat] at hclose
  exact hclose rfl

theorem gives_itemBySlices (item : List Char) : (itemBySlices item).Gives (readItem item) := by
  rw [itemBySlices, readItem]
  cases hcut : cut '(' item with
  | none =>
    rw [offset?_eq, hcut]
    exact Slicing.gives_pure _
  | some parts =>
    obtain ⟨head, tail⟩ := parts
    have hopen : offset? '(' item = some (byteLength head) := by
      rw [offset?_eq, hcut]
      rfl
    rw [hopen]
    -- Only an item that is closed at its end is sliced; any other is refused before.
    by_cases hclose : item.getLast? = some ')'
    · obtain ⟨head', columns, rfl, hfirst, -⟩ := eq_of_opening hopen hclose
      obtain ⟨rfl, rfl⟩ : head = head' ∧ tail = columns ++ [')'] := by
        rw [cut_eq_some_iff.2 ⟨rfl, hfirst⟩] at hcut
        cases hcut
        exact ⟨rfl, rfl⟩
      obtain ⟨hhead, hcolumns⟩ := slices_of_relation head columns
      simp only [hclose]
      refine Slicing.gives_slice_bind hhead (Slicing.gives_slice_bind hcolumns ?_)
      exact (Slicing.gives_except _).map Item.relation
    · have htail := getLast?_tail hcut hclose
      simp only [readRelation, if_pos hclose, if_pos htail]
      exact Slicing.gives_throw _

/-! ### Expressions -/

/-- The selection that a select expression is, by slices. -/
def parseBySlices (expr : String) : Slicing Selection := do
  let pieces ← splitBySlices expr.toList
  let items ← (itemTexts pieces).mapM itemBySlices
  return ofItems items

/-- **No slice is out of bounds** when a select expression is read. -/
theorem gives_parseBySlices (expr : String) : (parseBySlices expr).Gives (parse expr) := by
  refine (gives_splitBySlices expr.toList).bind fun ps _ => ?_
  refine (Slicing.gives_mapM fun item _ => gives_itemBySlices item).bind fun items _ => ?_
  exact Slicing.gives_pure _

end Graft.Selection
