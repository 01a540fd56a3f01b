/-
Graft/Proofs/Ident/Slices.lean

Reading names by slices.

A name is cut up in one scan that remembers whether it stands within double quotes.
The segments are slices between offsets in bytes, from after one dot to the next;
they are those that the reader of names finds character by character
(`gives_partsBySlices`).
-/
import Graft.Proofs.Ident.RoundTrip
import Graft.Proofs.Text.Scanning

namespace Graft.Ident

open Text

/-! ### Segments -/

/-- The scan for the dots outside double quotes; its state is whether it stands within them. -/
def quoteCutter (name : String) : Cutter Bool where
  step quoted c := .ok (if c = '"' then !quoted else quoted)
  isCut quoted c := c = '.' ∧ quoted = false
  finish quoted := if quoted then .error (.unclosedQuote name) else .ok ()
  one_byte := by
    intro quoted c hcut
    obtain ⟨rfl, -⟩ := of_decide_eq_true hcut
    rfl

/-- The segments of what is left of a name, unless its last double quote stays open. -/
def segmentsRest (name : String) (quoted : Bool) (rest : List Char) :
    Except Violation (List (List Char)) :=
  match segments? quoted rest with
  | none => .error (.unclosedQuote name)
  | some segs => .ok segs

theorem pieces_quoteCutter (name : String) (quoted : Bool) (rest : List Char) :
    (quoteCutter name).pieces quoted rest = segmentsRest name quoted rest := by
  induction rest generalizing quoted with
  | nil => cases quoted <;> rfl
  | cons c rest ih =>
    by_cases hcut : c = '.' ∧ quoted = false
    · rw [Cutter.pieces_of_isCut _ (decide_eq_true hcut), ih, segmentsRest, segmentsRest,
        segments?, if_pos hcut, hcut.2]
      cases segments? false rest <;> rfl
    · rw [Cutter.pieces_of_step _ (decide_eq_false hcut) rfl, ih, segmentsRest, segmentsRest,
        segments?, if_neg hcut]
      cases segments? (if c = '"' then !quoted else quoted) rest <;> rfl

/-- The segments of a name, by slices. -/
def segmentsBySlices (name : List Char) : Slicing (List (List Char)) :=
  (quoteCutter (String.ofList name)).scan false name

theorem gives_segmentsBySlices (name : List Char) :
    (segmentsBySlices name).Gives (segmentsRest (String.ofList name) false name) := by
  have hscan := (quoteCutter (String.ofList name)).scan_gives false name
  rwa [pieces_quoteCutter] at hscan

/-! ### Names -/

/-- The parts of the identifier that a text is, by slices. -/
def partsBySlices (raw : String) : Slicing (List Part) := do
  let name := trim raw.toList
  if name = [] then
    throw .emptyName
  if '\x00' ∈ name then
    throw .nulInName
  let segments ← segmentsBySlices name
  segments.mapM fun segment => Part.read (String.ofList name) segment

/-- **No slice is out of bounds** when a name is read. -/
theorem gives_partsBySlices (raw : String) : (partsBySlices raw).Gives ((parse raw).map parts) := by
  rw [map_parts_parse, readParts, partsBySlices]
  generalize trim raw.toList = name
  by_cases hempty : name = []
  · simp only [if_pos hempty]
    exact Slicing.gives_throw _
  · by_cases hnul : '\x00' ∈ name
    · simp only [if_neg hempty, if_pos hnul]
      exact Slicing.gives_throw _
    · simp only [if_neg hempty, if_neg hnul]
      have hparts : (segmentsBySlices name >>= fun segments =>
          segments.mapM fun segment => liftM (Part.read (String.ofList name) segment)).Gives
          (segmentsRest (String.ofList name) false name >>= List.mapM (Part.read _)) :=
        (gives_segmentsBySlices name).bind fun segments _ =>
          Slicing.gives_mapM fun segment _ => Slicing.gives_except _
      rw [segmentsRest] at hparts
      cases hsegments : segments? false name <;> rw [hsegments] at hparts <;> exact hparts

end Graft.Ident
