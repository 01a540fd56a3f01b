/-
Graft/Proofs/Text/Scanning.lean

Cutting a text up while scanning it.

A scan goes over the characters of a text with their offsets.  At a cut it slices
off what came since the cut before, and goes on one byte later; a cut is at a
character that is one byte long.  At the end it slices off the rest.

No slice on the way is out of bounds, and the pieces are those of the recursion
over the characters: `scan_gives`.  The scan keeps this invariant: what it has
passed is a text before the piece at hand, which ends where that piece starts, and
the piece at hand.
-/
import Graft.Proofs.Text.Slice
import Graft.Text.Cut

namespace Graft.Text

/-! ### Characters with their offsets -/

/-- The characters of a text with their offsets in bytes, the first of which is given. -/
def indexed : Nat → List Char → List (Nat × Char)
  | _, [] => []
  | i, c :: rest => (i, c) :: indexed (i + c.utf8Size) rest

/-- The offset of the first occurrence of a character. -/
def offset? (c : Char) (s : List Char) : Option Nat :=
  ((indexed 0 s).find? (·.2 = c)).map (·.1)

theorem find?_indexed (c : Char) (i : Nat) (s : List Char) :
    ((indexed i s).find? (·.2 = c)).map (·.1) =
      (cut c s).map fun parts => i + byteLength parts.1 := by
  induction s generalizing i with
  | nil => rfl
  | cons d s ih =>
    rw [indexed, cut]
    by_cases hd : d = c
    · simp [hd]
    · rw [List.find?_cons_of_neg (by simpa using hd), ih, if_neg hd, Option.map_map]
      congr 1
      funext parts
      simp [Nat.add_assoc]

/-- The first occurrence of a character comes where the text is cut at it. -/
theorem offset?_eq (c : Char) (s : List Char) :
    offset? c s = (cut c s).map fun parts => byteLength parts.1 := by
  rw [offset?, find?_indexed]
  simp only [Nat.zero_add]

/-! ### Cutting -/

/-- How a text is cut: what a character does to the state of the scan, at which characters the text
is cut, and in which states it may end.  After a cut the scan goes on one byte later. -/
structure Cutter (σ : Type) where
  step : σ → Char → Except Violation σ
  isCut : σ → Char → Bool
  finish : σ → Except Violation Unit
  one_byte : ∀ state c, isCut state c = true → c.utf8Size = 1

/-- A scan on its way: the pieces so far, where the piece at hand starts, and the state. -/
structure Scan (σ : Type) where
  pieces : List (List Char)
  start : Nat
  state : σ

namespace Cutter

variable {σ : Type} (k : Cutter σ)

/-- The pieces of a text, by recursion over its characters. -/
def pieces : σ → List Char → Except Violation (List (List Char))
  | state, [] => do
    k.finish state
    return [[]]
  | state, c :: rest =>
    if k.isCut state c then do
      let ps ← pieces state rest
      return [] :: ps
    else do
      let state ← k.step state c
      let ps ← pieces state rest
      return ps.modifyHead (c :: ·)

theorem pieces_of_isCut {state : σ} {c : Char} (hcut : k.isCut state c = true)
    (rest : List Char) : k.pieces state (c :: rest) = (k.pieces state rest).map ([] :: ·) := by
  rw [pieces, if_pos hcut]
  rfl

theorem pieces_of_step {state state' : σ} {c : Char} (hcut : k.isCut state c = false)
    (hstep : k.step state c = .ok state') (rest : List Char) :
    k.pieces state (c :: rest) = (k.pieces state' rest).map (List.modifyHead (c :: ·)) := by
  rw [pieces, hcut, hstep]
  rfl

/-- One character of a scan, at its offset. -/
def scanStep (text : List Char) (scan : Scan σ) : Nat × Char → Slicing (Scan σ)
  | (i, c) =>
    if k.isCut scan.state c then do
      let piece ← slice? text scan.start i
      return { scan with pieces := scan.pieces ++ [piece], start := i + 1 }
    else do
      let state ← k.step scan.state c
      return { scan with state }

/-- What is left of a scan. -/
def scanRest (text : List Char) (scan : Scan σ) (rest : List (Nat × Char)) :
    Slicing (List (List Char)) := do
  let scan ← rest.foldlM (k.scanStep text) scan
  k.finish scan.state
  let last ← slice? text scan.start (byteLength text)
  return scan.pieces ++ [last]

/-- The pieces of a text, by slices. -/
def scan (state : σ) (text : List Char) : Slicing (List (List Char)) :=
  k.scanRest text ⟨[], 0, state⟩ (indexed 0 text)

theorem scanRest_cons (text : List Char) (scan : Scan σ) (at? : Nat × Char)
    (rest : List (Nat × Char)) :
    k.scanRest text scan (at? :: rest) =
      k.scanStep text scan at? >>= fun scan => k.scanRest text scan rest := by
  rw [scanRest, List.foldlM_cons, bind_assoc]
  rfl

theorem modifyHead_nil_append (ps : List (List Char)) : ps.modifyHead ([] ++ ·) = ps := by
  cases ps <;> rfl

/-- After a part of the text, the scan is where that part ends. -/
theorem scanRest_gives (done : List (List Char)) (before current rest : List Char) (state : σ) :
    Slicing.Gives
      (k.scanRest (before ++ current ++ rest) ⟨done, byteLength before, state⟩
        (indexed (byteLength (before ++ current)) rest))
      (do
        let ps ← k.pieces state rest
        return done ++ ps.modifyHead (current ++ ·)) := by
  -- on what is left of the text, for every place where the piece at hand may have started
  induction rest generalizing done before current state with
  | nil =>
    rw [indexed, scanRest, List.foldlM_nil, pure_bind, pieces, bind_assoc]
    refine (Slicing.gives_except _).bind fun _ _ => ?_
    have hlast := slice?_append before current []
    rw [List.append_nil] at hlast ⊢
    refine Slicing.gives_slice_bind hlast ?_
    rw [pure_bind, List.modifyHead_cons, List.append_nil]
    exact Slicing.gives_pure _
  | cons c rest ih =>
    rw [indexed, scanRest_cons, scanStep, pieces]
    split
    · next hc =>
      rw [bind_assoc, bind_assoc]
      refine Slicing.gives_slice_bind (slice?_append before current (c :: rest)) ?_
      rw [pure_bind]
      -- the next piece starts after the character cut at, with nothing in it so far
      have hafter := ih (done ++ [current]) (before ++ current ++ [c]) [] state
      simp only [modifyHead_nil_append] at hafter
      simpa [k.one_byte _ _ hc, Nat.add_assoc] using hafter
    · rw [bind_assoc, bind_assoc]
      refine (Slicing.gives_except _).bind fun state' _ => ?_
      rw [pure_bind, bind_assoc]
      have hafter := ih done before (current ++ [c]) state'
      -- the piece at hand is longer by a character
      simpa [List.modifyHead_modifyHead, Function.comp_def, Nat.add_assoc] using hafter

/-- **A scan takes no slice out of bounds**, and gives the pieces of the text. -/
theorem scan_gives (state : σ) (text : List Char) :
    Slicing.Gives (k.scan state text) (k.pieces state text) := by
  have hall := k.scanRest_gives [] [] [] text state
  simp only [modifyHead_nil_append] at hall
  simp only [List.nil_append, bind_pure] at hall
  exact hall

end Cutter

end Graft.Text
