/-
Graft/Proofs/Monitor/Truncation.lean

Cutting statements short.

What is told of a long statement is its longest start of whole characters that fits
into so many bytes, and three dots (`displaySql_limited`).

The cut is found in two ways: forwards, by taking characters while there is room, and
backwards, by going down from the limit to the boundary of a character.  Both end at
the same place, for one reason: of the starts of a text, those that fit are just the
starts of what is kept (`prefix_takeBytes_iff`).
-/
import Graft.Proofs.Text.Slice

namespace Graft

open Text

/-! ### Going forwards -/

/-- The starts of a text that fit are the starts of what is kept of it. -/
theorem prefix_takeBytes_iff {room : Nat} {s t : List Char} (h : t <+: s) :
    t <+: takeBytes room s ↔ byteLength t ≤ room := by
  induction s generalizing room t with
  | nil =>
    obtain rfl := List.prefix_nil.1 h
    simp
  | cons c s ih =>
    cases t with
    | nil => simp
    | cons d t =>
      obtain ⟨rfl, hrest⟩ := List.cons_prefix_cons.1 h
      rw [takeBytes, byteLength_cons]
      split
      · next hroom =>
        rw [List.cons_prefix_cons, ih hrest, and_iff_right rfl]
        omega
      -- Without room for the first character nothing is taken.
      · next hroom =>
        rw [List.prefix_nil]
        constructor
        · intro hnil
          cases hnil
        · omega

theorem byteLength_mono {s t : List Char} (h : t <+: s) : byteLength t ≤ byteLength s := by
  obtain ⟨rest, rfl⟩ := h
  rw [byteLength_append]
  exact Nat.le_add_right _ _

theorem takeBytes_starts (room : Nat) (s : List Char) : takeBytes room s <+: s := by
  induction s generalizing room with
  | nil => exact List.nil_prefix
  | cons c s ih =>
    rw [takeBytes]
    split
    · exact List.cons_prefix_cons.2 ⟨rfl, ih _⟩
    · exact List.nil_prefix

theorem byteLength_takeBytes_le (room : Nat) (s : List Char) :
    byteLength (takeBytes room s) ≤ room :=
  (prefix_takeBytes_iff (takeBytes_starts room s)).1 (List.prefix_refl _)

theorem takeBytes_of_fits {room : Nat} {s : List Char} (h : byteLength s ≤ room) :
    takeBytes room s = s :=
  (takeBytes_starts room s).eq_of_length_le
    ((prefix_takeBytes_iff (List.prefix_refl s)).2 h).length_le

-- the limit falls into the second character
example : takeBytes 3 ['é', 'é', 'é'] = ['é'] := by decide

/-! ### Going backwards -/

/-- The last boundary of a character at or before an offset, by going down from there. -/
def boundaryBelow (s : List Char) : Nat → Nat
  | 0 => 0
  | n + 1 =>
    if String.Pos.Raw.IsValid (String.ofList s) ⟨n + 1⟩ then n + 1 else boundaryBelow s n

/-- A text cut short at the last boundary before a limit. -/
def truncateBySlices (max : Nat) (s : List Char) : Option (List Char) :=
  if byteLength s ≤ max then some s else slice? s 0 (boundaryBelow s max)

/-- The boundaries in a text are where its starts end. -/
theorem isValid_iff_exists_start {s : List Char} {n : Nat} :
    String.Pos.Raw.IsValid (String.ofList s) ⟨n⟩ ↔ ∃ t, t <+: s ∧ byteLength t = n := by
  constructor
  · intro h
    obtain ⟨l, r, hs, hn⟩ := String.Pos.Raw.isValid_iff_exists_append.1 h
    refine ⟨l.toList, ⟨r.toList, ?_⟩, ?_⟩
    · rw [← String.toList_append, ← hs, String.toList_ofList]
    · rw [byteLength_eq_utf8ByteSize, String.ofList_toList]
      exact (congrArg String.Pos.Raw.byteIdx hn).symm
  · rintro ⟨t, ⟨r, rfl⟩, rfl⟩
    exact isValid_byteLength t r

theorem boundaryBelow_eq (s : List Char) (max : Nat) :
    boundaryBelow s max = byteLength (takeBytes max s) := by
  induction max with
  | zero =>
    have hle := byteLength_takeBytes_le 0 s
    rw [boundaryBelow]
    omega
  | succ n ih =>
    have hle := byteLength_takeBytes_le (n + 1) s
    rw [boundaryBelow]
    split
    · next hboundary =>
      -- what ends at the limit is kept
      obtain ⟨t, ht, hn⟩ := isValid_iff_exists_start.1 hboundary
      have hkept := byteLength_mono ((prefix_takeBytes_iff ht).2 (Nat.le_of_eq hn))
      omega
    · next hboundary =>
      -- what is kept does not end at the limit, so it would fit into one byte less
      have hne : byteLength (takeBytes (n + 1) s) ≠ n + 1 := fun hn =>
        hboundary (isValid_iff_exists_start.2 ⟨_, takeBytes_starts _ s, hn⟩)
      have hless : takeBytes (n + 1) s <+: takeBytes n s :=
        (prefix_takeBytes_iff (takeBytes_starts _ s)).2 (by omega)
      have hmore : takeBytes n s <+: takeBytes (n + 1) s :=
        (prefix_takeBytes_iff (takeBytes_starts _ s)).2 (by
          have := byteLength_takeBytes_le n s
          omega)
      rw [ih]
      exact Nat.le_antisymm (byteLength_mono hmore) (byteLength_mono hless)

theorem truncateBySlices_eq (max : Nat) (s : List Char) :
    truncateBySlices max s = some (takeBytes max s) := by
  rw [truncateBySlices]
  split
  · next h => rw [takeBytes_of_fits h]
  · obtain ⟨rest, hrest⟩ := takeBytes_starts max s
    have hslice := slice?_append [] (takeBytes max s) rest
    rw [List.nil_append, hrest] at hslice
    rw [boundaryBelow_eq]
    exact hslice

/-! ### What is told -/

/-- The longest start of a text, of whole characters, that fits into so many bytes. -/
structure IsLongestStart (max : Nat) (text kept : String) : Prop where
  start : kept.toList <+: text.toList
  fits : kept.utf8ByteSize ≤ max
  longest : ∀ longer : String, longer.toList <+: text.toList →
    kept.toList.length < longer.toList.length → max < longer.utf8ByteSize

theorem byteLength_toList (text : String) : byteLength text.toList = text.utf8ByteSize := by
  rw [byteLength_eq_utf8ByteSize, String.ofList_toList]

theorem isLongestStart_takeBytes (max : Nat) (text : String) :
    IsLongestStart max text (String.ofList (takeBytes max text.toList)) where
  start := by
    rw [String.toList_ofList]
    exact takeBytes_starts max text.toList
  fits := by
    rw [← byteLength_eq_utf8ByteSize]
    exact byteLength_takeBytes_le max text.toList
  longest := by
    intro longer hstart hlonger
    rw [String.toList_ofList] at hlonger
    rw [← byteLength_toList, ← Nat.not_le, ← prefix_takeBytes_iff hstart]
    intro hfits
    exact absurd hfits.length_le (by omega)

/-- **Long statements are cut short at a whole character.**  What is kept is the longest start that
fits into the limit, wherever that falls, and going back from the limit finds it.  A statement that
fits is told of as it is; of a longer one the start is told, and three dots. -/
theorem displaySql_limited (m : MonitorSettings) (max : Nat) (sql : String) :
    let kept := String.ofList (takeBytes max sql.toList)
    let shown := { m with maxSqlLength? := some max }.displaySql sql
    IsLongestStart max sql kept ∧ truncateBySlices max sql.toList = some kept.toList ∧
      (sql.utf8ByteSize ≤ max → shown = sql) ∧ (max < sql.utf8ByteSize → shown = kept ++ "...") ∧
      shown.utf8ByteSize ≤ max + 3 := by
  intro kept shown
  have hshown : shown = if sql.utf8ByteSize ≤ max then sql else kept ++ "..." := by
    change abbreviate max sql = _
    rw [abbreviate, byteLength_toList]
  have hkept := isLongestStart_takeBytes max sql
  refine ⟨hkept, ?_, ?_, ?_, ?_⟩
  · rw [truncateBySlices_eq, String.toList_ofList]
  · intro hfits
    rw [hshown, if_pos hfits]
  · intro hlong
    rw [hshown, if_neg (Nat.not_le.2 hlong)]
  · rw [hshown]
    split
    · omega
    · rw [String.utf8ByteSize_append]
      exact Nat.add_le_add_right hkept.fits 3

end Graft
