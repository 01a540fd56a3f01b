/-
Graft/Proofs/Text/Slice.lean

Slices of a text, between offsets in bytes.

Offsets bound a slice if they are in order and each lies between two characters
(`Bounds`), which the bytes of the text decide.  Between any other offsets there is
no slice, and whoever takes one has no result at all: `Slicing` is the monad of such
computations.

The offsets that come up are byte lengths of what stands before them, and between
those there is a slice, the text in between: `slice?_append`.
-/
import Graft.Monitor

namespace Graft

/-! ### Lengths in bytes -/

@[simp] theorem byteLength_nil : byteLength [] = 0 := rfl

@[simp] theorem byteLength_cons (c : Char) (s : List Char) :
    byteLength (c :: s) = c.utf8Size + byteLength s := rfl

@[simp] theorem byteLength_append (s t : List Char) :
    byteLength (s ++ t) = byteLength s + byteLength t := by
  induction s with
  | nil => simp
  | cons c s ih => rw [List.cons_append, byteLength_cons, ih, byteLength_cons, Nat.add_assoc]

theorem byteLength_eq_utf8ByteSize (s : List Char) :
    byteLength s = (String.ofList s).utf8ByteSize := by
  induction s with
  | nil => rfl
  | cons c s ih =>
    rw [byteLength_cons, ih, ← List.singleton_append, String.ofList_append,
      String.utf8ByteSize_append, ← String.singleton_eq_ofList, String.utf8ByteSize_singleton]

namespace Text

/-! ### Slices -/

/-- The offsets bound a slice of the text: they are in order, within the text, and each at the
boundary of a character. -/
structure Bounds (s : List Char) (start stop : Nat) : Prop where
  ordered : start ≤ stop
  inside : stop ≤ (String.ofList s).utf8ByteSize
  start_boundary : String.Pos.Raw.IsValid (String.ofList s) ⟨start⟩
  stop_boundary : String.Pos.Raw.IsValid (String.ofList s) ⟨stop⟩

instance (s : List Char) (start stop : Nat) : Decidable (Bounds s start stop) :=
  decidable_of_iff
    (start ≤ stop ∧ stop ≤ (String.ofList s).utf8ByteSize ∧
      String.Pos.Raw.IsValid (String.ofList s) ⟨start⟩ ∧
      String.Pos.Raw.IsValid (String.ofList s) ⟨stop⟩)
    ⟨fun ⟨h₁, h₂, h₃, h₄⟩ => ⟨h₁, h₂, h₃, h₄⟩, fun ⟨h₁, h₂, h₃, h₄⟩ => ⟨h₁, h₂, h₃, h₄⟩⟩

/-- The slice of a text between two offsets, in bytes; none if they do not bound one. -/
def slice? (s : List Char) (start stop : Nat) : Option (List Char) :=
  if h : Bounds s start stop then
    some (String.extract ⟨⟨start⟩, h.start_boundary⟩ ⟨⟨stop⟩, h.stop_boundary⟩).toList
  else none

/-- What lies before a place in a text ends at the boundary of a character. -/
theorem isValid_byteLength (l r : List Char) :
    String.Pos.Raw.IsValid (String.ofList (l ++ r)) ⟨byteLength l⟩ := by
  rw [String.Pos.Raw.isValid_iff_exists_append]
  refine ⟨String.ofList l, String.ofList r, String.ofList_append, ?_⟩
  rw [byteLength_eq_utf8ByteSize]
  rfl

theorem bounds_append (l m r : List Char) :
    Bounds (l ++ m ++ r) (byteLength l) (byteLength (l ++ m)) where
  ordered := by simp
  inside := by
    rw [← byteLength_eq_utf8ByteSize]
    simp
  start_boundary := by
    rw [List.append_assoc]
    exact isValid_byteLength l (m ++ r)
  stop_boundary := isValid_byteLength (l ++ m) r

/-- The bytes between the end of what stands before a text and the end of that text. -/
theorem extract_toByteArray (l m r : List Char) :
    (String.ofList (l ++ m ++ r)).toByteArray.extract (byteLength l) (byteLength (l ++ m)) =
      (String.ofList m).toByteArray := by
  have hskip : ((String.ofList l).toByteArray ++ (String.ofList (m ++ r)).toByteArray).extract
      ((String.ofList l).toByteArray.size + 0)
      ((String.ofList l).toByteArray.size + (String.ofList m).toByteArray.size) =
        (String.ofList (m ++ r)).toByteArray.extract 0 (String.ofList m).toByteArray.size :=
    ByteArray.extract_append_size_add
  rw [byteLength_append, byteLength_eq_utf8ByteSize, byteLength_eq_utf8ByteSize,
    ← String.size_toByteArray, ← String.size_toByteArray, List.append_assoc, String.ofList_append,
    String.toByteArray_append]
  refine hskip.trans ?_
  rw [String.ofList_append, String.toByteArray_append, ByteArray.extract_append_eq_left rfl]

/-- The slice between the end of what stands before a text and the end of that text. -/
theorem slice?_append (l m r : List Char) :
    slice? (l ++ m ++ r) (byteLength l) (byteLength (l ++ m)) = some m := by
  have hbounds := bounds_append l m r
  have hextract : String.extract ⟨⟨byteLength l⟩, hbounds.start_boundary⟩
      ⟨⟨byteLength (l ++ m)⟩, hbounds.stop_boundary⟩ = String.ofList m := by
    rw [← String.toByteArray_inj, String.toByteArray_extract]
    exact extract_toByteArray l m r
  rw [slice?, dif_pos hbounds, hextract, String.toList_ofList]

/-! ### Computations that slice -/

/-- A computation that slices texts, and may find a violation.  It has no result at all if it takes a
slice between offsets that do not bound one. -/
abbrev Slicing (α : Type) :=
  ExceptT Violation Option α

namespace Slicing

variable {α β : Type}

/-- Every slice that the computation takes has its bounds, and what comes of it is this. -/
def Gives (x : Slicing α) (r : Except Violation α) : Prop :=
  x.run = some r

theorem gives_pure (a : α) : Gives (pure a) (.ok a) := rfl

theorem gives_throw (v : Violation) : Gives (throw v : Slicing α) (.error v) := rfl

theorem gives_except (r : Except Violation α) : Gives (liftM r) r := rfl

theorem gives_slice_bind {s : List Char} {start stop : Nat} {piece : List Char}
    {f : List Char → Slicing α} {r : Except Violation α} (h : slice? s start stop = some piece)
    (hf : Gives (f piece) r) : Gives (liftM (slice? s start stop) >>= f) r := by
  rw [h]
  exact hf

theorem Gives.bind {x : Slicing α} {r : Except Violation α} {f : α → Slicing β}
    {g : α → Except Violation β} (hx : Gives x r) (hf : ∀ a, r = .ok a → Gives (f a) (g a)) :
    Gives (x >>= f) (r >>= g) := by
  rw [Gives] at hx ⊢
  rw [ExceptT.run_bind, hx]
  cases r with
  | error v => rfl
  | ok a => exact hf a rfl

theorem Gives.map {x : Slicing α} {r : Except Violation α} (hx : Gives x r) (f : α → β) :
    Gives (f <$> x) (r.map f) := by
  rw [Gives] at hx ⊢
  rw [ExceptT.run_map, hx]
  rfl

theorem gives_mapM {f : α → Slicing β} {g : α → Except Violation β} {as : List α}
    (h : ∀ a ∈ as, Gives (f a) (g a)) : Gives (as.mapM f) (as.mapM g) := by
  induction as with
  | nil => exact gives_pure []
  | cons a as ih =>
    rw [List.mapM_cons, List.mapM_cons]
    refine (h a List.mem_cons_self).bind fun b _ => ?_
    exact (ih fun a ha => h a (List.mem_cons_of_mem _ ha)).bind fun bs _ => gives_pure (b :: bs)

end Slicing

end Text

end Graft
