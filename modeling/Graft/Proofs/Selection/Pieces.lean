/-
Graft/Proofs/Selection/Pieces.lean

Cutting at the commas outside parentheses, and joining again.

Some texts are what an expression is cut into just if the expression is these
texts joined by commas, and each of them is one piece: its parentheses match,
and it has no comma outside of them (`splitTopLevel_eq_ok_iff_joined`).

`uncut?` looks for such commas, and follows the parentheses as it goes.  It
takes a text apart anywhere (`uncut?_append`), so what is known of a text that
is put together of others is known from these.

`Matched` says in counts that the parentheses of a text match: no start of it
closes more than it opens, and all of it closes as many as it opens.  This is
what `Balanced` finds out in one pass (`balanced_iff_matched`).
-/
import Graft.Selection.Columns
import Mathlib.Data.List.Infix

namespace Graft.Selection

/-! ### Depths -/

/-- The depth after one more character; none if it closes what is not open. -/
def openStep? (depth : Nat) (c : Char) : Option Nat :=
  if c = ')' ∧ depth = 0 then none else some (depthStep depth c)

theorem depthAfter?_eq_foldlM (depth : Nat) (s : List Char) :
    depthAfter? depth s = s.foldlM openStep? depth := by
  induction s generalizing depth with
  | nil => rfl
  | cons c s ih =>
    rw [depthAfter?, List.foldlM_cons, openStep?, depthStep, ih, ih, ih]
    by_cases hopen : c = '('
    · simp [hopen]
    · by_cases hclose : c = ')'
      · cases depth <;> simp [hclose]
      · simp [hopen, hclose]

theorem depthAfter?_append (depth : Nat) (s t : List Char) :
    depthAfter? depth (s ++ t) = (depthAfter? depth s).bind (depthAfter? · t) := by
  simp only [depthAfter?_eq_foldlM, List.foldlM_append]
  rfl

theorem depthAfter?_cons_eq_some_iff {depth after : Nat} {c : Char} {s : List Char} :
    depthAfter? depth (c :: s) = some after ↔
      ¬(c = ')' ∧ depth = 0) ∧ depthAfter? (depthStep depth c) s = some after := by
  rw [depthAfter?_eq_foldlM, List.foldlM_cons, openStep?, depthAfter?_eq_foldlM]
  split <;> simp_all

/-- The starts of a text are the empty one, and those that go on after its first character. -/
theorem forall_prefix_cons_iff {c : Char} {s : List Char} {P : List Char → Prop} :
    (∀ p, p <+: c :: s → P p) ↔ P [] ∧ ∀ p, p <+: s → P (c :: p) := by
  constructor
  · intro h
    exact ⟨h [] List.nil_prefix, fun p hp => h _ ((List.prefix_cons_inj c).2 hp)⟩
  · rintro ⟨hnil, hcons⟩ p hp
    obtain rfl | ⟨q, rfl, hq⟩ := List.prefix_cons_iff.1 hp
    · exact hnil
    · exact hcons q hq

/-- The depth is what is open at the start and what is opened, less what is closed; it may never
fall below zero on the way. -/
theorem depthAfter?_eq_some_iff {depth after : Nat} {s : List Char} :
    depthAfter? depth s = some after ↔
      (∀ p, p <+: s → p.count ')' ≤ depth + p.count '(') ∧
        after + s.count ')' = depth + s.count '(' := by
  induction s generalizing depth with
  | nil => simp [depthAfter?, eq_comm]
  | cons c s ih =>
    rw [depthAfter?, forall_prefix_cons_iff]
    by_cases hopen : c = '('
    · subst hopen
      simp [ih, Nat.add_right_comm, Nat.add_assoc]
    · by_cases hclose : c = ')'
      · subst hclose
        cases depth with
        | zero =>
          -- what is closed first is not open
          simp only [hopen, if_false, if_true]
          refine iff_of_false (by simp) fun h => ?_
          have hfirst := h.1.2 [] List.nil_prefix
          simp at hfirst
        | succ depth =>
          have hstep : ∀ m n : Nat, m + 1 ≤ depth + 1 + n ↔ m ≤ depth + n := by omega
          have htotal : ∀ m n : Nat, after + (m + 1) = depth + 1 + n ↔ after + m = depth + n := by
            omega
          simp [ih, hstep, htotal]
      · simp [hopen, hclose, ih]

/-- The parentheses of a text match: no start of it closes more than it opens, and it closes as
many as it opens. -/
structure Matched (s : List Char) : Prop where
  starts : ∀ p, p <+: s → p.count ')' ≤ p.count '('
  total : s.count '(' = s.count ')'

theorem balanced_iff_matched {s : List Char} : Balanced s ↔ Matched s := by
  rw [Balanced, depthAfter?_eq_some_iff]
  simp only [Nat.zero_add]
  exact ⟨fun h => ⟨h.1, h.2.symm⟩, fun h => ⟨h.starts, h.total.symm⟩⟩

/-! ### One piece -/

/-- The depth after one more character; none if it closes what is not open, or is a comma outside
of all parentheses. -/
def pieceStep? (depth : Nat) (c : Char) : Option Nat :=
  if c = ',' ∧ depth = 0 then none else openStep? depth c

/-- The number of open parentheses after a text of which `depth` are open at the start; none if a
parenthesis is closed that is not open, or a comma stands outside of all parentheses. -/
def uncut? (depth : Nat) (s : List Char) : Option Nat :=
  s.foldlM pieceStep? depth

/-- The text is one piece of an expression: balanced, and without a comma outside parentheses. -/
def IsPiece (s : List Char) : Prop :=
  uncut? 0 s = some 0

theorem uncut?_append (depth : Nat) (s t : List Char) :
    uncut? depth (s ++ t) = (uncut? depth s).bind (uncut? · t) := by
  simp only [uncut?, List.foldlM_append]
  rfl

theorem uncut?_cons_eq_some_iff {depth after : Nat} {c : Char} {s : List Char} :
    uncut? depth (c :: s) = some after ↔
      ¬(c = ',' ∧ depth = 0) ∧ ¬(c = ')' ∧ depth = 0) ∧
        uncut? (depthStep depth c) s = some after := by
  rw [uncut?, List.foldlM_cons, pieceStep?, openStep?, uncut?]
  split
  · simp_all
  · split <;> simp_all

/-- Where there is nothing to look for, the depth stays the same. -/
theorem uncut?_of_plain {s : List Char} (hopen : '(' ∉ s) (hclose : ')' ∉ s) (hcomma : ',' ∉ s)
    (depth : Nat) : uncut? depth s = some depth := by
  induction s with
  | nil => rfl
  | cons c s ih =>
    obtain ⟨hc₁, hopen⟩ := List.ne_and_not_mem_of_not_mem_cons hopen
    obtain ⟨hc₂, hclose⟩ := List.ne_and_not_mem_of_not_mem_cons hclose
    obtain ⟨hc₃, hcomma⟩ := List.ne_and_not_mem_of_not_mem_cons hcomma
    have hstep : depthStep depth c = depth := by
      simp [depthStep, hc₁.symm, hc₂.symm]
    refine uncut?_cons_eq_some_iff.2 ⟨by simp [hc₃.symm], by simp [hc₂.symm], ?_⟩
    rw [hstep]
    exact ih hopen hclose hcomma

/-- Before its first parenthesis, a piece has no comma and closes nothing. -/
theorem plain_of_uncut? {s : List Char} {after : Nat} (h : uncut? 0 s = some after)
    (hopen : '(' ∉ s) : ')' ∉ s ∧ ',' ∉ s := by
  induction s with
  | nil => exact ⟨List.not_mem_nil, List.not_mem_nil⟩
  | cons c s ih =>
    obtain ⟨hc, hopen⟩ := List.ne_and_not_mem_of_not_mem_cons hopen
    obtain ⟨hcomma, hclose, hrest⟩ := uncut?_cons_eq_some_iff.1 h
    have hstep : depthStep 0 c = 0 := by
      simp [depthStep, hc.symm]
    rw [hstep] at hrest
    have hrest := ih hrest hopen
    simp_all [eq_comm]

/-- What a piece is in front of its first parenthesis and after it. -/
theorem isPiece_append_iff {head tail : List Char} (hopen : '(' ∉ head) :
    IsPiece (head ++ '(' :: tail) ↔ ')' ∉ head ∧ ',' ∉ head ∧ uncut? 1 tail = some 0 := by
  rw [IsPiece, uncut?_append]
  constructor
  · intro h
    obtain ⟨depth, hhead, htail⟩ := Option.bind_eq_some_iff.1 h
    obtain ⟨hclose, hcomma⟩ := plain_of_uncut? hhead hopen
    rw [uncut?_of_plain hopen hclose hcomma] at hhead
    cases hhead
    exact ⟨hclose, hcomma, htail⟩
  · rintro ⟨hclose, hcomma, htail⟩
    rw [uncut?_of_plain hopen hclose hcomma]
    exact htail

theorem depthAfter?_of_uncut? {depth after : Nat} {s : List Char}
    (h : uncut? depth s = some after) : depthAfter? depth s = some after := by
  induction s generalizing depth with
  | nil => exact h
  | cons c s ih =>
    obtain ⟨-, hclose, hrest⟩ := uncut?_cons_eq_some_iff.1 h
    exact depthAfter?_cons_eq_some_iff.2 ⟨hclose, ih hrest⟩

/-! ### Blanks -/

/-- What follows the parentheses of a text can go on after any part of it, and passes over
everything but parentheses and commas. -/
structure Follows (f : Nat → List Char → Option Nat) : Prop where
  append : ∀ depth s t, f depth (s ++ t) = (f depth s).bind (f · t)
  plain : ∀ {s}, '(' ∉ s → ')' ∉ s → ',' ∉ s → ∀ depth, f depth s = some depth

theorem follows_uncut? : Follows uncut? :=
  ⟨uncut?_append, uncut?_of_plain⟩

theorem follows_depthAfter? : Follows depthAfter? :=
  ⟨depthAfter?_append, fun hopen hclose hcomma depth =>
    depthAfter?_of_uncut? (uncut?_of_plain hopen hclose hcomma depth)⟩

namespace Follows

variable {f : Nat → List Char → Option Nat} (hf : Follows f)

include hf

/-- Blanks around a text make no difference. -/
theorem trim (depth : Nat) (s : List Char) : f depth (Text.trim s) = f depth s := by
  have hblank : ∀ {t : List Char}, (∀ c ∈ t, Text.isBlank c = true) →
      ∀ depth, f depth t = some depth := by
    intro t ht
    apply hf.plain
    · exact fun hmem => absurd (ht _ hmem) (by decide)
    · exact fun hmem => absurd (ht _ hmem) (by decide)
    · exact fun hmem => absurd (ht _ hmem) (by decide)
  obtain ⟨l, r, hl, hr, hs⟩ := Text.trim_decompose s
  have htrim : f depth s = f depth (l ++ Text.trim s ++ r) := by rw [← hs]
  rw [htrim, List.append_assoc, hf.append, hblank hl, Option.bind_some, hf.append]
  cases f depth (Text.trim s) with
  | none => rfl
  | some after => exact (hblank hr after).symm

/-- The columns of a relation as they are kept open and close what they did as they were written. -/
theorem orStar (depth : Nat) (body : List Char) :
    f depth (orStar (Text.trim body)) = f depth body := by
  rw [← hf.trim depth body, Selection.orStar]
  split
  · next hblank =>
    rw [hblank, hf.plain (by decide) (by decide) (by decide),
      hf.plain List.not_mem_nil List.not_mem_nil List.not_mem_nil]
  · rfl

end Follows

/-! ### Cutting and joining -/

/-- A text that is not cut goes in front of the first piece of what comes after it. -/
theorem pieces_append {depth after : Nat} {s : List Char} (h : uncut? depth s = some after)
    (rest : List Char) : pieces depth (s ++ rest) = (pieces after rest).modifyHead (s ++ ·) := by
  induction s generalizing depth with
  | nil =>
    cases h
    show pieces after rest = (pieces after rest).modifyHead id
    rw [List.modifyHead_id, id]
  | cons c s ih =>
    obtain ⟨hcomma, -, hrest⟩ := uncut?_cons_eq_some_iff.1 h
    rw [List.cons_append, pieces, if_neg hcomma, ih hrest, List.modifyHead_modifyHead]
    rfl

/-- What a balanced text is cut into are pieces, the first of which may start within
parentheses. -/
theorem isPiece_of_mem_pieces {depth : Nat} {s first : List Char} {rest : List (List Char)}
    (h : depthAfter? depth s = some 0) (hpieces : pieces depth s = first :: rest) :
    uncut? depth first = some 0 ∧ ∀ p ∈ rest, IsPiece p := by
  induction s generalizing depth first rest with
  | nil =>
    cases hpieces
    exact ⟨h, fun p hp => (List.not_mem_nil hp).elim⟩
  | cons c s ih =>
    obtain ⟨hclose, h⟩ := depthAfter?_cons_eq_some_iff.1 h
    rw [pieces] at hpieces
    -- A comma at depth zero ends the first piece, any other character is in it.
    split at hpieces
    · next hcomma =>
      obtain ⟨rfl, rfl⟩ := hcomma
      cases hpieces
      obtain ⟨p, ps, hps⟩ := List.exists_cons_of_ne_nil (pieces_ne_nil 0 s)
      obtain ⟨hp, hrest⟩ := ih h hps
      rw [hps]
      exact ⟨rfl, List.forall_mem_cons.2 ⟨hp, hrest⟩⟩
    · next hcomma =>
      obtain ⟨p, ps, hps⟩ := List.exists_cons_of_ne_nil (pieces_ne_nil (depthStep depth c) s)
      obtain ⟨hp, hrest⟩ := ih h hps
      rw [hps] at hpieces
      cases hpieces
      exact ⟨uncut?_cons_eq_some_iff.2 ⟨hcomma, hclose, hp⟩, hrest⟩

theorem balanced_intercalate {ps : List (List Char)} (h : ∀ p ∈ ps, IsPiece p) :
    Balanced ([','].intercalate ps) := by
  induction ps with
  | nil => rfl
  | cons p rest ih =>
    have hp := depthAfter?_of_uncut? (h p List.mem_cons_self)
    have ih := ih fun q hq => h q (List.mem_cons_of_mem _ hq)
    cases rest with
    | nil => rwa [List.intercalate_singleton]
    | cons q rest =>
      rw [List.intercalate_cons_cons, Balanced, List.append_assoc, depthAfter?_append, hp]
      exact ih

theorem pieces_intercalate {ps : List (List Char)} (hsome : ps ≠ []) (h : ∀ p ∈ ps, IsPiece p) :
    pieces 0 ([','].intercalate ps) = ps := by
  induction ps with
  | nil => exact absurd rfl hsome
  | cons p rest ih =>
    have hp := pieces_append (h p List.mem_cons_self)
    cases rest with
    | nil => simpa [pieces] using hp []
    | cons q rest =>
      have ih := ih (List.cons_ne_nil _ _) fun r hr => h r (List.mem_cons_of_mem _ hr)
      rw [List.intercalate_cons_cons, List.append_assoc, hp, List.singleton_append, pieces,
        if_pos ⟨rfl, rfl⟩, ih, List.modifyHead_cons, List.append_nil]

/-- **An expression is cut into some texts** just if it is these joined by commas, and each of them
is one piece. -/
theorem splitTopLevel_eq_ok_iff_joined {expr : List Char} {ps : List (List Char)} :
    splitTopLevel expr = .ok ps ↔
      ps ≠ [] ∧ (∀ p ∈ ps, IsPiece p) ∧ [','].intercalate ps = expr := by
  rw [splitTopLevel_eq_ok_iff]
  constructor
  · rintro ⟨hbalanced, rfl⟩
    obtain ⟨first, rest, hpieces⟩ := List.exists_cons_of_ne_nil (pieces_ne_nil 0 expr)
    obtain ⟨hfirst, hrest⟩ := isPiece_of_mem_pieces hbalanced hpieces
    refine ⟨pieces_ne_nil 0 expr, ?_, intercalate_pieces 0 expr⟩
    rw [hpieces]
    exact List.forall_mem_cons.2 ⟨hfirst, hrest⟩
  · rintro ⟨hsome, hps, rfl⟩
    exact ⟨balanced_intercalate hps, (pieces_intercalate hsome hps).symm⟩

end Graft.Selection
