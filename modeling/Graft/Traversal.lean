/-
Graft/Traversal.lean

Steps that may fail, and traversals that stop at the first failure.

A row of steps succeeds just if each of them does (`bind_eq_ok_iff`), and a step
that fails in other words fails and succeeds as before (`mapError_eq_ok_iff`).
`as.mapM f` with an `f` that may fail gives the results of all of `as`, in
order (`mapM_eq_ok_iff`), or the failure of the first that fails
(`mapM_eq_error_iff`).
-/
namespace Graft

/-! ### Steps that may fail -/

section

variable {α β : Type}

theorem bind_eq_ok_iff {ε : Type} {x : Except ε α} {f : α → Except ε β} {b : β} :
    (x >>= f) = .ok b ↔ ∃ a, x = .ok a ∧ f a = .ok b := by
  cases x with
  | error e =>
    constructor
    · intro h
      cases h
    · rintro ⟨a, ha, -⟩
      cases ha
  | ok a =>
    constructor
    · intro h
      exact ⟨a, rfl, h⟩
    · rintro ⟨a', ha, h⟩
      cases ha
      exact h

theorem bind_eq_error_iff {ε : Type} {x : Except ε α} {f : α → Except ε β} {e : ε} :
    (x >>= f) = .error e ↔ x = .error e ∨ ∃ a, x = .ok a ∧ f a = .error e := by
  cases x with
  | error e' =>
    constructor
    · intro h
      cases h
      exact .inl rfl
    · rintro (h | ⟨a, ha, -⟩)
      · cases h
        rfl
      · cases ha
  | ok a =>
    constructor
    · intro h
      exact .inr ⟨a, rfl, h⟩
    · rintro (h | ⟨a', ha, h⟩)
      · cases h
      · cases ha
        exact h

theorem map_eq_ok_iff {ε : Type} {x : Except ε α} {f : α → β} {b : β} :
    x.map f = .ok b ↔ ∃ a, x = .ok a ∧ f a = b := by
  cases x with
  | error e =>
    constructor
    · intro h
      cases h
    · rintro ⟨a, ha, -⟩
      cases ha
  | ok a =>
    constructor
    · intro h
      cases h
      exact ⟨a, rfl, rfl⟩
    · rintro ⟨a', ha, rfl⟩
      cases ha
      rfl

theorem toOption_eq_some_iff {ε : Type} {x : Except ε α} {a : α} :
    x.toOption = some a ↔ x = .ok a := by
  cases x <;> simp [Except.toOption]

section

variable {ε ε' : Type} {x : Except ε α} {f : ε → ε'}

theorem mapError_eq_ok_iff {a : α} : x.mapError f = .ok a ↔ x = .ok a := by
  cases x with
  | error e =>
    constructor
    · intro h
      cases h
    · intro h
      cases h
  | ok a' =>
    constructor
    · intro h
      cases h
      rfl
    · intro h
      cases h
      rfl

theorem mapError_eq_error_iff {e' : ε'} :
    x.mapError f = .error e' ↔ ∃ e, x = .error e ∧ e' = f e := by
  cases x with
  | error e =>
    constructor
    · intro h
      cases h
      exact ⟨e, rfl, rfl⟩
    · rintro ⟨e₁, he, rfl⟩
      cases he
      rfl
  | ok a =>
    constructor
    · intro h
      cases h
    · rintro ⟨e, he, -⟩
      cases he

end

end

/-! ### Traversals -/

section

variable {ε α β : Type} {f : α → Except ε β} {as : List α} {bs : List β}

/-- A traversal gives some results just if they are the results of its steps. -/
theorem mapM_eq_ok_iff : as.mapM f = .ok bs ↔ as.map f = bs.map .ok := by
  constructor
  · intro h
    induction as generalizing bs with
    | nil =>
      cases h
      rfl
    | cons a rest ih =>
      rw [List.mapM_cons] at h
      obtain ⟨b, hb, h⟩ := bind_eq_ok_iff.1 h
      obtain ⟨bs, hrest, h⟩ := bind_eq_ok_iff.1 h
      cases h
      rw [List.map_cons, List.map_cons, hb, ih hrest]
  · intro h
    induction as generalizing bs with
    | nil =>
      obtain rfl := List.map_eq_nil_iff.1 h.symm
      rfl
    | cons a rest ih =>
      obtain ⟨b, bs, rfl, hb, hrest⟩ := List.map_eq_cons_iff.1 h.symm
      rw [List.mapM_cons, ← hb, ih hrest.symm]
      rfl

/-- A traversal fails as the first of its steps that fails. -/
theorem mapM_eq_error_iff {e : ε} :
    as.mapM f = .error e ↔
      ∃ before a after bs, as = before ++ a :: after ∧ before.mapM f = .ok bs ∧ f a = .error e := by
  constructor
  · intro h
    induction as with
    | nil => cases h
    | cons a rest ih =>
      rw [List.mapM_cons] at h
      obtain ha | ⟨b, hb, h⟩ := bind_eq_error_iff.1 h
      · exact ⟨[], a, rest, [], rfl, rfl, ha⟩
      · obtain hrest | ⟨_, -, h⟩ := bind_eq_error_iff.1 h
        · obtain ⟨before, a', after, bs, rfl, hbefore, ha'⟩ := ih hrest
          refine ⟨a :: before, a', after, b :: bs, rfl, ?_, ha'⟩
          rw [List.mapM_cons, hb, hbefore]
          rfl
        · cases h
  · rintro ⟨before, a, after, bs, rfl, hbefore, ha⟩
    rw [List.mapM_append, hbefore, List.mapM_cons, ha]
    rfl

/-- What `mapM` gives is related to what it was given, element by element. -/
theorem forall_of_mapM_ok {R : β → Prop} (h : as.mapM f = .ok bs)
    (hf : ∀ a ∈ as, ∀ b, f a = .ok b → R b) : ∀ b ∈ bs, R b := by
  intro b hb
  have hmem : .ok b ∈ as.map f := mapM_eq_ok_iff.1 h ▸ List.mem_map_of_mem hb
  obtain ⟨a, ha, hab⟩ := List.mem_map.1 hmem
  exact hf a ha b hab

theorem length_of_mapM_ok (h : as.mapM f = .ok bs) : bs.length = as.length := by
  have hlength := congrArg List.length (mapM_eq_ok_iff.1 h)
  rw [List.length_map, List.length_map] at hlength
  exact hlength.symm

/-- Where each step turns `a` into something that has the same `g` as `a` has, so does the whole
traversal. -/
theorem map_eq_of_mapM_ok {γ : Type} {g : β → γ} {k : α → γ} (hf : ∀ a b, f a = .ok b → g b = k a)
    (h : as.mapM f = .ok bs) : bs.map g = as.map k := by
  have hmap := mapM_eq_ok_iff.1 h
  clear h
  induction as generalizing bs with
  | nil =>
    obtain rfl := List.map_eq_nil_iff.1 hmap.symm
    rfl
  | cons a rest ih =>
    obtain ⟨b, bs, rfl, hb, hrest⟩ := List.map_eq_cons_iff.1 hmap.symm
    rw [List.map_cons, List.map_cons, hf a b hb.symm, ih hrest.symm]

/-- Each of the things that were traversed has its result among the results. -/
theorem exists_of_mapM_ok (h : as.mapM f = .ok bs) {a : α} (ha : a ∈ as) :
    ∃ b ∈ bs, f a = .ok b := by
  have hmem : f a ∈ bs.map Except.ok := mapM_eq_ok_iff.1 h ▸ List.mem_map_of_mem ha
  obtain ⟨b, hb, heq⟩ := List.mem_map.1 hmem
  exact ⟨b, hb, heq.symm⟩

end

end Graft
