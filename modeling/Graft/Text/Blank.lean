/-
Graft/Text/Blank.lean

Blank characters, and the removal of blanks around a text.

Names, select items and operators are all read with the blanks around them
removed.  "Blank" is the Unicode property `White_Space`, which holds of 25
code points; it is wider than the class of blanks in the core library, which
knows four of them.

The laws say what trimming is: it takes away blanks only (`trim_decompose`),
it leaves none at either end (`head?_trim`, `getLast?_trim`), and a text that
has none there is left alone (`trim_of_ends`).
-/
namespace Graft.Text

/-! ### Blank characters -/

/-- The characters with the Unicode property `White_Space`. -/
def isBlank (c : Char) : Bool :=
  let n := c.toNat
  (0x09 ≤ n && n ≤ 0x0D) || n == 0x20 || n == 0x85 || n == 0xA0 || n == 0x1680 ||
    (0x2000 ≤ n && n ≤ 0x200A) || n == 0x2028 || n == 0x2029 || n == 0x202F ||
    n == 0x205F || n == 0x3000

/-! ### Trimming -/

/-- Without the blanks at the start. -/
def trimStart (s : List Char) : List Char :=
  s.dropWhile isBlank

/-- Without the blanks at the end. -/
def trimEnd (s : List Char) : List Char :=
  (s.reverse.dropWhile isBlank).reverse

/-- Without the blanks at either end. -/
def trim (s : List Char) : List Char :=
  trimEnd (trimStart s)

theorem trimStart_decompose (s : List Char) :
    ∃ l, (∀ c ∈ l, isBlank c) ∧ s = l ++ trimStart s :=
  ⟨s.takeWhile isBlank, fun _ hc => List.all_eq_true.1 (List.all_takeWhile (l := s)) _ hc,
    (List.takeWhile_append_dropWhile).symm⟩

theorem trimEnd_decompose (s : List Char) :
    ∃ r, (∀ c ∈ r, isBlank c) ∧ s = trimEnd s ++ r := by
  obtain ⟨l, hl, h⟩ := trimStart_decompose s.reverse
  refine ⟨l.reverse, fun c hc => hl c (List.mem_reverse.1 hc), ?_⟩
  have := congrArg List.reverse h
  simpa [trimEnd, trimStart] using this

/-- Trimming takes away blanks only, and only at the ends. -/
theorem trim_decompose (s : List Char) :
    ∃ l r, (∀ c ∈ l, isBlank c) ∧ (∀ c ∈ r, isBlank c) ∧ s = l ++ trim s ++ r := by
  obtain ⟨l, hl, h₁⟩ := trimStart_decompose s
  obtain ⟨r, hr, h₂⟩ := trimEnd_decompose (trimStart s)
  exact ⟨l, r, hl, hr, by rw [List.append_assoc, trim, ← h₂, ← h₁]⟩

theorem mem_of_mem_trim {c : Char} {s : List Char} (h : c ∈ trim s) : c ∈ s := by
  obtain ⟨l, r, _, _, hs⟩ := trim_decompose s
  rw [hs]
  simp [h]

theorem length_trim_le (s : List Char) : (trim s).length ≤ s.length := by
  obtain ⟨l, r, _, _, hs⟩ := trim_decompose s
  have := congrArg List.length hs
  simp at this
  omega

theorem trimStart_of_head {s : List Char} (h : ∀ c ∈ s.head?, isBlank c = false) :
    trimStart s = s := by
  cases s with
  | nil => rfl
  | cons c r => simp [trimStart, h c (by simp)]

theorem trimEnd_of_getLast {s : List Char} (h : ∀ c ∈ s.getLast?, isBlank c = false) :
    trimEnd s = s := by
  have := trimStart_of_head (s := s.reverse) (by simpa using h)
  rw [trimStart] at this
  rw [trimEnd, this, List.reverse_reverse]

/-- A text without blanks at its ends is left alone. -/
theorem trim_of_ends {s : List Char} (h₁ : ∀ c ∈ s.head?, isBlank c = false)
    (h₂ : ∀ c ∈ s.getLast?, isBlank c = false) : trim s = s := by
  rw [trim, trimStart_of_head h₁, trimEnd_of_getLast h₂]

theorem head?_trimStart (s : List Char) : ∀ c ∈ (trimStart s).head?, isBlank c = false := by
  intro c hc
  have := List.head?_dropWhile_not isBlank s
  rw [trimStart] at hc
  simp_all

theorem getLast?_trimEnd (s : List Char) : ∀ c ∈ (trimEnd s).getLast?, isBlank c = false := by
  intro c hc
  refine head?_trimStart s.reverse c ?_
  simpa [trimEnd, trimStart] using hc

theorem getLast?_trim (s : List Char) : ∀ c ∈ (trim s).getLast?, isBlank c = false :=
  getLast?_trimEnd _

theorem head?_trim (s : List Char) : ∀ c ∈ (trim s).head?, isBlank c = false := by
  intro c hc
  refine head?_trimStart s c ?_
  obtain ⟨r, _, h⟩ := trimEnd_decompose (trimStart s)
  rw [h, ← trim]
  cases ht : trim s with
  | nil => simp [ht] at hc
  | cons d t => simpa [ht] using hc

@[simp] theorem trim_trim (s : List Char) : trim (trim s) = trim s :=
  trim_of_ends (head?_trim s) (getLast?_trim s)

/-- A text without blanks at its ends is left alone also if it stands at the end of another. -/
theorem trim_append {s t : List Char} (hs : s ≠ []) (hs' : trim s = s) (ht : t ≠ [])
    (ht' : trim t = t) (between : List Char) :
    trim (s ++ between ++ t) = s ++ between ++ t := by
  have hhead := head?_trim s
  have hlast := getLast?_trim t
  rw [hs', List.head?_eq_some_head hs] at hhead
  rw [ht', List.getLast?_eq_some_getLast ht] at hlast
  refine trim_of_ends ?_ ?_
  · rwa [List.append_assoc, List.head?_append, List.head?_eq_some_head hs, Option.some_or]
  · rwa [List.getLast?_append, List.getLast?_eq_some_getLast ht, Option.some_or]

end Graft.Text
