/-
Graft/Proofs/Text/Encoding.lean

Reading back the bytes of a text.

The reader replaces whatever cannot be part of a character, and there is
nothing of that kind among the bytes of a text: `decodeLossy_encode`.

A character in several bytes is spelled out in base 64: the lead byte has the
first digit, and every byte after it one more (`byteStep_tailByte`).  The
bounds that the reader puts on the second byte hold because of what is not a
character: a number that a shorter form has room for, a surrogate, and a number
beyond the last character.
-/
import Graft.Text.Utf8
import Mathlib.Tactic.IntervalCases

namespace Graft.Text

/-! ### Single bytes -/

theorem toNat_tailByte (n : Nat) : (tailByte n).toNat = 0x80 + n % 64 := by
  rw [tailByte, UInt8.toNat_ofNat']
  omega

/-- A byte that continues a character adds a digit in base 64. -/
theorem byteStep_tailByte {left value low high n : Nat} (hlow : low ≤ 0x80 + n % 64)
    (hhigh : 0x80 + n % 64 ≤ high) :
    byteStep (some ⟨left, value, low, high⟩) (tailByte n).toNat =
      if left ≤ 1 then ([Char.ofNat (value * 64 + n % 64)], none)
      else ([], some ⟨left - 1, value * 64 + n % 64, 0x80, 0xBF⟩) := by
  rw [toNat_tailByte, byteStep, if_pos ⟨hlow, hhigh⟩, Nat.add_sub_cancel_left]

/-- The last byte of a character completes it. -/
theorem decodeFrom_last {value low high n : Nat} (hlow : low ≤ 0x80 + n % 64)
    (hhigh : 0x80 + n % 64 ≤ high) (rest : List UInt8) :
    decodeFrom (some ⟨1, value, low, high⟩) (tailByte n :: rest) =
      Char.ofNat (value * 64 + n % 64) :: decodeFrom none rest := by
  rw [decodeFrom, byteStep_tailByte hlow hhigh]
  rfl

/-- After any other byte but the last there are no more bounds than for any byte that continues a
character. -/
theorem decodeFrom_more (left : Nat) {value low high n : Nat} (hlow : low ≤ 0x80 + n % 64)
    (hhigh : 0x80 + n % 64 ≤ high) (rest : List UInt8) :
    decodeFrom (some ⟨left + 2, value, low, high⟩) (tailByte n :: rest) =
      decodeFrom (some ⟨left + 1, value * 64 + n % 64, 0x80, 0xBF⟩) rest := by
  rw [decodeFrom, byteStep_tailByte hlow hhigh, if_neg (by omega)]
  rfl

/-- The lead byte of two. -/
theorem leadStep_two {k : Nat} (hlow : 2 ≤ k) (hhigh : k < 32) :
    leadStep (0xC0 + k) = ([], some ⟨1, k, 0x80, 0xBF⟩) := by
  rw [leadStep, if_neg (by omega), if_pos (by omega), Nat.add_sub_cancel_left]

/-- The lead byte of three. -/
theorem leadStep_three {k : Nat} (hk : k < 16) :
    leadStep (0xE0 + k) = ([], some ⟨2, k, if k = 0 then 0xA0 else 0x80,
      if k = 13 then 0x9F else 0xBF⟩) := by
  interval_cases k <;> rfl

/-- The lead byte of four. -/
theorem leadStep_four {k : Nat} (hk : k < 5) :
    leadStep (0xF0 + k) = ([], some ⟨3, k, if k = 0 then 0x90 else 0x80,
      if k = 4 then 0x8F else 0xBF⟩) := by
  interval_cases k <;> rfl

/-- The first byte of a character that needs more of them. -/
theorem decodeFrom_lead {b : Nat} {p : Partial} (hb : b < 256) (h : leadStep b = ([], some p))
    (rest : List UInt8) : decodeFrom none (.ofNat b :: rest) = decodeFrom (some p) rest := by
  rw [decodeFrom, UInt8.toNat_ofNat', Nat.mod_eq_of_lt hb, byteStep, h, List.nil_append]

/-! ### Characters -/

/-- The numbers of characters: none is a surrogate, and there is a last one. -/
theorem toNat_char_lt (c : Char) : c.toNat < 0xD800 ∨ 0xDFFF < c.toNat ∧ c.toNat < 0x110000 :=
  c.valid

theorem decodeFrom_encodeChar (c : Char) (rest : List UInt8) :
    decodeFrom none (encodeChar c ++ rest) = c :: decodeFrom none rest := by
  have hvalid := toNat_char_lt c
  have hchar : Char.ofNat c.toNat = c := Char.ofNat_toNat c
  rw [encodeChar]
  generalize c.toNat = n at hvalid hchar ⊢
  split
  · next hone =>
    rw [List.singleton_append, decodeFrom, UInt8.toNat_ofNat', Nat.mod_eq_of_lt (by omega),
      byteStep, leadStep, if_pos hone, hchar]
    rfl
  split
  · next hone htwo =>
    have hn : n / 64 * 64 + n % 64 = n := by omega
    rw [List.cons_append, List.singleton_append,
      decodeFrom_lead (by omega) (leadStep_two (by omega) (by omega)),
      decodeFrom_last (by omega) (by omega), hn, hchar]
  split
  · next hone htwo hthree =>
    have hn : (n / 4096 * 64 + n / 64 % 64) * 64 + n % 64 = n := by omega
    -- in three bytes are the numbers from 0x800 on, without the surrogates
    rw [List.cons_append, List.cons_append, List.singleton_append,
      decodeFrom_lead (by omega) (leadStep_three (by omega)),
      decodeFrom_more 0 (by split <;> omega) (by split <;> omega),
      decodeFrom_last (by omega) (by omega), hn, hchar]
  · next hone htwo hthree =>
    have hn : ((n / 262144 * 64 + n / 4096 % 64) * 64 + n / 64 % 64) * 64 + n % 64 = n := by omega
    -- in four bytes are the numbers from 0x10000 on, up to the last
    rw [List.cons_append, List.cons_append, List.cons_append, List.singleton_append,
      decodeFrom_lead (by omega) (leadStep_four (by omega)),
      decodeFrom_more 1 (by split <;> omega) (by split <;> omega),
      decodeFrom_more 0 (by omega) (by omega), decodeFrom_last (by omega) (by omega), hn, hchar]

/-! ### Texts -/

/-- The bytes of a text are read as that text: nothing in it is replaced. -/
theorem decodeLossy_encode (s : List Char) : decodeLossy (encode s) = s := by
  rw [decodeLossy, encode]
  induction s with
  | nil => rfl
  | cons c s ih => rw [List.flatMap_cons, decodeFrom_encodeChar, ih]

end Graft.Text
