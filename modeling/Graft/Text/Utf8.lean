/-
Graft/Text/Utf8.lean

UTF-8: texts as bytes, and bytes as texts.

Every text has a form in bytes (`encode`).  Bytes that are no such form are
still read as a text (`decodeLossy`): what cannot be part of a character is
replaced, once for each longest start of a character that is broken off.  The
reader is a machine that takes a byte at a time and knows how many more the
character at hand needs, and within which bounds the next one lies.
-/
namespace Graft.Text

/-! ### Writing -/

/-- A byte that continues a character. -/
def tailByte (n : Nat) : UInt8 :=
  .ofNat (0x80 + n % 64)

/-- The bytes of a character. -/
def encodeChar (c : Char) : List UInt8 :=
  let n := c.toNat
  if n < 0x80 then [.ofNat n]
  else if n < 0x800 then [.ofNat (0xC0 + n / 64), tailByte n]
  else if n < 0x10000 then [.ofNat (0xE0 + n / 4096), tailByte (n / 64), tailByte n]
  else [.ofNat (0xF0 + n / 262144), tailByte (n / 4096), tailByte (n / 64), tailByte n]

/-- The bytes of a text. -/
def encode (s : List Char) : List UInt8 :=
  s.flatMap encodeChar

/-! ### Reading -/

/-- What is put in the place of bytes that are no character. -/
def replacement : Char := '\ufffd'

/-- A character that is not complete. -/
structure Partial where
  /-- How many bytes are still to come. -/
  left : Nat
  /-- What the bytes so far stand for. -/
  value : Nat
  /-- The least byte that may come next. -/
  low : Nat
  /-- The greatest byte that may come next. -/
  high : Nat

/-- What comes of the first byte of a character: characters that are complete, and one that is
not. -/
def leadStep (b : Nat) : List Char × Option Partial :=
  if b < 0x80 then ([Char.ofNat b], none)
  else if 0xC2 ≤ b ∧ b ≤ 0xDF then ([], some ⟨1, b - 0xC0, 0x80, 0xBF⟩)
  else if b = 0xE0 then ([], some ⟨2, 0, 0xA0, 0xBF⟩)
  else if b = 0xED then ([], some ⟨2, 0xD, 0x80, 0x9F⟩)
  else if 0xE1 ≤ b ∧ b ≤ 0xEF then ([], some ⟨2, b - 0xE0, 0x80, 0xBF⟩)
  else if b = 0xF0 then ([], some ⟨3, 0, 0x90, 0xBF⟩)
  else if b = 0xF4 then ([], some ⟨3, 4, 0x80, 0x8F⟩)
  else if 0xF1 ≤ b ∧ b ≤ 0xF3 then ([], some ⟨3, b - 0xF0, 0x80, 0xBF⟩)
  else ([replacement], none)

/-- What comes of a byte: characters that are complete, and one that is not. -/
def byteStep : Option Partial → Nat → List Char × Option Partial
  | none, b => leadStep b
  | some p, b =>
    if p.low ≤ b ∧ b ≤ p.high then
      let value := p.value * 64 + (b - 0x80)
      if p.left ≤ 1 then ([Char.ofNat value], none)
      else ([], some ⟨p.left - 1, value, 0x80, 0xBF⟩)
    else
      let (chars, next) := leadStep b
      (replacement :: chars, next)

/-- The text of some bytes after a character that is not complete. -/
def decodeFrom : Option Partial → List UInt8 → List Char
  | none, [] => []
  | some _, [] => [replacement]
  | p, b :: rest => (byteStep p b.toNat).1 ++ decodeFrom (byteStep p b.toNat).2 rest

/-- The text of some bytes, with replacements for what is no character. -/
def decodeLossy (bytes : List UInt8) : List Char :=
  decodeFrom none bytes

end Graft.Text
