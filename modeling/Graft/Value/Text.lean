/-
Graft/Value/Text.lean

The text of a value: compact JSON.

There are no spaces, fields keep their order, and a string escapes only what
it must: the quote, the backslash and the control characters below U+0020.
The text is what values are compared by when rows are matched: two cells are
the same key exactly when they have the same text, so the integer one, the
number `1.0` and the string `"1"` are three different keys.
-/
import Graft.Text.Digit
import Graft.Value

namespace Graft

/-! ### Strings -/

/-- One character inside a quoted string. -/
def escapeChar (c : Char) : List Char :=
  if c = '"' then ['\\', '"']
  else if c = '\\' then ['\\', '\\']
  else if c = '\n' then ['\\', 'n']
  else if c = '\r' then ['\\', 'r']
  else if c = '\t' then ['\\', 't']
  else if c = '\x08' then ['\\', 'b']
  else if c = '\x0c' then ['\\', 'f']
  else if c.toNat < 0x20 then
    ['\\', 'u', '0', '0', Text.hexDigit (c.toNat / 16), Text.hexDigit (c.toNat % 16)]
  else [c]

/-- A string in quotes. -/
def quoteText (s : String) : String :=
  String.ofList ('"' :: (s.toList.flatMap escapeChar ++ ['"']))

/-! ### Values -/

namespace Value

mutual

/-- The compact JSON text of a value. -/
def text : Value → String
  | .null => "null"
  | .bool true => "true"
  | .bool false => "false"
  | .num n => n.text
  | .str s => quoteText s
  | .arr items => "[" ++ ",".intercalate (itemTexts items) ++ "]"
  | .obj fields => "\x7b" ++ ",".intercalate (fieldTexts fields) ++ "\x7d"

/-- The texts of the items of an array. -/
def itemTexts : List Value → List String
  | [] => []
  | v :: rest => v.text :: itemTexts rest

/-- The texts of the fields of an object. -/
def fieldTexts : List (String × Value) → List String
  | [] => []
  | (k, v) :: rest => (quoteText k ++ ":" ++ v.text) :: fieldTexts rest

end

/-- The key that a cell is matched by.  Null has none, so it never matches. -/
def key? : Value → Option String
  | .null => none
  | v => some v.text

@[simp] theorem key?_null : key? .null = none := rfl

theorem key?_eq_some {v : Value} {k : String} (h : v.key? = some k) : v.text = k := by
  cases v <;> simp_all [key?]

end Value

end Graft
