/-
Graft/Toml/Quoted.lean

Quoted texts of a configuration file.

There are four kinds: with double or single quotes, on one line or on several.
Single quotes know no escapes.  On several lines three quotes open and close a
text, up to two more may stand right before the closing ones, a line break after
the opening ones is left out, and a backslash at the end of a line leaves out
all blanks and line breaks that follow.

The reader is a machine that takes one character at a time and looks one ahead.
-/
import Graft.Text.Digit

namespace Graft.Toml

/-! ### The machine -/

/-- A kind of quoted text. -/
structure QuoteKind where
  quote : Char
  multiline : Bool

/-- Where the machine stands. -/
inductive QuoteMode where
  | plain
  | afterBackslash
  /-- Inside an escape, with so many digits still to come. -/
  | code (left : Nat) (value : Nat)
  /-- After a backslash that ends a line; `broken` once the line break has come. -/
  | lineEnd (broken : Bool)

/-- A text that is being read. -/
structure QuotedText where
  /-- The characters, latest first. -/
  chars : List Char := []
  /-- How many quotes came last. -/
  quotes : Nat := 0
  mode : QuoteMode := .plain

namespace QuotedText

/-- Whether enough quotes have come to close the text. -/
def isClosed (k : QuoteKind) (t : QuotedText) : Bool :=
  if k.multiline then 3 ≤ t.quotes else 1 ≤ t.quotes

/-- Whether one more quote can be part of the text. -/
def takesQuote (k : QuoteKind) (t : QuotedText) : Bool :=
  if k.multiline then t.quotes < 5 else t.quotes < 1

/-- A closed text. -/
def text (k : QuoteKind) (t : QuotedText) : String :=
  let extra := if k.multiline then t.quotes - 3 else 0
  String.ofList (t.chars.reverse ++ List.replicate extra k.quote)

/-- The text with the quotes that came last counted to its characters. -/
def flush (k : QuoteKind) (t : QuotedText) : QuotedText :=
  { chars := List.replicate t.quotes k.quote ++ t.chars }

/-- The text with one more character. -/
def add (k : QuoteKind) (t : QuotedText) (c : Char) : QuotedText :=
  { chars := c :: (t.flush k).chars }

/-- Whether a character may stand in a text as it is; `next` is the one after it. -/
def isAllowed (k : QuoteKind) (c : Char) (next : Option Char) : Bool :=
  if c = '\t' then true
  else if c = '\n' then k.multiline
  else if c = '\r' then k.multiline && next == some '\n'
  else 0x20 ≤ c.toNat && c.toNat != 0x7F

/-- One character outside escapes. -/
def stepPlain? (k : QuoteKind) (t : QuotedText) (c : Char) (next : Option Char) :
    Option QuotedText :=
  if c = k.quote then
    if t.takesQuote k then some { t with quotes := t.quotes + 1, mode := .plain } else none
  else if c = '\\' ∧ k.quote = '"' then
    some { t.flush k with mode := .afterBackslash }
  else if isAllowed k c next then some (t.add k c)
  else none

/-- The character that a one-letter escape stands for. -/
def escaped? : Char → Option Char
  | '"' => some '"'
  | '\\' => some '\\'
  | 'b' => some '\x08'
  | 'e' => some '\x1b'
  | 'f' => some '\x0c'
  | 'n' => some '\n'
  | 'r' => some '\r'
  | 't' => some '\t'
  | _ => none

/-- One character right after a backslash. -/
def stepEscape? (k : QuoteKind) (t : QuotedText) (c : Char) (next : Option Char) :
    Option QuotedText :=
  match c with
  | 'x' => some { t with mode := .code 2 0 }
  | 'u' => some { t with mode := .code 4 0 }
  | 'U' => some { t with mode := .code 8 0 }
  | c =>
    match escaped? c with
    | some e => some (t.add k e)
    | none =>
      if !k.multiline then none
      else if c = ' ' ∨ c = '\t' then some { t with mode := .lineEnd false }
      else if c = '\n' ∨ (c = '\r' ∧ next = some '\n') then some { t with mode := .lineEnd true }
      else none

/-- One character after a backslash that ends a line. -/
def stepLineEnd? (k : QuoteKind) (t : QuotedText) (broken : Bool) (c : Char)
    (next : Option Char) : Option QuotedText :=
  if c = ' ' ∨ c = '\t' then some t
  else if c = '\n' ∨ (c = '\r' ∧ next = some '\n') then some { t with mode := .lineEnd true }
  else if broken then ({ t with mode := .plain } : QuotedText).stepPlain? k c next
  else none

/-- One character. -/
def step? (k : QuoteKind) (t : QuotedText) (c : Char) (next : Option Char) : Option QuotedText :=
  match t.mode with
  | .plain => t.stepPlain? k c next
  | .afterBackslash => t.stepEscape? k c next
  | .code left value =>
    match Text.hexValue? c with
    | none => none
    | some d =>
      let value := 16 * value + d
      if left ≤ 1 then
        if value.isValidChar then
          some (t.add k (Char.ofNat value))
        else none
      else some { t with mode := .code (left - 1) value }
  | .lineEnd broken => t.stepLineEnd? k broken c next

/-- A text that is being read, to its end, and the rest. -/
def read? (k : QuoteKind) (t : QuotedText) : List Char → Option (String × List Char)
  | [] => if t.isClosed k then some (t.text k, []) else none
  | c :: rest =>
    if t.isClosed k && (c != k.quote || !t.takesQuote k) then some (t.text k, c :: rest)
    else (t.step? k c rest.head?).bind fun t => t.read? k rest

end QuotedText

/-! ### Quoted texts -/

/-- A text without the line break that it starts with. -/
def dropLineBreak : List Char → List Char
  | '\n' :: r => r
  | '\r' :: '\n' :: r => r
  | s => s

/-- A quoted text, and the rest; `multiline` if it may go over several lines. -/
def quoted? (multiline : Bool) : List Char → Option (String × List Char)
  | '"' :: '"' :: '"' :: r =>
    if multiline then ({} : QuotedText).read? ⟨'"', true⟩ (dropLineBreak r)
    else ({} : QuotedText).read? ⟨'"', false⟩ ('"' :: '"' :: r)
  | '\'' :: '\'' :: '\'' :: r =>
    if multiline then ({} : QuotedText).read? ⟨'\'', true⟩ (dropLineBreak r)
    else ({} : QuotedText).read? ⟨'\'', false⟩ ('\'' :: '\'' :: r)
  | '"' :: r => ({} : QuotedText).read? ⟨'"', false⟩ r
  | '\'' :: r => ({} : QuotedText).read? ⟨'\'', false⟩ r
  | _ => none

end Graft.Toml
