/-
Graft/Value/Reader.lean

Reading a value from its JSON text.

The reader is a machine that takes one character at a time.  It holds a stack
of the containers that are still open and a mode that says what it is in the
middle of.  As each step handles one character, reading a text is one pass over
its characters and needs no bound on depth.

Fields are kept in the order of the text, which is why this reader exists: that
order shows in what is sent to the engine.
-/
import Graft.Number.Literal
import Graft.Text.Digit
import Graft.Value

namespace Graft.Value.Reader

/-! ### The state of the machine -/

/-- A container that is open, with what it holds so far, latest first. -/
inductive Frame where
  | items (done : List Value)
  /-- An object whose field under `key` is being read. -/
  | fields (done : List (String × Value)) (key : String)

/-- Where the machine stands inside an escape. -/
inductive Escape where
  | outside
  | afterBackslash
  /-- Inside `\uXXXX`, with so many digits still to come. -/
  | code (left : Nat) (unit : Nat)

/-- The part of a quoted string read so far. -/
structure Quoted where
  /-- The characters, latest first. -/
  chars : List Char := []
  /-- A high surrogate whose partner must follow. -/
  high : Option Nat := none
  escape : Escape := .outside

/-- What the machine is in the middle of. -/
inductive Mode where
  /-- A value must follow. -/
  | value
  /-- Right after `[`: a value or the end of the array. -/
  | firstItem
  /-- Right after an opening brace: a key or the end of the object. -/
  | firstKey
  /-- A key must follow. -/
  | key (done : List (String × Value))
  /-- Inside a key. -/
  | inKey (done : List (String × Value)) (text : Quoted)
  /-- A colon must follow. -/
  | colon (done : List (String × Value)) (key : String)
  /-- Inside a string. -/
  | inString (text : Quoted)
  /-- Inside a number, its characters latest first. -/
  | inNumber (chars : List Char)
  /-- Inside a word of which `rest` must follow. -/
  | inWord (rest : List Char) (v : Value)
  /-- A value is complete. -/
  | complete (v : Value)

/-- The open containers, innermost first, and the mode. -/
structure State where
  stack : List Frame
  mode : Mode

/-! ### Strings -/

/-- The character that a one-letter escape stands for. -/
def escaped? : Char → Option Char
  | '"' => some '"'
  | '\\' => some '\\'
  | '/' => some '/'
  | 'b' => some '\x08'
  | 'f' => some '\x0c'
  | 'n' => some '\n'
  | 'r' => some '\r'
  | 't' => some '\t'
  | _ => none

/-- One UTF-16 unit of a string: a surrogate waits for, or is, the partner of another. -/
def Quoted.addUnit? (q : Quoted) (unit : Nat) : Option Quoted :=
  match q.high with
  | some high =>
    if 0xDC00 ≤ unit ∧ unit ≤ 0xDFFF then
      let c := Char.ofNat (0x10000 + (high - 0xD800) * 0x400 + (unit - 0xDC00))
      some { chars := c :: q.chars }
    else none
  | none =>
    if 0xDC00 ≤ unit ∧ unit ≤ 0xDFFF then none
    else if 0xD800 ≤ unit ∧ unit ≤ 0xDBFF then some { chars := q.chars, high := some unit }
    else some { chars := Char.ofNat unit :: q.chars }

/-- The state of a string after one more character: still open, or complete. -/
def Quoted.step? (q : Quoted) (c : Char) : Option (Quoted ⊕ String) :=
  match q.escape with
  | .outside =>
    if c = '\\' then some (.inl { q with escape := .afterBackslash })
    else if q.high.isSome then none
    else if c = '"' then some (.inr (String.ofList q.chars.reverse))
    else if c.toNat < 0x20 then none
    else some (.inl { q with chars := c :: q.chars })
  | .afterBackslash =>
    if c = 'u' then some (.inl { q with escape := .code 4 0 })
    else if q.high.isSome then none
    else (escaped? c).map fun e => .inl { chars := e :: q.chars }
  | .code left unit =>
    match Text.hexValue? c with
    | none => none
    | some d =>
      let unit := 16 * unit + d
      if left ≤ 1 then (q.addUnit? unit).map .inl
      else some (.inl { q with escape := .code (left - 1) unit })

/-! ### Steps -/

/-- The blanks between the parts of a text. -/
def isSpace (c : Char) : Bool :=
  c == ' ' || c == '\n' || c == '\r' || c == '\t'

/-- The characters of which numbers are made. -/
def isNumberPart (c : Char) : Bool :=
  c.isDigit || c == '-' || c == '+' || c == '.' || c == 'e' || c == 'E'

/-- The mode after the first character of a value. -/
def startValue? (stack : List Frame) (c : Char) : Option State :=
  match c with
  | '"' => some ⟨stack, .inString {}⟩
  | '[' => some ⟨stack, .firstItem⟩
  | '\x7b' => some ⟨stack, .firstKey⟩
  | 'n' => some ⟨stack, .inWord ['u', 'l', 'l'] .null⟩
  | 't' => some ⟨stack, .inWord ['r', 'u', 'e'] (.bool true)⟩
  | 'f' => some ⟨stack, .inWord ['a', 'l', 's', 'e'] (.bool false)⟩
  | c => if c.isDigit || c == '-' then some ⟨stack, .inNumber [c]⟩ else none

/-- One character after a complete value. -/
def afterValue? (stack : List Frame) (v : Value) (c : Char) : Option State :=
  if isSpace c then some ⟨stack, .complete v⟩
  else match stack, c with
    | .items done :: rest, ',' => some ⟨.items (v :: done) :: rest, .value⟩
    | .items done :: rest, ']' => some ⟨rest, .complete (.arr (v :: done).reverse)⟩
    | .fields done k :: rest, ',' => some ⟨rest, .key ((k, v) :: done)⟩
    | .fields done k :: rest, '\x7d' =>
      some ⟨rest, .complete (.obj ((k, v) :: done).reverse)⟩
    | _, _ => none

/-- The number that some characters, latest first, are. -/
def numberOf? (chars : List Char) : Option Value :=
  ((Literal.read? chars.reverse).bind Literal.toNumber?).map .num

/-- One step of the machine. -/
def step? (s : State) (c : Char) : Option State :=
  match s.mode with
  | .value => if isSpace c then some s else startValue? s.stack c
  | .firstItem =>
    if isSpace c then some s
    else if c = ']' then some ⟨s.stack, .complete (.arr [])⟩
    else startValue? (.items [] :: s.stack) c
  | .firstKey =>
    if isSpace c then some s
    else if c = '\x7d' then some ⟨s.stack, .complete (.obj [])⟩
    else if c = '"' then some ⟨s.stack, .inKey [] {}⟩
    else none
  | .key done =>
    if isSpace c then some s
    else if c = '"' then some ⟨s.stack, .inKey done {}⟩
    else none
  | .inKey done q =>
    (q.step? c).map fun
      | .inl q => ⟨s.stack, .inKey done q⟩
      | .inr k => ⟨s.stack, .colon done k⟩
  | .colon done k =>
    if isSpace c then some s
    else if c = ':' then some ⟨.fields done k :: s.stack, .value⟩
    else none
  | .inString q =>
    (q.step? c).map fun
      | .inl q => ⟨s.stack, .inString q⟩
      | .inr t => ⟨s.stack, .complete (.str t)⟩
  | .inNumber chars =>
    if isNumberPart c then some ⟨s.stack, .inNumber (c :: chars)⟩
    else (numberOf? chars).bind fun v => afterValue? s.stack v c
  | .inWord rest v =>
    match rest with
    | [] => afterValue? s.stack v c
    | d :: rest => if c = d then some ⟨s.stack, .inWord rest v⟩ else none
  | .complete v => afterValue? s.stack v c

/-- The value of a text that has been read to its end. -/
def finish? (s : State) : Option Value :=
  match s.stack, s.mode with
  | [], .complete v => some v
  | [], .inNumber chars => numberOf? chars
  | [], .inWord [] v => some v
  | _, _ => none

end Graft.Value.Reader

namespace Graft.Value

/-- The value that a text denotes. -/
def read? (text : String) : Option Value :=
  (text.toList.foldlM Reader.step? ⟨[], .value⟩).bind Reader.finish?

end Graft.Value
