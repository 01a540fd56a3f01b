/-
Graft/Toml/Reader.lean

Reading a configuration file.

A file is a sequence of lines; each is empty, a header, or a key with a value.
Values may go over several lines.  A reader takes characters and gives a result
and the rest, or fails.  Brackets and braces nest to a fixed depth only, and a
path has a fixed number of keys at most.  The readers of arrays and of tables
within values are given the number of steps they may take; the length of the
text is always enough.
-/
import Graft.Toml.Quoted
import Graft.Toml.Scalar
import Graft.Toml.Tables

namespace Graft.Toml

/-- A reader of a part of a text. -/
abbrev Parser := StateT (List Char) Option

/-! ### Blanks and comments -/

/-- Whether a character is a blank within a line. -/
def isSpace (c : Char) : Bool :=
  c == ' ' || c == '\t'

/-- Whether a character may stand in a comment. -/
def isCommentPart (c : Char) : Bool :=
  c == '\t' || (0x20 ≤ c.toNat && c.toNat != 0x7F)

/-- The text after blanks, line breaks and comments; `comment` if it starts inside a comment. -/
def afterTrivia? (comment : Bool) : List Char → Option (List Char)
  | [] => some []
  | '\n' :: r => afterTrivia? false r
  | '\r' :: '\n' :: r => afterTrivia? false r
  | c :: r =>
    if comment then if isCommentPart c then afterTrivia? true r else none
    else if c = '#' then afterTrivia? true r
    else if isSpace c then afterTrivia? false r
    else some (c :: r)

/-- The text after the end of a line, which may have a comment before it. -/
def afterLine? (comment : Bool) : List Char → Option (List Char)
  | [] => some []
  | '\n' :: r => some r
  | '\r' :: '\n' :: r => some r
  | c :: r =>
    if comment then if isCommentPart c then afterLine? true r else none
    else if c = '#' then afterLine? true r
    else if isSpace c then afterLine? false r
    else none

/-- Passes over blanks. -/
def spaces : Parser Unit :=
  modify fun s => s.dropWhile isSpace

/-- Passes over blanks, line breaks and comments. -/
def trivia : Parser Unit := fun s =>
  (afterTrivia? false s).map ((), ·)

/-- Passes over the end of a line. -/
def lineEnd : Parser Unit := fun s =>
  (afterLine? false s).map ((), ·)

/-- Whether a character comes next, which is then passed over. -/
def tryChar (c : Char) : Parser Bool := fun
  | d :: r => if d = c then some (true, r) else some (false, d :: r)
  | [] => some (false, [])

/-- Passes over a character, which has to come next. -/
def char (c : Char) : Parser Unit := do
  if !(← tryChar c) then
    failure

/-! ### Keys -/

/-- The characters of keys without quotes. -/
def isBareKeyPart (c : Char) : Bool :=
  c.isAlphanum || c == '_' || c == '-'

/-- One key. -/
def simpleKey : Parser String := fun s =>
  match s with
  | '"' :: _ => quoted? false s
  | '\'' :: _ => quoted? false s
  | s =>
    let key := s.takeWhile isBareKeyPart
    if key.isEmpty then none else some (String.ofList key, s.dropWhile isBareKeyPart)

/-- The number of keys that a path has at most. -/
def maxKeys : Nat := 80

/-- So many keys at most, joined by dots, with blanks around them. -/
def keysUpTo : Nat → Parser (List String)
  | 0 => failure
  | more + 1 => do
    spaces
    let key ← simpleKey
    spaces
    if ← tryChar '.' then
      return key :: (← keysUpTo more)
    return [key]

/-- A path of keys. -/
def keyPath : Parser (List String) :=
  keysUpTo maxKeys

/-! ### Values -/

/-- The table of some values with their paths. -/
def inlineTable? (entries : List (List String × Toml)) : Option Toml :=
  (entries.foldlM (fun fields (path, v) => give? path v fields) []).map fun fields =>
    .table (finishFields fields)

/-- A value without brackets or braces. -/
def plainValue : Parser Toml := fun s =>
  match s with
  | '"' :: _ => (quoted? true s).map fun (t, r) => (.str t, r)
  | '\'' :: _ => (quoted? true s).map fun (t, r) => (.str t, r)
  | s => (scalar? (takeScalar s).1).map (·, (takeScalar s).2)

/-- The number of brackets and braces that stand within each other at most. -/
def maxDepth : Nat := 80

mutual

/-- A value, with brackets and braces within each other to the given depth at most. -/
def value : Nat → (depth : Nat) → Parser Toml
  | 0, _ => failure
  | steps + 1, depth => do
    if ← tryChar '[' then
      items steps depth []
    else if ← tryChar '\x7b' then
      entries steps depth []
    else
      plainValue

/-- The items of an array up to its end, after those read already, latest first.  The array
itself counts for the depth. -/
def items : Nat → (depth : Nat) → List Toml → Parser Toml
  | 0, _, _ => failure
  | _ + 1, 0, _ => failure
  | steps + 1, depth + 1, done => do
    trivia
    if ← tryChar ']' then
      return .arr done.reverse
    let v ← value steps depth
    trivia
    if ← tryChar ',' then
      items steps (depth + 1) (v :: done)
    else
      char ']'
      return .arr (v :: done).reverse

/-- The entries of a table within a value up to its end, after those read already, latest first.
The table itself counts for the depth.  Line breaks and comments may stand around paths and
values. -/
def entries : Nat → (depth : Nat) → List (List String × Toml) → Parser Toml
  | 0, _, _ => failure
  | _ + 1, 0, _ => failure
  | steps + 1, depth + 1, done => do
    trivia
    if ← tryChar '\x7d' then
      inlineTable? done.reverse
    else
      let path ← keyPath
      trivia
      char '='
      trivia
      let v ← value steps depth
      trivia
      if ← tryChar ',' then
        entries steps (depth + 1) ((path, v) :: done)
      else
        char '\x7d'
        inlineTable? ((path, v) :: done).reverse

end

/-! ### Files -/

/-- What has been read of a file: its tables, and the path that the last header set. -/
structure Progress where
  fields : Fields := []
  path : List String := []

/-- A header, after its first bracket. -/
def header (p : Progress) : Parser Progress := do
  if ← tryChar '[' then
    let path ← keyPath
    char ']'
    char ']'
    lineEnd
    return ⟨← appendTable? path p.fields, path⟩
  let path ← keyPath
  char ']'
  lineEnd
  return ⟨← openTable? path p.fields, path⟩

/-- A key with a value, which takes the given number of steps at most. -/
def assignment (steps : Nat) (p : Progress) : Parser Progress := do
  let path ← keyPath
  char '='
  spaces
  let v ← value steps maxDepth
  lineEnd
  return { p with fields := ← alterAt? (give? path v) p.path p.fields }

/-- The rest of a file; the first argument bounds the number of its lines. -/
def lines (steps : Nat) : Nat → Progress → Parser Progress
  | 0, _ => failure
  | left + 1, p => do
    trivia
    if (← get).isEmpty then
      return p
    let p ← if ← tryChar '[' then header p else assignment steps p
    lines steps left p

/-- A file without the mark of its byte order. -/
def dropByteOrderMark : List Char → List Char
  | '\ufeff' :: r => r
  | s => s

/-- The fields of the table that a text is. -/
def read? (text : String) : Option (List (String × Toml)) :=
  let s := dropByteOrderMark text.toList
  let steps := s.length + 2
  ((lines steps steps {}).run s).map fun (p, _) => finishFields p.fields

end Graft.Toml
