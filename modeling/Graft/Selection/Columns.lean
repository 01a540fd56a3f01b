/-
Graft/Selection/Columns.lean

The column list of a selection.

A list is read twice: to see which columns it selects (`selects`), and to turn
it into the column list of a statement (`columns`).  In both readings the items
are separated by commas, and `alias:column` selects `column` under another
name.

`ensure` appends columns that rows are matched on later.  It reports the ones
that it really appended, as those have to be removed from the rows again.
-/
import Graft.Selection

namespace Graft

/-! ### Columns of a statement -/

/-- One column of a statement's column list. -/
inductive Column where
  /-- Every column of the table. -/
  | star
  | named (source : Ident)
  /-- A column under another name. -/
  | renamed (source name : Ident)

namespace Column

/-- The column as it stands in a statement. -/
def sql : Column → String
  | .star => "*"
  | .named source => source.sql
  | .renamed source name => source.sql ++ " AS " ++ name.sql

/-- A list of columns as it stands in a statement. -/
def listSql (columns : List Column) : String :=
  ", ".intercalate (columns.map sql)

/-- The column that an item without blanks around it is. -/
def read (item : List Char) : Except Violation Column :=
  if item = ['*'] then .ok .star
  else
    match Text.cut ':' item with
    | some (name, source) => do
      let source ← Ident.parse (String.ofList source)
      let name ← Ident.parse (String.ofList name)
      return .renamed source name
    | none => (Ident.parse (String.ofList item)).map .named

end Column

/-! ### Column lists -/

namespace Selection

/-- The items of a list separated by commas, without the blanks around them; blank ones left out. -/
def listItems (list : String) : List (List Char) :=
  itemTexts (list.toList.splitOn ',')

/-- Whether every column is selected. -/
def isStar (s : Selection) : Bool :=
  s.base == "*"

/-- The column that an item of a column list is taken from. -/
def sourceOf (item : List Char) : List Char :=
  let item := Text.trim item
  match Text.cut ':' item with
  | some (_, source) => Text.trim source
  | none => item

/-- Whether the list selects a column, under whatever name. -/
def selects (s : Selection) (column : String) : Bool :=
  s.isStar || (s.base.toList.splitOn ',').any (sourceOf · == column.toList)

/-- The selection with a column appended, unless it is selected already. -/
def ensureOne (s : Selection) (column : String) : Selection :=
  if s.selects column then s else { s with base := s.base ++ ", " ++ column }

/-- The selection with some columns appended, and those that it did not select before. -/
def ensure (s : Selection) : List String → Selection × List String
  | [] => (s, [])
  | column :: rest =>
    let (s', added) := ensure (s.ensureOne column) rest
    (s', if s.selects column then added else column :: added)

/-- The column list of a statement.  A list without any item selects every column. -/
def columns (s : Selection) : Except Violation (List Column) := do
  let columns ← (listItems s.base).mapM Column.read
  return if columns.isEmpty then [.star] else columns

/-- The column list of a statement, in text. -/
def columnsSql (s : Selection) : Except Violation String :=
  s.columns.map Column.listSql

end Selection

end Graft
