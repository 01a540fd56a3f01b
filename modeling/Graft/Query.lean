/-
Graft/Query.lean

Queries: statements before they are text.

A query is made of identifiers, columns, conjuncts and values only.  Its text
(`sql`) has a question mark for each value, and `params` are the values in the
order of those marks.  As no other text can get into a query, none can get into
a statement.
-/
import Graft.Condition.Clause
import Graft.Selection.Columns

namespace Graft

/-! ### Parts of queries -/

/-- A direction of sorting. -/
inductive Direction where
  | asc | desc
  deriving DecidableEq

/-- The direction in a statement. -/
def Direction.sql : Direction → String
  | .asc => "ASC"
  | .desc => "DESC"

/-- Which of the selected rows are wanted.  There is no offset without a limit. -/
structure Window where
  limit : UInt64
  offset? : Option UInt64 := none
  deriving DecidableEq

/-- The window in a statement. -/
def Window.sql (w : Window) : String :=
  " LIMIT " ++ toString w.limit.toNat ++
    match w.offset? with
    | some offset => " OFFSET " ++ toString offset.toNat
    | none => ""

/-- What to do with an inserted row that is there already. -/
structure Conflict where
  /-- The columns that tell whether it is there. -/
  target : List Ident
  /-- The columns to take over; if there is none, the row stays as it is. -/
  updates : List Ident

/-- An assignment of the inserted value to a column. -/
def excludedSql (column : Ident) : String :=
  column.sql ++ " = excluded." ++ column.sql

/-- The treatment of conflicts in a statement. -/
def Conflict.sql (c : Conflict) : String :=
  " ON CONFLICT (" ++ ", ".intercalate (c.target.map Ident.sql) ++ ") " ++
    if c.updates.isEmpty then "DO NOTHING"
    else "DO UPDATE SET " ++ ", ".intercalate (c.updates.map excludedSql)

/-! ### Queries -/

/-- A statement before it is text. -/
inductive Query where
  | select (columns : List Column) (table : Ident) (clause : Clause)
      (order : List (Ident × Direction)) (window? : Option Window)
  /-- An insert of rows that have a value for each of the columns. -/
  | insert (table : Ident) (columns : List Ident) (rows : List (List Value))
      (conflict? : Option Conflict) (returning : List Column)
  | update (table : Ident) (assignments : List (Ident × Value)) (clause : Clause)
      (returning : List Column)
  | delete (table : Ident) (clause : Clause) (returning? : Option (List Column))

namespace Query

/-- The clause of a statement, with a space before it. -/
def clauseSql (c : Clause) : String :=
  if c.isEmpty then "" else " " ++ c.sql

/-- The sort terms of a statement. -/
def orderSql (terms : List (Ident × Direction)) : String :=
  if terms.isEmpty then ""
  else " ORDER BY " ++ ", ".intercalate (terms.map fun (c, d) => c.sql ++ " " ++ d.sql)

/-- A question mark for each value of a row. -/
def tupleSql (row : List Value) : String :=
  "(" ++ ", ".intercalate (row.map fun _ => "?") ++ ")"

/-- The rows that a statement answers with. -/
def returningSql (columns : List Column) : String :=
  " RETURNING " ++ Column.listSql columns

/-- The text of the statement. -/
def sql : Query → String
  | .select columns table clause order window? =>
    "SELECT " ++ Column.listSql columns ++ " FROM " ++ table.sql ++ clauseSql clause ++
      orderSql order ++ (window?.map Window.sql).getD ""
  | .insert table columns rows conflict? returning =>
    "INSERT INTO " ++ table.sql ++ " (" ++ ", ".intercalate (columns.map Ident.sql) ++
      ") VALUES " ++ ", ".intercalate (rows.map tupleSql) ++
      (conflict?.map Conflict.sql).getD "" ++ returningSql returning
  | .update table assignments clause returning =>
    "UPDATE " ++ table.sql ++ " SET " ++
      ", ".intercalate (assignments.map fun (c, _) => c.sql ++ " = ?") ++
      clauseSql clause ++ returningSql returning
  | .delete table clause returning? =>
    "DELETE FROM " ++ table.sql ++ clauseSql clause ++ (returning?.map returningSql).getD ""

/-- The values for the question marks, from left to right. -/
def params : Query → List Value
  | .select _ _ clause _ _ => clause.params
  | .insert _ _ rows _ _ => rows.flatten
  | .update _ assignments clause _ => assignments.map (·.2) ++ clause.params
  | .delete _ clause _ => clause.params

end Query

end Graft
