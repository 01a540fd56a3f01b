/-
Graft/Toml/Tables.lean

The tables of a configuration file while it is being read.

A table can be written in pieces: under a header, under the headers of tables
inside it, and by keys with dots.  What is allowed depends on how the table came
about, so each table remembers that.  A header may name a table that only
headers below it have brought about, once.  A key with dots leads through tables
that no header names and through the latest of the tables under one name, but
the last table it leads to must be one that keys with dots have brought about.
Nothing may be given twice.
-/
import Graft.Toml.Basic

namespace Graft.Toml

/-! ### Tables in the making -/

/-- How a table came about. -/
inductive TableOrigin where
  /-- By a header that names it. -/
  | header
  /-- By a header that names a table inside it. -/
  | implied
  /-- By a key with dots. -/
  | dotted
  deriving DecidableEq

/-- A value or table in the making. -/
inductive Node where
  | leaf (value : Toml)
  | table (origin : TableOrigin) (fields : List (String × Node))
  /-- Tables under one name, latest first. -/
  | tables (latest : List (String × Node)) (earlier : List (List (String × Node)))

/-- The fields of a table in the making. -/
abbrev Fields := List (String × Node)

/-- The fields with the one under a key changed, or added if it is not there; none if that is
refused. -/
def alter? (key : String) (change : Option Node → Option Node) : Fields → Option Fields
  | [] => (change none).map fun n => [(key, n)]
  | (k, n) :: rest =>
    if k = key then (change (some n)).map fun n => (k, n) :: rest
    else (alter? key change rest).map ((k, n) :: ·)

/-- The fields with those of the table at a path of headers changed.  Tables on the way that are
not there are implied by the header. -/
def alterAt? (change : Fields → Option Fields) : List String → Fields → Option Fields
  | [], fields => change fields
  | key :: path, fields =>
    alter? key (fun
      | none => (alterAt? change path []).map (.table .implied)
      | some (.leaf _) => none
      | some (.table origin inner) => (alterAt? change path inner).map (.table origin)
      | some (.tables latest earlier) => (alterAt? change path latest).map (.tables · earlier)) fields

/-- The fields with a value under a key that is not there yet. -/
def add? (key : String) (value : Toml) : Fields → Option Fields :=
  alter? key fun
    | none => some (.leaf value)
    | some _ => none

/-- The fields of a table that came about in the given way, with a value given under a key of the
table to which a path leads from there.  That table must be one of keys with dots, and no table on
the way may have a header of its own, except as the latest of several under one name. -/
def giveBelow? (key : String) (value : Toml) :
    TableOrigin → List String → Fields → Option Fields
  | .dotted, [], fields => add? key value fields
  | .header, [], _ => none
  | .implied, [], _ => none
  | _, step :: path, fields =>
    alter? step (fun
      | none => (giveBelow? key value .dotted path []).map (.table .dotted)
      | some (.leaf _) => none
      | some (.table .header _) => none
      | some (.table origin inner) =>
        (giveBelow? key value origin path inner).map (.table origin)
      | some (.tables latest earlier) =>
        (giveBelow? key value .header path latest).map (.tables · earlier)) fields

/-- The fields with a value given under a path of keys.  The table where the path starts takes
keys however it came about, as a table that keys with dots have brought about does. -/
def give? (path : List String) (value : Toml) (fields : Fields) : Option Fields :=
  match path.reverse with
  | [] => none
  | key :: before => giveBelow? key value .dotted before.reverse fields

/-- The fields with a table brought about by a header. -/
def openTable? (path : List String) (fields : Fields) : Option Fields :=
  match path.reverse with
  | [] => none
  | key :: before =>
    alterAt? (alter? key fun
      | none => some (.table .header [])
      | some (.table .implied inner) => some (.table .header inner)
      | some _ => none) before.reverse fields

/-- The fields with one more table under a name, brought about by a header in double brackets. -/
def appendTable? (path : List String) (fields : Fields) : Option Fields :=
  match path.reverse with
  | [] => none
  | key :: before =>
    alterAt? (alter? key fun
      | none => some (.tables [] [])
      | some (.tables latest earlier) => some (.tables [] (latest :: earlier))
      | some _ => none) before.reverse fields

/-! ### Finished tables -/

mutual

/-- A finished value. -/
def Node.finish : Node → Toml
  | .leaf v => v
  | .table _ fields => .table (finishFields fields)
  | .tables latest earlier =>
    .arr (finishTables earlier ++ [.table (finishFields latest)])

/-- The fields of a finished table. -/
def finishFields : List (String × Node) → List (String × Toml)
  | [] => []
  | (k, n) :: rest => (k, n.finish) :: finishFields rest

/-- Finished tables, earliest first. -/
def finishTables : List (List (String × Node)) → List Toml
  | [] => []
  | t :: rest => finishTables rest ++ [.table (finishFields t)]

end

end Graft.Toml
