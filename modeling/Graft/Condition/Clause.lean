/-
Graft/Condition/Clause.lean

The condition of a statement, compiled from the conditions of a chain.

A clause is a list of conjuncts, one for each condition, in order.  Conjuncts
are made of identifiers and values; their text has one question mark for each
value, and the parameters are the values in the order of those marks.

Membership is tested in lists that are not empty, by the type: membership in
the empty list fails to compile, and its negation is the conjunct that always
holds.
-/
import Graft.Condition
import Graft.Ident

namespace Graft

/-! ### Conjuncts -/

/-- One conjunct of a clause. -/
inductive Conjunct where
  /-- The column is null, or is not. -/
  | nullity (column : Ident) (isNull : Bool)
  /-- The column is one of some values, or is none of them. -/
  | member (column : Ident) (negated : Bool) (first : Value) (rest : List Value)
  /-- What every row satisfies. -/
  | anything
  | compare (column : Ident) (operator : Operator) (value : Value)
  | negatedCompare (column : Ident) (operator : Operator) (value : Value)
  | notLike (column : Ident) (value : Value)

namespace Conjunct

/-- The conjunct in a statement. -/
def sql : Conjunct → String
  | .nullity column isNull => column.sql ++ if isNull then " IS NULL" else " IS NOT NULL"
  | .member column negated _ rest =>
    column.sql ++ (if negated then " NOT IN (" else " IN (") ++
      ", ".intercalate ("?" :: rest.map fun _ => "?") ++ ")"
  | .anything => "1 = 1"
  | .compare column op _ => column.sql ++ " " ++ op.sql ++ " ?"
  | .negatedCompare column op _ => "NOT (" ++ column.sql ++ " " ++ op.sql ++ " ?)"
  | .notLike column _ => column.sql ++ " NOT LIKE ?"

/-- The values for the question marks. -/
def params : Conjunct → List Value
  | .nullity _ _ => []
  | .member _ _ first rest => first :: rest
  | .anything => []
  | .compare _ _ v => [v]
  | .negatedCompare _ _ v => [v]
  | .notLike _ v => [v]

end Conjunct

/-- The conjunct of a condition on a valid column. -/
def Condition.conjunctOn (c : Condition) (column : Ident) : Except Error Conjunct :=
  match c.operator with
  | .nullity => .ok (.nullity column (c.value.isNull != c.negated))
  | .oneOf =>
    match c.value with
    | .arr (first :: rest) => .ok (.member column c.negated first rest)
    | .arr [] => if c.negated then .ok .anything else .error (.emptyInList c.column)
    | _ => .error (.validation (.listExpected c.column))
  | op =>
    if c.negated then
      if op = .like ∨ op = .ilike then .ok (.notLike column c.value)
      else .ok (.negatedCompare column op c.value)
    else .ok (.compare column op c.value)

/-- The conjunct of a condition. -/
def Condition.conjunct (c : Condition) : Except Error Conjunct := do
  let column ← Ident.parse c.column
  c.conjunctOn column

/-! ### Clauses -/

/-- The conjuncts that a statement's rows satisfy. -/
abbrev Clause := List Conjunct

namespace Clause

/-- The conjuncts joined, without the keyword. -/
def body (c : Clause) : String :=
  " AND ".intercalate (c.map Conjunct.sql)

/-- The clause in a statement; nothing if there is no conjunct. -/
def sql (c : Clause) : String :=
  if c.isEmpty then "" else "WHERE " ++ c.body

/-- The values for the question marks, from left to right. -/
def params (c : Clause) : List Value :=
  c.flatMap Conjunct.params

/-- The clause of some conditions. -/
def compile (conditions : List Condition) : Except Error Clause :=
  conditions.mapM Condition.conjunct

end Clause

end Graft
