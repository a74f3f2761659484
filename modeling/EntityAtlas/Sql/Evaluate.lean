import EntityAtlas.Sql.Database
import EntityAtlas.Sql.Statement

/-!
# Running statements

The meaning of a statement over a database. Before any row is read every name is looked up: first
the tables, then the columns, and in a union those of its second half before those of its first. A
tuple takes one row from each joined table; it counts for the group of its key values.

In a regrouped union the outer statement refers to columns by label, and again letter case does not
matter: the first column with the label is meant, whatever the statement intended.
-/

namespace EntityAtlas.Sql

/-- Why a database refuses a statement. -/
inductive DatabaseError where
  /-- There is no such table. -/
  | noTable (name : String)
  /-- A table has no such column. -/
  | noColumn (ref : ColumnRef)
  /-- The statement is not well formed at the given word. -/
  | misplaced (word : String)
  deriving DecidableEq, Repr

/-- The wording of a database error. -/
def DatabaseError.message : DatabaseError → String
  | .noTable name => "no such table: " ++ name
  | .noColumn ref => "no such column: " ++ ref.table ++ "." ++ ref.column
  | .misplaced word => "near \"" ++ word ++ "\": syntax error"

namespace Evaluate

/-- The tables of a selection under the names by which they take part. -/
abbrev Scope := List (String × Relation)

/-- One row of every table of a scope, in its order. -/
abbrev Tuple := List Row

/-- The sources of joined tables in their order. -/
def sources (f : From) : List Source := f.first :: f.joins.map (·.source)

/-- Looks up the tables of joined sources. -/
def scope (db : Database) (f : From) : Except DatabaseError Scope :=
  (sources f).mapM fun s =>
    match db.relation? s.table with
    | some r => .ok (s.label, r)
    | none => .error (.noTable s.table)

/-- The positions of a column: of its table in the scope and of the column in the table. -/
def locate? (scope : Scope) (c : ColumnRef) : Option (Nat × Nat) := do
  let i ← scope.findIdx? fun e => sameName e.1 c.table
  let (_, r) ← scope[i]?
  return (i, ← r.position? c.column)

/-- Fails if a column cannot be located. -/
def check (scope : Scope) (c : ColumnRef) : Except DatabaseError Unit :=
  if (locate? scope c).isSome then .ok () else .error (.noColumn c)

/-- The columns that a selection refers to, in the order in which they are looked up. -/
def references (s : Selection) : List ColumnRef :=
  s.keys ++ s.source.joins.flatMap fun j => j.conditions.flatMap fun (a, b) => [a, b]

/-- Fails if a column of a selection cannot be located. -/
def checkColumns (scope : Scope) (s : Selection) : Except DatabaseError Unit :=
  (references s).forM (check scope)

/-- The value of a column in a tuple. -/
def value (scope : Scope) (t : Tuple) (c : ColumnRef) : Value :=
  match locate? scope c with
  | some (i, j) => ((t[i]?.getD [])[j]?).getD .null
  | none => .null

/-- Whether a tuple satisfies all conditions of a join. -/
def satisfies (scope : Scope) (t : Tuple) (j : Join) : Bool :=
  j.conditions.all fun (a, b) => (value scope t a).meets (value scope t b)

/-- Extends tuples by the rows of further tables, keeping those that satisfy the conditions as soon
as the table is joined. -/
def extend (scope : Scope) : List (Join × Relation) → List Tuple → List Tuple
  | [], tuples => tuples
  | (j, r) :: rest, tuples =>
    extend scope rest (tuples.flatMap fun t =>
      (r.rows.map fun row => t ++ [row]).filter fun t => satisfies scope t j)

/-- The tuples of joined tables. -/
def tuples (scope : Scope) (f : From) : List Tuple :=
  match scope with
  | [] => []
  | (_, first) :: rest =>
    extend scope (f.joins.zip (rest.map (·.2))) (first.rows.map fun row => [row])

/-- The key values of every tuple of a selection. -/
def keyRows (scope : Scope) (s : Selection) : List Row :=
  (tuples scope s.source).map fun t => s.keys.map (value scope t)

/-- The distinct rows of a list in ascending order. -/
def distinct (rows : List Row) : List Row := rows.eraseDups.mergeSort Row.notAfter

/-- The rows of a selection: its keys followed by the measure. -/
def selectionRows (scope : Scope) (s : Selection) : List Row :=
  let keys := keyRows scope s
  match s.measure with
  | .count => (distinct keys).map fun k => k ++ [.int (keys.count k)]
  | .zero => keys.map fun k => k ++ [.int 0]

/-- The greater of two values. -/
def greater (a b : Value) : Value := if a.less b then b else a

/-- The greatest of some values; nulls do not count. -/
def greatest (values : List Value) : Value := values.foldl greater .null

/-- Regroups rows by the values at some positions and takes the greatest value at another. -/
def regroup (positions : List Nat) (measure : Nat) (rows : List Row) : List Row :=
  let entry (row : Row) (i : Nat) : Value := row[i]?.getD .null
  let keyed := rows.map fun row => (positions.map (entry row), entry row measure)
  (distinct (keyed.map (·.1))).map fun k =>
    k ++ [greatest ((keyed.filter (·.1 = k)).map (·.2))]

/-- The labels of the columns of a selection. -/
def labels (s : Selection) : List String :=
  s.keys.map (fun k => Statement.columnLabel k.column) ++ [measureLabel]

/-- The position of a column of a union by its label. -/
def unionPosition (s : Selection) (label : String) : Nat :=
  ((labels s).findIdx? (sameName label)).getD 0

/-- The word that follows the first join without conditions, where a condition is missing. -/
def missingCondition? : List Join → Option String
  | [] => none
  | j :: rest =>
    if j.conditions.isEmpty then some (if rest.isEmpty then "GROUP" else "JOIN")
    else missingCondition? rest

end Evaluate

open Evaluate

namespace Statement

/-- The labels of the columns that a statement yields. -/
def labels : Statement → List String
  | .total _ => [measureLabel]
  | .grouped s => Evaluate.labels s
  | .combined first _ => Evaluate.labels first

/-- The selection whose tables are joined, if there is one. -/
def counted? : Statement → Option Selection
  | .total _ => none
  | .grouped s => some s
  | .combined first _ => some first

/-- Fails if a join lacks its conditions. -/
def checkForm (s : Statement) : Except DatabaseError Unit :=
  match s.counted?.bind fun sel => missingCondition? sel.source.joins with
  | some word => .error (.misplaced word)
  | none => .ok ()

/-- Looks up all names of a statement and computes its rows. -/
def rows (db : Database) : Statement → Except DatabaseError (List Row)
  | .total table =>
    match db.relation? table with
    | some r => .ok [[.int r.rows.length]]
    | none => .error (.noTable table)
  | .grouped s => do
    let scope ← scope db s.source
    checkColumns scope s
    return selectionRows scope s
  | .combined first second => do
    let secondScope ← scope db second.source
    let firstScope ← scope db first.source
    checkColumns secondScope second
    checkColumns firstScope first
    let all := selectionRows firstScope first ++ selectionRows secondScope second
    return regroup (first.keys.map fun k => unionPosition first k.column)
      (unionPosition first measureLabel) all

/-- Runs a statement. -/
def run (db : Database) (s : Statement) : Except DatabaseError (List Row) := do
  s.checkForm
  s.rows db

end Statement

end EntityAtlas.Sql
