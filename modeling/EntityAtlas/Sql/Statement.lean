import EntityAtlas.Sql.Dialect

/-!
# Statements

The statements that count queries are rendered to. A selection reads joined tables and yields one
row per group with a measure; a statement is a total, an ordered selection, or the regrouped union
of two selections. A statement knows the names it refers to but neither their quotation nor the
tables behind them.
-/

namespace EntityAtlas.Sql

/-- A column of a table that takes part under a name. -/
structure ColumnRef where
  /-- The name under which the table takes part. -/
  table : String
  /-- The name of the column. -/
  column : String
  deriving DecidableEq, Repr

/-- A table with the name under which it takes part. -/
structure Source where
  /-- The name of the table. -/
  table : String
  /-- The name under which it takes part. -/
  label : String
  deriving DecidableEq, Repr

/-- One more table, joined on equalities between columns. -/
structure Join where
  /-- The joined table. -/
  source : Source
  /-- The equalities, all of which must hold. -/
  conditions : List (ColumnRef × ColumnRef)
  deriving DecidableEq, Repr

/-- Tables joined one after the other. -/
structure From where
  /-- The first table. -/
  first : Source
  /-- The others. -/
  joins : List Join
  deriving DecidableEq, Repr

/-- What a selection yields besides its keys. -/
inductive Measure where
  /-- The number of rows of each group. -/
  | count
  /-- A zero for each row. -/
  | zero
  deriving DecidableEq, Repr

/-- Keys and a measure over joined tables. -/
structure Selection where
  /-- The key columns, each labelled by its column name. -/
  keys : List ColumnRef
  /-- What is yielded besides the keys. -/
  measure : Measure
  /-- The tables. -/
  source : From
  deriving DecidableEq, Repr

/-- A statement. -/
inductive Statement where
  /-- The number of rows of a table. -/
  | total (table : String)
  /-- A selection in the order of its keys. -/
  | grouped (selection : Selection)
  /-- The greatest measure of each key over both selections, in the order of the keys. -/
  | combined (first second : Selection)
  deriving DecidableEq, Repr

/-- The label of a measure. -/
def measureLabel : String := "count"

/-- The name of a union of two selections. -/
def unionLabel : String := "combined"

namespace Statement

/-- A column as it is written. -/
def columnText (d : Dialect) (c : ColumnRef) : String :=
  d.identifier c.table ++ "." ++ d.identifier c.column

/-- The label of a column: its name, and for a nameless one a number. -/
def columnLabel (name : String) : String := if name = "" then "_1" else name

/-- The label of a column as it is written. -/
def labelText (d : Dialect) (name : String) : String :=
  if name = "" then columnLabel name else d.identifier name

/-- A table with its name, as it is written. -/
def sourceText (d : Dialect) (s : Source) : String :=
  d.identifier s.table ++ " AS " ++ d.identifier s.label

/-- An equality as it is written. -/
def conditionText (d : Dialect) (c : ColumnRef × ColumnRef) : String :=
  columnText d c.1 ++ " = " ++ columnText d c.2

/-- A join as it is written; one without conditions leaves the place for them empty. -/
def joinText (d : Dialect) (j : Join) : String :=
  " JOIN " ++ sourceText d j.source ++ " ON " ++
    " AND ".intercalate (j.conditions.map (conditionText d))

/-- The tables as they are written. -/
def fromText (d : Dialect) (f : From) : String :=
  sourceText d f.first ++ String.join (f.joins.map (joinText d))

/-- Columns with commas between. -/
def columnsText (d : Dialect) (columns : List ColumnRef) : String :=
  ", ".intercalate (columns.map (columnText d))

/-- A measure as it is written. -/
def measureText (d : Dialect) : Measure → String
  | .count => "count(*) AS " ++ d.identifier measureLabel
  | .zero => "0 AS " ++ d.identifier measureLabel

/-- A selection as it is written; only counts are grouped. -/
def selectionText (d : Dialect) (s : Selection) : String :=
  let outputs := s.keys.map fun k => columnText d k ++ " AS " ++ labelText d k.column
  "SELECT " ++ ", ".intercalate (outputs ++ [measureText d s.measure]) ++ " \nFROM " ++
    fromText d s.source ++
    (match s.measure with
      | .count => " GROUP BY " ++ columnsText d s.keys
      | .zero => "")

/-- The keys of a selection as columns of a union. -/
def unionKeys (s : Selection) : List ColumnRef := s.keys.map fun k => ⟨unionLabel, k.column⟩

/-- The text of a statement in a dialect. -/
def text (d : Dialect) : Statement → String
  | .total table =>
    "SELECT " ++ measureText d .count ++ " \nFROM " ++ d.identifier table
  | .grouped s => selectionText d s ++ " ORDER BY " ++ columnsText d s.keys
  | .combined first second =>
    let keys := columnsText d (unionKeys first)
    "SELECT " ++ keys ++ ", max(" ++ columnText d ⟨unionLabel, measureLabel⟩ ++ ") AS " ++
      d.identifier measureLabel ++ " \nFROM (" ++ selectionText d first ++ " UNION ALL " ++
      selectionText d second ++ ") AS " ++ d.identifier unionLabel ++ " GROUP BY " ++ keys ++
      " ORDER BY " ++ keys

end Statement

end EntityAtlas.Sql
