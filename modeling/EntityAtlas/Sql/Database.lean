import EntityAtlas.Table
import EntityAtlas.Text.Order

/-!
# Databases

A database holds tables of rows by name. Columns have no declared type, so a value keeps its own and
is compared as it is: nulls come before numbers and numbers before texts; a number never equals a
text, and in a join a null equals nothing. Names of tables and columns are matched without regard to
ASCII letter case.
-/

namespace EntityAtlas.Sql

/-- A stored value. -/
inductive Value where
  /-- The absent value. -/
  | null
  /-- A whole number. -/
  | int (value : Int)
  /-- A text. -/
  | text (value : String)
  deriving DecidableEq, Repr, Inhabited

namespace Value

/-- Whether one value comes before another. -/
def less : Value → Value → Bool
  | .null, .null => false
  | .null, _ => true
  | _, .null => false
  | .int a, .int b => a < b
  | .int _, .text _ => true
  | .text _, .int _ => false
  | .text a, .text b => a < b

/-- Whether two values meet in a join: they are equal and not null. -/
def meets (a b : Value) : Bool := a ≠ .null && a = b

end Value

/-- A row of values, by column position. -/
abbrev Row := List Value

namespace Row

/-- Whether one row does not come after another, the first difference being decisive. -/
def notAfter : Row → Row → Bool
  | [], _ => true
  | _ :: _, [] => false
  | a :: as, b :: bs => if a = b then notAfter as bs else a.less b

end Row

/-- A stored table. -/
structure Relation where
  /-- The names of the columns. -/
  columns : List String
  /-- The rows, each with a value per column. -/
  rows : List Row
  deriving DecidableEq, Repr

/-- Whether two names are the same without regard to ASCII letter case. -/
def sameName (a b : String) : Bool := a.toLower = b.toLower

namespace Relation

/-- The position of a column. -/
def position? (r : Relation) (name : String) : Option Nat :=
  r.columns.findIdx? (sameName name)

end Relation

/-- The tables of a database, by name. -/
abbrev Database := Table Relation

namespace Database

/-- The table of a name. -/
def relation? (db : Database) (name : String) : Option Relation :=
  (List.find? (fun e => sameName e.1 name) db).map (·.2)

/-- Replaces the table of a name. -/
def update (name : String) (f : Relation → Relation) (db : Database) : Database :=
  db.map fun e => if sameName e.1 name then (e.1, f e.2) else e

/-- Removes the table of a name. -/
def drop (name : String) (db : Database) : Database := db.filter fun e => !sameName e.1 name

end Database

end EntityAtlas.Sql
