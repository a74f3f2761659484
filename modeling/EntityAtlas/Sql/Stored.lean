import EntityAtlas.Document.Basic
import EntityAtlas.Sql.Database

/-!
# Stored databases

A database can be kept as a document: a record of tables, each with its columns and rows. Only
nulls, whole numbers and texts are stored.
-/

namespace EntityAtlas.Sql

/-- A value as a document. -/
def Value.toDocument : Value → Document
  | .null => .null
  | .int i => .int i
  | .text s => .text s

/-- A document as a value; only nulls, whole numbers and texts are stored. -/
def Value.ofDocument : Document → Value
  | .int i => .int i
  | .bool b => .int (if b then 1 else 0)
  | .text s => .text s
  | _ => .null

/-- The items of a list; anything else has none. -/
def itemsOf : Document → List Document
  | .list items => items
  | _ => []

/-- A row as it is kept. -/
def Row.ofDocument (d : Document) : Row := (itemsOf d).map Value.ofDocument

/-- A table as it is kept. -/
def Relation.ofDocument (d : Document) : Relation :=
  { columns := (itemsOf ((d.field? "columns").getD .null)).filterMap fun c => match c with
      | .text name => some name
      | _ => none
    rows := (itemsOf ((d.field? "rows").getD .null)).map Row.ofDocument }

/-- A database as it is kept. -/
def Database.ofDocument : Document → Database
  | .record tables => tables.map fun (name, t) => (name, Relation.ofDocument t)
  | _ => []

/-- The values of a column, for a table that has it. -/
def Relation.column? (r : Relation) (name : String) : Option (List Value) :=
  (r.position? name).map fun i => r.rows.map fun row => row.getD i .null

end EntityAtlas.Sql
