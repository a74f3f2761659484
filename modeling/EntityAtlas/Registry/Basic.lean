import EntityAtlas.Document.Literal
import EntityAtlas.Text.Order

/-!
# Registries of mapped classes

A registry lists the tables of an application and the classes that are mapped onto them. A class is
stored in a table, in a selection from a table, or together with the class it extends; it declares
relationships to other classes and has those of the classes it extends as well.
-/

namespace EntityAtlas

/-- A column, with the table it belongs to. -/
structure ColumnPath where
  /-- The key of the table. -/
  table : String
  /-- The name of the column. -/
  column : String
  deriving DecidableEq, Repr

namespace ColumnPath

/-- How a path is spelled: the table, a dot and the column. -/
def text (c : ColumnPath) : String := c.table ++ "." ++ c.column

/-- The path that a text spells: the last dot divides the table from the column. -/
def ofText (s : String) : ColumnPath :=
  let fromEnd := s.toList.reverse
  ⟨String.ofList ((fromEnd.dropWhile (· ≠ '.')).drop 1).reverse,
    String.ofList (fromEnd.takeWhile (· ≠ '.')).reverse⟩

/-- A path is read back from its text, dots in the key of the table notwithstanding. -/
theorem ofText_text {c : ColumnPath} (hcolumn : '.' ∉ c.column.toList) : ofText c.text = c := by
  have hspelled : c.text.toList.reverse =
      c.column.toList.reverse ++ '.' :: c.table.toList.reverse := by
    simp [text]
  have hplain : ∀ d ∈ c.column.toList.reverse, decide (d ≠ '.') = true := fun d hd =>
    decide_eq_true fun hdot => hcolumn (List.mem_reverse.mp (hdot ▸ hd))
  unfold ofText
  rw [hspelled]
  simp only [List.takeWhile_append_of_pos hplain, List.dropWhile_append_of_pos hplain]
  simp

end ColumnPath

/-- A column of a stored table. -/
structure StoredColumn where
  /-- The name of the column. -/
  name : String
  /-- Whether it is part of the primary key. -/
  isKey : Bool
  deriving DecidableEq, Repr

/-- A foreign key: columns of a table, each with the column that it refers to. -/
abbrev ForeignKey := List (String × ColumnPath)

/-- A table of the application. -/
structure StoredTable where
  /-- The part of the database that holds it, if it is named. -/
  schema : Option String
  /-- The name of the table. -/
  name : String
  /-- The columns, in order. -/
  columns : List StoredColumn
  /-- The foreign keys, in order. -/
  foreignKeys : List ForeignKey
  deriving DecidableEq, Repr

namespace StoredTable

/-- The key of a table: its name, after its schema if that is named. -/
def key (t : StoredTable) : String :=
  match t.schema with
  | none => t.name
  | some schema => schema ++ "." ++ t.name

/-- The first column of the primary key. -/
def primaryKey? (t : StoredTable) : Option String := (t.columns.find? (·.isKey)).map (·.name)

/-- Whether the table has a column. -/
def hasColumn (t : StoredTable) (name : String) : Bool := t.columns.any (·.name = name)

end StoredTable

/-- A column to sort by. -/
structure SortColumn where
  /-- The column. -/
  column : ColumnPath
  /-- Whether the greatest comes first. -/
  descending : Bool
  deriving DecidableEq, Repr

/-- A declared relationship from the class that declares it to another. -/
structure Relationship where
  /-- The name of the relationship. -/
  key : String
  /-- The name of the target class. -/
  target : String
  /-- The key of the table in between, if there is one. -/
  secondary : Option String
  /-- The columns that count as foreign; when none is listed, those of the foreign keys do. -/
  foreignColumns : List ColumnPath
  /-- The columns on the side of the target, where that is declared. -/
  remoteColumns : List ColumnPath
  /-- The join condition, where it is declared: pairs of a foreign column and one that it equals. -/
  condition : List (ColumnPath × ColumnPath)
  /-- Whether it leads to a list, where that is declared. -/
  many : Option Bool
  /-- The relationship that leads back, if it is named. -/
  inverse : Option String
  /-- Whether it serves for reading only. -/
  readOnly : Bool
  /-- How the target is loaded. -/
  loading : Document
  /-- Which operations spread to the target, where that is declared. -/
  cascade : Option String
  /-- The columns to sort by. -/
  ordering : List SortColumn
  /-- Further declared values. -/
  info : List (String × Document)

/-- Where the rows of a class are. -/
inductive Storage where
  /-- In the table of that key. -/
  | table (key : String)
  /-- In a selection from the table of that key. -/
  | selection (key : String)
  /-- With the class that it extends. -/
  | shared
  deriving DecidableEq, Repr

/-- A class mapped onto tables. -/
structure MappedClass where
  /-- The name of the class. -/
  name : String
  /-- Where its rows are. -/
  storage : Storage
  /-- The class that it extends, if there is one. -/
  parent : Option String
  /-- The relationships that it declares. -/
  relationships : List Relationship

/-- The tables and mapped classes of an application. -/
structure Registry where
  /-- The tables, in order of declaration. -/
  tables : List StoredTable
  /-- The classes, in order of declaration. -/
  classes : List MappedClass

namespace Registry

/-- The table of a key. -/
def table? (r : Registry) (key : String) : Option StoredTable := r.tables.find? (·.key = key)

/-- The class of a name. -/
def class? (r : Registry) (name : String) : Option MappedClass := r.classes.find? (·.name = name)

/-- A class and the classes that it extends, up to a number of steps. -/
def lineageWithin (r : Registry) : Nat → MappedClass → List MappedClass
  | 0, c => [c]
  | steps + 1, c =>
    match c.parent.bind r.class? with
    | some parent => c :: lineageWithin r steps parent
    | none => [c]

/-- A class and the classes that it extends, the nearest first. -/
def lineage (r : Registry) (c : MappedClass) : List MappedClass :=
  lineageWithin r r.classes.length c

/-- The storage of a class: its own, or else that of the nearest class it extends. -/
def storage (r : Registry) (c : MappedClass) : Storage :=
  ((r.lineage c).map (·.storage)).find? (· ≠ .shared) |>.getD .shared

/-- The keys of the tables that hold the rows of a class, its own first. -/
def tableKeys (r : Registry) (c : MappedClass) : List String :=
  (r.lineage c).flatMap fun a =>
    match a.storage with
    | .table key | .selection key => [key]
    | .shared => []

/-- The table of the class itself. -/
def localTable? (r : Registry) (c : MappedClass) : Option StoredTable :=
  (r.tableKeys c).head?.bind r.table?

/-- The relationships of a class, those of the classes it extends first. One that is declared again
stands at the place of the earlier. -/
def relationshipsOf (r : Registry) (c : MappedClass) : Table (String × Relationship) :=
  Table.ofEntries <| (r.lineage c).reverse.flatMap fun a =>
    a.relationships.map fun p => (p.key, (a.name, p))

/-- The names of the classes, in order of the alphabet. -/
def classNames (r : Registry) : List String := Text.sorted (r.classes.map (·.name))

end Registry

end EntityAtlas
