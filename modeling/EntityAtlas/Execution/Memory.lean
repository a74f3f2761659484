import EntityAtlas.Execution.Executor
import EntityAtlas.Sql.Stored

/-!
# The embedded database

The tables of a `Sql.Database` behind a connection that speaks SQLite. Statements are run by their
meaning; only reading ones exist, so the data never change.
-/

namespace EntityAtlas

namespace Execution

open Sql

/-- The report of the embedded database on an error in a statement. -/
def refusal (s : Statement) (e : DatabaseError) : Refusal :=
  { report := "(sqlite3.OperationalError) " ++ e.message ++ "\n[SQL: " ++ s.text .sqlite ++ "]"
    detail := e.message }

/-- The report on rows with two columns of one label. -/
def ambiguous (label : String) : Refusal :=
  let text := "Ambiguous column name '" ++ label ++ "' in result set column descriptions"
  ⟨text, text⟩

/-- A row as a record by column label. -/
def record (labels : List String) (row : Row) : Document :=
  .record (labels.zip (row.map Value.toDocument))

/-- The first label that occurs again among the later ones. -/
def repeated? : List String → Option String
  | [] => none
  | label :: rest => if rest.contains label then some label else repeated? rest

/-- The answer of the embedded database to a statement. -/
def ask (db : Database) (s : Statement) : Except Refusal Document :=
  match s.run db with
  | .error e => .error (refusal s e)
  | .ok rows =>
    match repeated? s.labels with
    | some label => if rows.isEmpty then .ok (.list []) else .error (ambiguous label)
    | none => .ok (.list (rows.map (record s.labels)))

/-- The embedded database as a backend. -/
def embedded : Backend Database :=
  { dialect := "sqlite"
    refuses := fun _ => none
    run := fun _ s db => ((ask db s).mapError .refused).map fun rows => (rows, db)
    polls := 0 }

/-- The executor over the embedded database. -/
def onTables (db : Database) (timeout : Document := .int 100) : Executor :=
  executor embedded timeout db

end Execution

end EntityAtlas
