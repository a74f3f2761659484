import EntityAtlas.Text.Case

/-!
# SQL dialects

The dialects differ in the words they reserve and in whether a percent sign is doubled. A name
needs quotation marks when the dialect might read it as something else: a reserved word, a number,
or a name in capitals, whose case an unquoted name would lose.
-/

namespace EntityAtlas.Sql

/-- A dialect of SQL. -/
inductive Dialect where
  /-- The common core. -/
  | default
  /-- SQLite. -/
  | sqlite
  /-- PostgreSQL. -/
  | postgresql
  deriving DecidableEq, Repr

namespace Dialect

/-- Words between blanks. -/
def words (s : String) : List String := s.splitOn " "

/-- The words that the common core reserves. -/
def coreWords : List String := words
  ("all analyse analyze and any array as asc asymmetric authorization between binary both case " ++
   "cast check collate column constraint create cross current_date current_role current_time " ++
   "current_timestamp current_user default deferrable desc distinct do else end except false " ++
   "for foreign freeze from full grant group having ilike in initially inner intersect into is " ++
   "isnull join leading left like limit localtime localtimestamp natural new not notnull null " ++
   "off offset old on only or order outer overlaps placing primary references right select " ++
   "session_user set similar some symmetric table then to trailing true union unique user using " ++
   "verbose when where")

/-- The words that SQLite reserves. -/
def sqliteWords : List String := words
  ("add after all alter analyze and as asc attach autoincrement before begin between by cascade " ++
   "case cast check collate column commit conflict constraint create cross current_date " ++
   "current_time current_timestamp database default deferrable deferred delete desc detach " ++
   "distinct drop each else end escape except exclusive exists explain fail false for foreign " ++
   "from full glob group having if ignore immediate in index indexed initially inner insert " ++
   "instead intersect into is isnull join key left like limit match natural not notnull null of " ++
   "offset on or order outer plan pragma primary query raise references reindex rename replace " ++
   "restrict right rollback row select set table temp temporary then to transaction trigger " ++
   "true union unique update using vacuum values view virtual when where")

/-- The words that PostgreSQL reserves beyond the common core. -/
def postgresqlWords : List String := words
  "current_catalog current_schema fetch of over returning variadic window with"

/-- The reserved words of a dialect. -/
def reserved : Dialect → List String
  | .default => coreWords
  | .sqlite => sqliteWords
  | .postgresql => coreWords.filter (· ≠ "set") ++ postgresqlWords

/-- Whether a character may stand in a name without quotation marks. -/
def isPlain (c : Char) : Bool := c.isAlphanum || c = '_' || c = '$'

/-- Whether a name needs quotation marks. -/
def needsQuotes (d : Dialect) (name : String) : Bool :=
  let lowered := Text.lower name
  name = "" || d.reserved.contains lowered ||
    name.toList.head?.any (fun c => c.isDigit || c = '$') || !name.toList.all isPlain ||
    lowered ≠ name

/-- A name between quotation marks, with quotation marks inside doubled. -/
def quote (name : String) : String :=
  "\"" ++ String.ofList (name.toList.flatMap fun c => if c = '"' then ['"', '"'] else [c]) ++ "\""

/-- A name with the percent signs that a dialect wants doubled. -/
def percent (d : Dialect) (name : String) : String :=
  match d with
  | .postgresql =>
    String.ofList (name.toList.flatMap fun c => if c = '%' then ['%', '%'] else [c])
  | _ => name

/-- A name as it is written in a statement. -/
def identifier (d : Dialect) (name : String) : String :=
  d.percent (if d.needsQuotes name then quote name else name)

end Dialect

end EntityAtlas.Sql
