import EntityAtlas.Markup.Conversion
import EntityAtlas.Registry.Import
import EntityAtlas.Sql.Location
import EntityAtlas.Sql.Stored

/-!
# What a run of the program finds

A run reads files and the environment, imports modules and opens databases. All of it is laid out
before the run, so that the run itself is a function. Paths are relative to the working directory.
-/

namespace EntityAtlas.CommandLine

/-- What a run of the program finds. -/
structure World where
  /-- The working directory. -/
  directory : String
  /-- The texts of the files, by absolute path. -/
  files : Table String
  /-- The variables of the environment. -/
  environment : Table String
  /-- The modules that can be imported. -/
  modules : Modules
  /-- The databases that exist, by absolute path. -/
  databases : Table Sql.Database

namespace World

/-- The steps of a path, with steps to the same place and back left out. -/
def steps (path : String) : List String :=
  (path.splitOn "/").foldl (fun done step =>
    if step = "" ∨ step = "." then done
    else if step = ".." then done.dropLast
    else done ++ [step]) []

/-- The absolute form of a path. -/
def absolute (w : World) (path : String) : String :=
  if path.startsWith "/" then "/" ++ "/".intercalate (steps path)
  else "/".intercalate (w.directory :: steps path)

/-- The text of the file at a path. -/
def text? (w : World) (path : String) : Option String := w.files.find? (w.absolute path)

/-- Whether there is a file at a path. -/
def isFile (w : World) (path : String) : Bool := (w.text? path).isSome

/-- The database at a location; one that does not exist yet is empty. -/
def database (w : World) : Sql.Location → Sql.Database
  | .memory => []
  | .file path => w.databases.findD (w.absolute path) []

/-- The file that comes into being when a database is opened, if it does not exist yet. -/
def createdBy (w : World) : Sql.Location → Option String
  | .memory => none
  | .file path =>
    let path := w.absolute path
    if w.databases.has path then none else some path

end World

end EntityAtlas.CommandLine
