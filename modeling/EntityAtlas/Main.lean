import EntityAtlas.CommandLine.Program
import EntityAtlas.Document.Indented
import EntityAtlas.Journal.Output
import EntityAtlas.Journal.Timestamp
import Std.Time.DateTime.Timestamp

/-!
# The program

Lays out what the arguments mention, runs the command on it, and prints what the run printed. The
tables of a database are kept in its file as a plain document.
-/

namespace EntityAtlas.CommandLine

/-- How the program is used. -/
def usage : List String :=
  ["Usage: entity-atlas [--debug] COMMAND [ARGUMENT]...",
   "",
   "  schema                     List entities by importance with their associations.",
   "  metrics INSTRUCTIONS_FILE  Compile and run metric instructions.",
   "  path SOURCE PIVOT          Show the join path from an entity to a pivot.",
   "",
   "  -m, --models TEXT        Declarative base or registry as 'module:attribute'",
   "  -d, --database-url TEXT  Address of the database",
   "  -s, --snapshot FILE      Metadata snapshot used instead of a registry",
   "  --json                   Print raw JSON",
   "  --timeout-ms INTEGER     Per-query time bound in milliseconds"]

/-- The text of a file, if it can be read. -/
def contentOf (path : String) : IO (Option String) := do
  try return some (← IO.FS.readFile path)
  catch _ => return none

/-- The texts of those files that can be read. -/
def contentsOf (w : World) (paths : List String) : IO (Table String) := do
  let found ← paths.mapM fun path => do
    return (← contentOf (w.absolute path)).map fun text => (w.absolute path, text)
  return found.filterMap id

/-- The variables of the environment that give settings. -/
def environmentOf : IO (Table String) := do
  let spellings := Settings.names.flatMap fun name =>
    [Settings.leadingWord ++ name, (Settings.leadingWord ++ name).toUpper]
  let found ← spellings.mapM fun name => do
    return (← IO.getEnv name).map fun value => (name, value)
  return found.filterMap id

/-- The command that the arguments name, whatever the files they mention. -/
def commandOf? (arguments : List String) : Option Command :=
  match Invocation.read (fun _ => true) arguments with
  | .command _ (.run c) => some c
  | _ => none

/-- The address of the database that a command works on. -/
def addressOf (w : World) (c : Command) : String :=
  match c.metadata.databaseUrl, Program.settings w with
  | some address, _ => address
  | none, .ok s => s.databaseUrl
  | none, .error _ => ""

/-- The database at an address, by the path of its file, if there is one. -/
def databasesAt (w : World) (address : String) : IO (Table Sql.Database) := do
  match Sql.Location.ofAddress address with
  | .ok (.file path) =>
    match (← contentOf (w.absolute path)).map Markup.read with
    | some (.ok d) => return [(w.absolute path, Sql.Database.ofDocument d)]
    | _ => return []
  | _ => return []

/-- Everything that a run finds. -/
def surroundings (arguments : List String) : IO World := do
  let bare : World :=
    { directory := (← IO.currentDir).toString, files := [], environment := ← environmentOf
      modules := [], databases := [] }
  match commandOf? arguments with
  | none => return { bare with files := ← contentsOf bare [".env"] }
  | some c => do
    let w := { bare with files := ← contentsOf bare (".env" :: c.paths) }
    return { w with databases := ← databasesAt w (addressOf w c) }

/-- The moment, in microseconds. -/
def microseconds : IO Nat := do
  return (← Std.Time.Timestamp.now).toNanosecondsSinceUnixEpoch.val.toNat / 1000

/-- Writes the events that the settings admit. -/
def writeEvents (s : JournalSettings) (events : List Event) : IO Unit := do
  let moment := timestamp (← microseconds)
  for e in events do
    if s.admits e then
      IO.eprintln (match s.format with
        | .console => e.line moment
        | .json => (e.record (.text moment)).interchange)

/-- Prints what a run printed, unless the journal cannot be written as asked. -/
def report (ending : Program.Ending) (t : Transcript) : IO UInt32 := do
  match t.journalWords.map fun words => JournalSettings.read words.1 words.2 with
  | some (.error f) =>
    IO.eprintln (f.category ++ ": " ++ f.message)
    return 1
  | some (.ok s) => writeEvents s t.journal.events
  | none => pure ()
  t.lines.forM IO.println
  t.document.forM fun d => IO.println (d.indented 0)
  match ending with
  | .escaped category message => IO.eprintln (category ++ ": " ++ message)
  | .code _ => pure ()
  return ending.exitCode.toUInt32

/-- Makes the file of a database that was opened and did not exist yet; it holds no tables. -/
def createDatabase (w : World) (t : Transcript) : IO Unit :=
  (t.opened.bind w.createdBy).forM fun path => IO.FS.writeFile path ""

/-- Does what the arguments ask for and gives the code with which the process ends. -/
def execute (arguments : List String) : IO UInt32 := do
  let w ← surroundings arguments
  match Invocation.read w.isFile arguments with
  | .help | .command _ .help =>
    usage.forM IO.println
    return 0
  | .misused | .command _ .misused =>
    usage.forM IO.eprintln
    return 2
  | .command _ (.run _) =>
    let (ending, t) := Program.run w .real arguments
    createDatabase w t
    report ending t

end EntityAtlas.CommandLine

/-- Runs the program. -/
def main (arguments : List String) : IO UInt32 := EntityAtlas.CommandLine.execute arguments
