import EntityAtlas.CommandLine.Command
import EntityAtlas.CommandLine.World
import EntityAtlas.Decimal.Fixed
import EntityAtlas.Entity.Declaration
import EntityAtlas.Execution.Memory
import EntityAtlas.Graph.Ranking
import EntityAtlas.Request.Metrics
import EntityAtlas.Request.Path
import EntityAtlas.Request.Schema
import EntityAtlas.Request.Wiring
import EntityAtlas.Settings.Source
import EntityAtlas.Terminal.Grid
import EntityAtlas.Terminal.Styled
import EntityAtlas.Validation.Detail

/-!
# Running the program

A run prints lines or a document and ends with a code: 0 when it did what was asked, 1 when the
answer is a failure, and 2 when it was not asked properly. An error that no command expects ends the
run at once, what was printed before it remains.
-/

namespace EntityAtlas.CommandLine

/-- Why a run ends early. -/
inductive Stop where
  /-- With a code, everything being said. -/
  | ended (code : Nat)
  /-- With an error that is not expected. -/
  | escaped (category message : String)
  deriving DecidableEq, Repr

/-- What a run has done so far. -/
structure Transcript where
  /-- The lines that were printed. -/
  lines : List String
  /-- The document that was printed, if one was. -/
  document : Option Document
  /-- The journal. -/
  journal : Journal
  /-- How the journal was asked to be written: the words for the level and the format. -/
  journalWords : Option (String × String)
  /-- The database that was opened, if one was. -/
  opened : Option Sql.Location

namespace Transcript

/-- Nothing was done. -/
def empty : Transcript := ⟨[], none, .empty, none, none⟩

end Transcript

/-- A part of a run. -/
abbrev Run (α : Type) := ExceptT Stop (StateM Transcript) α

namespace Run

variable {α ε : Type}

/-- Ends the run with an error that is not expected. -/
def escape (category message : String) : Run α := throw (.escaped category message)

/-- Prints a styled text. -/
def print (styled : String) : Run Unit :=
  match Terminal.Styled.plain styled with
  | .ok s => modify fun t => { t with lines := t.lines ++ s.splitOn "\n" }
  | .error f => escape "MarkupError" f.message

/-- Prints a text in a style. -/
def printIn (style text : String) : Run Unit :=
  print ("[" ++ style ++ "]" ++ text ++ "[/" ++ style ++ "]")

/-- Prints an error and ends the run. -/
def fail (code : Nat) (text : String) : Run α := do
  printIn "red" text
  throw (.ended code)

/-- A cell of a grid as it is shown. -/
def cell (styled : String) : Run String :=
  match Terminal.Styled.plain styled with
  | .ok s => return s
  | .error f => escape "MarkupError" f.message

/-- Prints a grid of styled cells. -/
def printGrid (columns : List Terminal.GridColumn) (rows : List (List String)) : Run Unit := do
  let headings ← columns.mapM fun c => return { c with heading := ← cell c.heading }
  let shown ← rows.mapM fun row => row.mapM cell
  modify fun t => { t with lines := t.lines ++ Terminal.Grid.lines ⟨headings, shown⟩ }

/-- Prints a document. -/
def printDocument (d : Document) : Run Unit := modify fun t => { t with document := some d }

/-- Notes that a database was opened. -/
def noteOpened (location : Sql.Location) : Run Unit :=
  modify fun t => { t with opened := some location }

/-- Does recorded work, an error of which is not expected. -/
def perform (work : Recorded Escape α) : Run α := do
  let t ← getThe Transcript
  let stopping := work.adapt fun e => Stop.escaped e.category e.message
  let (result, journal) := stopping.perform t.journal
  set { t with journal }
  MonadExcept.ofExcept result

/-- The value of an outcome; a failure is printed and ends the run. -/
def valueOf (o : Outcome α) : Run α :=
  match o.success, o.value with
  | true, some a => return a
  | _, _ => fail 1 ((Document.ofText? o.error).display)

end Run

namespace Program

open Run

/-- The settings that a run finds. -/
def settings (w : World) : Except ValidationReport Settings :=
  Settings.gather [] w.environment (w.text? ".env")

/-- An option, or else a setting; an empty text counts as nothing. -/
def chosen? (option fallback : Option String) : Option String :=
  match option.filter (· ≠ "") with
  | some given => some given
  | none => fallback.filter (· ≠ "")

/-- The location of the database that a command names, or else the settings. -/
def location (s : Settings) (m : MetadataOptions) : Run Sql.Location :=
  match Sql.Location.ofAddress ((chosen? m.databaseUrl none).getD s.databaseUrl) with
  | .ok location => return location
  | .error f => escape f.category f.message

/-- The provider of a declared snapshot. -/
def declared (w : World) (path : String) : Run Provider :=
  match Declaration.load (w.absolute path) (w.text? path) with
  | .ok s => return { snapshot := .ok s }
  | .error (.load e) => fail 1 e.message
  | .error (.scalar reason) => escape "ValueError" reason

/-- The provider of a registry, with the database it is looked up in. A registry whose mapping is
rejected is not looked up at all. -/
def mapped (w : World) (registry : Registry) (location : Sql.Location) : Run Provider := do
  if registry.configure.toBool then noteOpened location
  match registry.provider (some (Inspection.ofDatabase (w.database location))) with
  | .ok p => return p
  | .error report => escape "ValidationError" report.message

/-- The source of metadata that a command names. -/
def provider (w : World) (s : Settings) (m : MetadataOptions) : Run Provider :=
  match m.snapshot with
  | some path => declared w path
  | none =>
    match chosen? m.models s.models with
    | none => fail 2 "Pass --models or --snapshot (or set METRICGRAPH_MODELS)"
    | some path => do
      let location ← location s m
      match ImportPath.resolve w.modules path with
      | .ok registry => mapped w registry location
      | .error (.load e) => fail 1 e.message
      | .error e => escape e.category e.message

/-- An association in the list of entities. -/
def associationText (a : AssociationSchema) : String :=
  let arrow := match a.targetEntity.filter (· ≠ "") with
    | some target => " -> " ++ target
    | none => ""
  a.name ++ " (" ++ a.kind ++ arrow ++ ")"

/-- The row of an entity in the list of entities. -/
def entityRow (e : EntitySchema Float) : List String :=
  [e.name, e.tableName, (e.rank.map (Decimal.fixed 4)).getD "-",
   ", ".intercalate (e.associations.map associationText)]

/-- The columns of the list of entities. -/
def entityColumns : List Terminal.GridColumn :=
  [⟨"Entity", false⟩, ⟨"Table", false⟩, ⟨"Rank", true⟩, ⟨"Associations", false⟩]

/-- Lists the entities. -/
def schema (w : World) (rank : Float → Document) (s : Settings) (m : MetadataOptions)
    (asDocument : Bool) : Run Unit := do
  let p ← provider w s m
  let o ← perform (Schema.describe RankingOptions.usual p)
  let response ← valueOf o
  if asDocument then printDocument (response.toDocument rank)
  else
    o.warnings.forM (printIn "yellow")
    printGrid entityColumns (response.entities.map entityRow)
    match response.schemaVersion.filter (· ≠ "") with
    | some version => print ("Schema version: " ++ version)
    | none => return

/-- The instructions in a file: a list, or a record that has one. -/
def instructions (w : World) (file : String) : Run (List Document) :=
  match Markup.read ((w.text? file).getD "") with
  | .error .malformed => fail 1 "Invalid instructions file"
  | .error (.scalar reason) => escape "ValueError" reason
  | .ok d =>
    let d := match d with
      | .record fields => Table.findD "instructions" Document.null fields
      | d => d
    match d with
    | .list items => return items
    | _ => fail 1 "Instructions file must contain a list of instructions"

/-- Whether the journal tells of a query that was run. -/
def hasQueried (j : Journal) : Bool :=
  j.events.any fun e => e.name = "query_executed" || e.name = "query_failed"

/-- The pages on errors of the database. -/
def databasePages : HelpPages := ⟨"sqlalche.me", ["e", "21"]⟩

/-- A refusal with a hint at the page that explains it; one that the database did not report itself
has none. -/
def explained (r : Refusal) : Refusal :=
  if r.report = r.detail then r
  else { r with
    report := r.report ++ "\n(Background on this error at: " ++ databasePages.page "e3q8" ++ ")" }

/-- The embedded database with refusals that hint at an explanation. -/
def explaining : Backend Sql.Database :=
  { Execution.embedded with
    run := fun writable s db =>
      (Execution.embedded.run writable s db).mapError (.mapRefusal explained) }

/-- The result with a detailed report in place of a short one, if the request is no instruction. -/
def detailed (r : Request) (result : MetricResult) : MetricResult :=
  match r with
  | .raw (.record fields) =>
    match MetricInstruction.format.parse "MetricInstruction" (.record fields) with
    | .ok _ => result
    | .error report => { result with
        message := some ("Malformed instruction: " ++
          report.detailed .onValidation (.record fields)) }
  | _ => result

/-- Prints the result of one metric. -/
def printResult (r : MetricResult) : Run Unit :=
  match r.error.filter (· ≠ "") with
  | some code =>
    print ("[red]" ++ r.id.display ++ ": " ++ code ++ "[/red] " ++
      (Document.ofText? r.message).display)
  | none => do
    printIn "cyan" r.id.display
    match r.rows with
    | [] => print "  (no rows)"
    | first :: _ =>
      printGrid (first.names.map fun name => ⟨name, false⟩)
        (r.rows.map fun row => row.map fun e => e.2.display)

/-- Computes the metrics that a file asks for. -/
def metrics (w : World) (s : Settings) (file : String) (m : MetadataOptions) (timeout : Option Int)
    (asDocument : Bool) : Run Unit := do
  if m.snapshot.isSome && m.databaseUrl.isNone && !s.given.contains "database_url" then
    fail 2 ("--snapshot only replaces the metadata; pass --database-url (or set " ++
      "METRICGRAPH_DATABASE_URL) for the queries")
  let requests := (← instructions w file).map Request.raw
  let location ← location s m
  let limit := (timeout.filter (· ≠ 0)).getD s.timeout
  let db := w.database location
  let run := if asDocument then Execution.executor explaining (.int limit) db
    else Execution.onTables db (.int limit)
  let p ← provider w s m
  let o ← perform (Metrics.compute p run (some (.ok requests)))
  if hasQueried (← getThe Transcript).journal then noteOpened location
  let response ← valueOf o
  if asDocument then
    let results := (requests.zip response.results).map fun (r, result) => detailed r result
    printDocument (MetricsResponse.format.write { response with results })
  else response.results.forM printResult

/-- Shows the join path between two entities. -/
def path (w : World) (s : Settings) (source pivot : String) (m : MetadataOptions) : Run Unit := do
  let p ← provider w s m
  let o ← perform (JoinPath.find p source pivot)
  match ← valueOf o with
  | [] => print (source ++ " is " ++ pivot ++ " (no joins)")
  | names => print (" -> ".intercalate (source :: names))

/-- Runs a command. -/
def command (w : World) (rank : Float → Document) (s : Settings) : Command → Run Unit
  | .schema m asDocument => schema w rank s m asDocument
  | .metrics file m timeout asDocument => metrics w s file m timeout asDocument
  | .path source pivot m => path w s source pivot m

/-- Sets the program up and does what is asked. -/
def invoke (w : World) (rank : Float → Document) (arguments : List String) : Run Unit :=
  match Invocation.read w.isFile arguments with
  | .help => return
  | .misused => throw (.ended 2)
  | .command debug asked =>
    match settings w with
    | .error report => escape "ValidationError" report.message
    | .ok s => do
      let level := if debug then "DEBUG" else s.effectiveLevel
      modify fun t => { t with journalWords := some (level, s.logFormat) }
      match asked with
      | .help => return
      | .misused => throw (.ended 2)
      | .run c => command w rank s c

/-- How a run ended. -/
inductive Ending where
  /-- With a code. -/
  | code (code : Nat)
  /-- With an error that is not expected. -/
  | escaped (category message : String)
  deriving DecidableEq, Repr

/-- The code with which the process ends. -/
def Ending.exitCode : Ending → Nat
  | .code n => n
  | .escaped _ _ => 1

/-- Runs the program with its arguments, given how a rank is written in a document. -/
def run (w : World) (rank : Float → Document) (arguments : List String) : Ending × Transcript :=
  let (result, t) := Id.run ((invoke w rank arguments).run.run .empty)
  match result with
  | .ok () => (.code 0, t)
  | .error (.ended n) => (.code n, t)
  | .error (.escaped category message) => (.escaped category message, t)

end Program

end EntityAtlas.CommandLine
