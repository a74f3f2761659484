import EntityAtlas.CommandLine.Arguments
import EntityAtlas.Execution.Timeout

/-!
# Commands

The program has three commands: one lists the entities, one computes metrics, and one shows a join
path. What cannot be understood is a usage error; one in front of the command is found before the
program is set up, one after it only then.
-/

namespace EntityAtlas.CommandLine

/-- Where a command takes metadata from. -/
structure MetadataOptions where
  /-- The import path of a registry. -/
  models : Option String
  /-- The address of the database. -/
  databaseUrl : Option String
  /-- The path of a declared snapshot. -/
  snapshot : Option String
  deriving DecidableEq, Repr

/-- A command with its arguments. -/
inductive Command where
  /-- List the entities, as a document or as a grid. -/
  | schema (metadata : MetadataOptions) (asDocument : Bool)
  /-- Compute the metrics that a file asks for. -/
  | metrics (file : String) (metadata : MetadataOptions) (timeout : Option Int) (asDocument : Bool)
  /-- Show the join path between two entities. -/
  | path (source pivot : String) (metadata : MetadataOptions)
  deriving DecidableEq, Repr

namespace Command

/-- Where a command takes metadata from. -/
def metadata : Command → MetadataOptions
  | .schema m _ => m
  | .metrics _ m _ _ => m
  | .path _ _ m => m

/-- The paths of the files that a command reads. -/
def paths : Command → List String
  | .schema m _ => m.snapshot.toList
  | .metrics file m _ _ => file :: m.snapshot.toList
  | .path _ _ m => m.snapshot.toList

end Command

/-- What the arguments after the name of a command ask for. -/
inductive Asked where
  /-- A description of the command. -/
  | help
  /-- Nothing that can be understood. -/
  | misused
  /-- The command itself. -/
  | run (command : Command)
  deriving DecidableEq, Repr

/-- What all arguments ask for. -/
inductive Invocation where
  /-- A description of the program. -/
  | help
  /-- Nothing that can be understood. -/
  | misused
  /-- Something, once the program is set up. -/
  | command (debug : Bool) (asked : Asked)
  deriving DecidableEq, Repr

namespace Invocation

/-- The option that asks for a description. -/
def helpOption : OptionSpec := ⟨["--help"], false⟩

/-- The options in front of the command. -/
def programOptions : List OptionSpec := [⟨["--debug"], false⟩, helpOption]

/-- The options on where metadata comes from. -/
def metadataOptions : List OptionSpec :=
  [⟨["--models", "-m"], true⟩, ⟨["--database-url", "-d"], true⟩, ⟨["--snapshot", "-s"], true⟩]

/-- The option to print a document. -/
def documentOption : OptionSpec := ⟨["--json"], false⟩

/-- The option on the time that a query may take. -/
def timeoutOption : OptionSpec := ⟨["--timeout-ms"], true⟩

/-- The options on metadata that were given. -/
def metadata (a : Arguments) : MetadataOptions :=
  ⟨a.value? "--models", a.value? "--database-url", a.value? "--snapshot"⟩

/-- What the options and positional arguments of a command ask for, given which paths are files and
how many positional arguments there have to be. -/
def understood (isFile : String → Bool) (specs : List OptionSpec) (arguments : List String)
    (command : Arguments → Option Command) : Asked :=
  match Arguments.read (specs ++ [helpOption]) true arguments with
  | none => .misused
  | some a =>
    if a.has "--help" then .help
    else if (a.value? "--snapshot").any (!isFile ·) then .misused
    else match command a with
      | some c => .run c
      | none => .misused

/-- The command that lists the entities. -/
def schema (a : Arguments) : Option Command :=
  match a.positional with
  | [] => some (.schema (metadata a) (a.has "--json"))
  | _ => none

/-- The command that computes metrics. -/
def metrics (isFile : String → Bool) (a : Arguments) : Option Command :=
  match a.positional with
  | [file] =>
    if !isFile file then none
    else match a.value? "--timeout-ms" with
      | none => some (.metrics file (metadata a) none (a.has "--json"))
      | some given => (Timeout.spelled? given).map fun limit =>
        .metrics file (metadata a) (some limit) (a.has "--json")
  | _ => none

/-- The command that shows a join path. -/
def path (a : Arguments) : Option Command :=
  match a.positional with
  | [source, pivot] => some (.path source pivot (metadata a))
  | _ => none

/-- What the arguments of a named command ask for, if there is such a command. -/
def asked? (isFile : String → Bool) (arguments : List String) : String → Option Asked
  | "schema" => some (understood isFile (metadataOptions ++ [documentOption]) arguments schema)
  | "metrics" => some
    (understood isFile (metadataOptions ++ [timeoutOption, documentOption]) arguments
      (metrics isFile))
  | "path" => some (understood isFile metadataOptions arguments path)
  | _ => none

/-- Reads all arguments, given which paths are files. -/
def read (isFile : String → Bool) (arguments : List String) : Invocation :=
  match Arguments.read programOptions false arguments with
  | none => .misused
  | some a =>
    if a.has "--help" then .help
    else match a.positional with
      | [] => .misused
      | name :: rest =>
        match asked? isFile rest name with
        | some asked => .command (a.has "--debug") asked
        | none => .misused

end Invocation

end EntityAtlas.CommandLine
