import EntityAtlas.Text.Order
import EntityAtlas.Validation.Format

/-!
# Settings

The settings of the agent with their defaults. A setting that is given is validated, and a report
names all settings that are at fault, in their order. What was given at all is remembered: a command
may ask whether a setting was left to its default.
-/

namespace EntityAtlas

/-- The settings of the agent. -/
structure Settings where
  /-- The token presented to the control plane. -/
  projectKey : Option String
  /-- Where the control plane is. -/
  uri : Option String
  /-- The address of the database. -/
  databaseUrl : String
  /-- The import path of the registry. -/
  models : Option String
  /-- The time that a query may take, in milliseconds. -/
  timeout : Int
  /-- Whether everything is noted in the journal. -/
  debug : Bool
  /-- The level from which on events are written. -/
  logLevel : String
  /-- How events are written. -/
  logFormat : String
  /-- The names of the settings that were given, in order of the alphabet. -/
  given : List String
  deriving DecidableEq, Repr

namespace Settings

open Format

/-- The names of the settings. -/
def names : List String :=
  ["project_key", "uri", "database_url", "models", "statement_timeout_ms", "debug", "log_level",
   "log_format"]

/-- Reads settings from named values; unknown names are ignored. -/
def check (values : Table Document) : Checked Settings :=
  (fun projectKey uri databaseUrl models timeout debug logLevel logFormat =>
    { projectKey, uri, databaseUrl, models, timeout, debug, logLevel, logFormat
      given := Text.sorted (names.filter fun name => values.has name) })
    <$> fieldD (optional text) "project_key" none values
    <*> fieldD (optional text) "uri" none values
    <*> fieldD text "database_url" "sqlite:///./app.db" values
    <*> fieldD (optional text) "models" none values
    <*> fieldD ⟨Validation.intFrom 1, .int⟩ "statement_timeout_ms" 100 values
    <*> fieldD bool "debug" false values
    <*> fieldD text "log_level" "WARNING" values
    <*> fieldD text "log_format" "console" values

/-- Reads settings, or reports all that are at fault. -/
def read (values : Table Document) : Except ValidationReport Settings :=
  (check values).toExcept "Settings"

/-- The level from which on events are written, which is the lowest one when debugging. -/
def effectiveLevel (s : Settings) : String := if s.debug then "DEBUG" else s.logLevel

/-- The headers that identify the agent, unless it has no token. -/
def headers (s : Settings) : Option (Table String) :=
  (s.projectKey.filter (· ≠ "")).map fun key => [("Authorization", "Bearer " ++ key)]

/-- The registry's import path, unless it is missing or empty. -/
def modelsPath? (s : Settings) : Option String := s.models.filter (· ≠ "")

end Settings

end EntityAtlas
