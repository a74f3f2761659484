import EntityAtlas.Registry.Import
import EntityAtlas.Request.Reflected
import EntityAtlas.Settings.Basic
import EntityAtlas.Sql.Location
import EntityAtlas.Sql.Stored

/-!
# An agent as configured

The settings name the registry and the database that an agent works on. The database shows which
tables there are and, in a table of its own, the version of the schema.
-/

namespace EntityAtlas

/-- Why an agent cannot be set up. -/
inductive WiringFault where
  /-- The address of the database is wrong. -/
  | location (fault : Sql.LocationFault)
  /-- The registry cannot be imported. -/
  | importing (error : ImportError)
  deriving DecidableEq, Repr

namespace WiringFault

/-- The wording of a fault. -/
def message : WiringFault → String
  | .location f => f.message
  | .importing e => e.message

/-- The category of a fault. -/
def category : WiringFault → String
  | .location f => f.category
  | .importing e => e.category

end WiringFault

/-- What an agent works on. -/
structure Wiring where
  /-- The mapped classes. -/
  registry : Registry
  /-- Where the database is, for metadata and queries alike. -/
  location : Sql.Location
  /-- The time that a query may take, in milliseconds. -/
  timeout : Int

namespace Wiring

/-- Sets up what the settings name. -/
def ofSettings (modules : Modules) (s : Settings) : Except WiringFault Wiring :=
  match s.modelsPath? with
  | none => .error (.importing (.load .notConfigured))
  | some path => do
    let location ← (Sql.Location.ofAddress s.databaseUrl).mapError .location
    let registry ← (ImportPath.resolve modules path).mapError .importing
    return ⟨registry, location, s.timeout⟩

end Wiring

namespace Inspection

/-- The column that holds the version. -/
def versionColumn : String := "version_num"

/-- What a database shows of itself. -/
def ofDatabase (db : Sql.Database) : Inspection :=
  { tables := db.map (·.1)
    versions := ((db.relation? versionTable).bind (·.column? versionColumn)).map fun values =>
      values.map Sql.Value.toDocument }

end Inspection

end EntityAtlas
