import EntityAtlas.Registry.Reflection
import EntityAtlas.Request.Provider
import EntityAtlas.Validation.Format

/-!
# Metadata from a registry

A registry of mapped classes provides metadata: its snapshot, with the tables and the version of the
schema that the database shows.
-/

namespace EntityAtlas.Registry

/-- The version that a database records, which has to be a text. -/
def recordedVersion (inspection : Option Inspection) : Except ValidationReport (Option String) :=
  let version := (inspection.map (·.version)).getD .null
  (((Format.optional Format.text).read version).under (.name "schema_version")).toExcept
    "MetadataSnapshot"

/-- The provider of a registry, with what the database shows of itself. A recorded version that is
no text is a fault of the database and not of the metadata, so then there is no provider at all. -/
def provider (r : Registry) (inspection : Option Inspection) : Except ValidationReport Provider :=
  match r.configure with
  | .error e => .ok { snapshot := .error (.mapping e), mapped := true }
  | .ok described => do
    let version ← recordedVersion inspection
    return { snapshot := .ok (r.snapshot described inspection version), mapped := true }

end EntityAtlas.Registry
