import EntityAtlas.Document.Access
import EntityAtlas.Validation.Issue

/-!
# Why metadata cannot be loaded

Metadata comes from a declaration, a file or a registry of mapped classes. Whatever is wrong with
the source is a load error: a question its shape cannot answer, a report of validation, an unknown
kind, a missing target, an unreadable file, or an import path that leads nowhere.
-/

namespace EntityAtlas

/-- A reason why metadata cannot be loaded. -/
inductive LoadError where
  /-- The declaration does not have the expected shape. -/
  | shape (fault : Fault)
  /-- A part of the declaration is invalid. -/
  | invalid (report : ValidationReport)
  /-- The kind of an association is none of the known ones. -/
  | unknownKind (given : String)
  /-- An association names no target and is not polymorphic. -/
  | noTarget (owner name : String)
  /-- A file is absent or does not follow its notation. -/
  | unreadable (path : String)
  /-- A file holds something else than a record. -/
  | notMapping (path : String)
  /-- An import path names no member of its module. -/
  | badImportPath (path : String)
  /-- A module cannot be imported. -/
  | cannotImport (module reason : String)
  /-- A module lacks the member. -/
  | noMember (module member : String)
  /-- What an import path leads to is no registry; its literal is given. -/
  | notRegistry (shown : String)
  /-- No import path is configured. -/
  | notConfigured
  deriving DecidableEq, Repr

namespace LoadError

/-- A fault of the declaration with its category. -/
def invalidSnapshot (category text : String) : String :=
  "Invalid snapshot: " ++ category ++ ": " ++ text

/-- The wording of a load error. -/
def message : LoadError → String
  | .shape fault => invalidSnapshot fault.category fault.message
  | .invalid report => invalidSnapshot "ValidationError" report.message
  | .unknownKind given => invalidSnapshot "ValueError" (given ++ " is not a valid AssociationKind")
  | .noTarget owner name =>
    "Association " ++ owner ++ "." ++ name ++ " has no target and is not polymorphic"
  | .unreadable path => "Cannot read snapshot " ++ path
  | .notMapping path => "Snapshot " ++ path ++ " must be a mapping"
  | .badImportPath path => "Expected 'module:attribute', got " ++ Text.quoted path
  | .cannotImport module reason => "Cannot import " ++ module ++ ": " ++ reason
  | .noMember module member => module ++ " has no attribute " ++ member
  | .notRegistry shown => shown ++ " is neither a declarative base nor a registry"
  | .notConfigured => "No model registry configured (METRICGRAPH_MODELS)"

end LoadError

end EntityAtlas
