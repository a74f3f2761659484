import EntityAtlas.Entity.LoadError
import EntityAtlas.Registry.Basic

/-!
# Import paths

An import path names a registry as a member of a module: the name of the module, a colon, and the
name of the member. Modules have dotted names; a known module is not the container of another, so a
dotted name below it leads nowhere.
-/

namespace EntityAtlas

/-- A member of a module. -/
inductive Member where
  /-- A registry, or a class that carries one. -/
  | registry (value : Registry)
  /-- Anything else. -/
  | value (document : Document)

/-- The known modules with their members. -/
abbrev Modules := Table (Table Member)

/-- Why an import path leads to no registry. -/
inductive ImportError where
  /-- The registry cannot be loaded. -/
  | load (cause : LoadError)
  /-- The name of the module is empty. -/
  | emptyModule
  /-- The name of the module begins with a dot, as if it were relative to another. -/
  | relativeModule (name : String)
  deriving DecidableEq, Repr

namespace ImportError

/-- The wording of an import error. -/
def message : ImportError → String
  | .load cause => cause.message
  | .emptyModule => "Empty module name"
  | .relativeModule name =>
    "the 'package' argument is required to perform a relative import for " ++ Text.quoted name

/-- The category of an import error. -/
def category : ImportError → String
  | .load _ => "MetadataLoadError"
  | .emptyModule => "ValueError"
  | .relativeModule _ => "TypeError"

end ImportError

/-- An import path: a module and one of its members. -/
structure ImportPath where
  /-- The name of the module. -/
  module : String
  /-- The name of the member. -/
  member : String
  deriving DecidableEq, Repr

namespace ImportPath

/-- Reads an import path; the first colon ends the name of the module. -/
def read (s : String) : Except LoadError ImportPath :=
  let cs := s.toList
  let member := (cs.dropWhile (· ≠ ':')).drop 1
  if member.isEmpty then .error (.badImportPath s)
  else .ok ⟨String.ofList (cs.takeWhile (· ≠ ':')), String.ofList member⟩

/-- The dotted name of the parts, given from the last to the first. -/
def dotted (parts : List String) : String := ".".intercalate parts.reverse

/-- The module of a dotted name, given by its parts from the last to the first, or the reason why
there is none. -/
def locate (modules : Modules) : List String → Except String (Table Member)
  | [] => .error "No module named ''"
  | part :: parents =>
    match modules.find? (dotted (part :: parents)), parents with
    | some found, _ => .ok found
    | none, [] => .error ("No module named " ++ Text.quoted part)
    | none, first :: rest =>
      match locate modules (first :: rest) with
      | .error reason => .error reason
      | .ok _ => .error
        ("No module named " ++ Text.quoted (dotted (part :: first :: rest)) ++ "; " ++
          Text.quoted (dotted (first :: rest)) ++ " is not a package")

/-- The members of a module. -/
def members (modules : Modules) (name : String) : Except ImportError (Table Member) :=
  if name = "" then .error .emptyModule
  else if name.startsWith "." then .error (.relativeModule name)
  else (locate modules (name.splitOn ".").reverse).mapError fun reason =>
    .load (.cannotImport name reason)

/-- The registry that an import path leads to. -/
def resolve (modules : Modules) (path : String) : Except ImportError Registry := do
  let path ← (read path).mapError .load
  let found ← members modules path.module
  match found.find? path.member with
  | none => .error (.load (.noMember path.module path.member))
  | some (.registry r) => .ok r
  | some (.value d) => .error (.load (.notRegistry d.literal))

end ImportPath

end EntityAtlas
