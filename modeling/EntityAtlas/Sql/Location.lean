import EntityAtlas.Text.Quoted

/-!
# Database addresses

A database is named by an address: the kind of database, a colon and two slashes, and after another
slash the path of its file. Without a path the database is in memory and empty.
-/

namespace EntityAtlas.Sql

/-- Where a database is. -/
inductive Location where
  /-- In memory. -/
  | memory
  /-- In a file. -/
  | file (path : String)
  deriving DecidableEq, Repr

/-- Why an address names no database. -/
inductive LocationFault where
  /-- It is no address. -/
  | noAddress
  /-- There is no such kind of database here. -/
  | unknownKind (kind : String)
  deriving DecidableEq, Repr

namespace LocationFault

/-- The wording of a fault. -/
def message : LocationFault → String
  | .noAddress => "Could not parse SQLAlchemy URL from given URL string"
  | .unknownKind kind => "Can't load plugin: sqlalchemy.dialects:" ++ kind

/-- The category of a fault. -/
def category : LocationFault → String
  | .noAddress => "ArgumentError"
  | .unknownKind _ => "NoSuchModuleError"

end LocationFault

namespace Location

/-- Whether a character may stand in the kind of a database. -/
def isKindChar (c : Char) : Bool := c.isAlphanum || c = '_' || c = '+'

/-- The location that an address names. -/
def ofAddress (address : String) : Except LocationFault Location :=
  let cs := address.toList
  let kind := cs.takeWhile isKindChar
  match kind.isEmpty, cs.drop kind.length with
  | false, ':' :: '/' :: '/' :: rest =>
    let name := String.ofList (kind.takeWhile (· ≠ '+'))
    if name ≠ "sqlite" then .error (.unknownKind (String.ofList kind |>.replace "+" "."))
    else
      let path := ((rest.dropWhile (· ≠ '/')).drop 1).takeWhile (· ≠ '?')
      if path.isEmpty || path = ":memory:".toList then .ok .memory
      else .ok (.file (String.ofList path))
  | _, _ => .error .noAddress

end Location

end EntityAtlas.Sql
