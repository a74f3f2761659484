import EntityAtlas.Entity.Association

/-!
# Snapshots

A snapshot is the entity model of an application at one moment: its entities in the order in which
they were reported, and for each owner the list of its associations. A name may be reported twice;
the snapshot then finds the first descriptor. A snapshot never changes; it can be restricted to the
entities whose tables exist.
-/

namespace EntityAtlas

/-- One entity type. -/
structure Entity where
  /-- The name of the entity. -/
  name : String
  /-- The table that stores it. -/
  tableName : String
  /-- The column that identifies a row, if there is a single one. -/
  primaryKey : Option String
  /-- The names of its attributes, which are columns of the table. -/
  attributeNames : List String
  /-- Whether the table is present in the database. -/
  present : Bool
  deriving DecidableEq, Repr

/-- The entities of an application with their associations. -/
structure Snapshot where
  /-- The entities as reported. -/
  entities : List Entity
  /-- The associations of each owner. -/
  associations : Table (List Association)
  /-- The version of the database schema, if known. -/
  schemaVersion : Option String
  deriving DecidableEq, Repr

namespace Snapshot

/-- The first entity of that name. -/
def entity? (s : Snapshot) (name : String) : Option Entity :=
  s.entities.find? (·.name = name)

/-- The associations owned by an entity. -/
def associationsOf (s : Snapshot) (name : String) : List Association :=
  s.associations.findD name []

/-- The snapshot restricted to the entities whose tables exist and to what they own. -/
def existing (s : Snapshot) : Snapshot :=
  let entities := s.entities.filter (·.present)
  { s with
    entities
    associations := s.associations.filter fun e => entities.any (·.name = e.1) }

end Snapshot

end EntityAtlas
