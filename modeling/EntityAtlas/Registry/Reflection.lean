import EntityAtlas.Entity.Snapshot
import EntityAtlas.Registry.Join
import EntityAtlas.Sql.Dialect
import EntityAtlas.Text.Order

/-!
# Snapshots of a registry

A registry becomes a snapshot by describing every class that is stored in a table, in the order of
the names. A relationship becomes an association whose options are what its declaration says beyond
the defaults. What a database shows of itself tells which tables exist and which version the schema
has; without a database every table counts as existing.
-/

namespace EntityAtlas

/-- What a database shows of itself. -/
structure Inspection where
  /-- The names of its tables. -/
  tables : List String
  /-- The recorded versions of the schema, if there is a table of them. -/
  versions : Option (List Document)

namespace Inspection

/-- The part of a database that holds its tables. -/
def mainSchema : String := "main"

/-- The table that records the version of the schema. -/
def versionTable : String := "alembic_version"

/-- Whether a table exists; that of the versions does if versions are recorded. -/
def has (i : Inspection) (t : StoredTable) : Bool :=
  (t.schema = none || t.schema = some mainSchema) &&
    (i.tables.contains t.name || (i.versions.isSome && t.name = versionTable))

/-- The recorded version of the schema, null if there is none. -/
def version (i : Inspection) : Document := (i.versions.bind (·.head?)).getD .null

end Inspection

namespace Cascade

/-- The operations that the word for all stands for. -/
def everyOperation : List String := ["delete", "expunge", "merge", "refresh-expire", "save-update"]

/-- The operations that spread by default. -/
def usual : List String := ["merge", "save-update"]

/-- The words of a declared cascade. -/
def words (s : String) : List String :=
  ((s.splitOn ",").map fun w => w.trimAscii.toString).filter (· ≠ "")

/-- The operations that a declared cascade names, in order of the alphabet: the word `all` names
those of all kinds and the word `none` takes everything back. -/
def operations (s : String) : List String :=
  let named := words s
  if named.contains "none" then []
  else
    let all := named.filter (· ≠ "all") ++ if named.contains "all" then everyOperation else []
    Text.sorted all.eraseDups

end Cascade

namespace Relationship

/-- The operations that spread over a relationship. -/
def cascades (p : Relationship) : List String :=
  match p.cascade with
  | some declared => Cascade.operations declared
  | none => if p.readOnly then ["merge"] else Cascade.usual

/-- The name of a table without its schema. -/
def bareName (r : Registry) (key : String) : String := ((r.table? key).map (·.name)).getD key

/-- A column to sort by, as the option shows it. -/
def sortText (r : Registry) (t : SortColumn) : String :=
  if t.descending then
    let parts := match r.table? t.column.table with
      | some table => table.schema.toList ++ [table.name, t.column.column]
      | none => [t.column.table, t.column.column]
    ".".intercalate (parts.map Sql.Dialect.default.identifier) ++ " DESC"
  else ColumnPath.text { t.column with table := bareName r t.column.table }

/-- The options of a relationship, as far as they differ from the defaults. -/
def options (r : Registry) (p : Relationship) (toOne : Bool) : Table String :=
  Table.ofEntries <|
    ((p.inverse.filter (· ≠ "")).map fun key => ("back_populates", key)).toList
    ++ (p.secondary.map fun key => ("secondary", bareName r key)).toList
    ++ (if p.readOnly then [("viewonly", "true")] else [])
    ++ (if p.many = some false && !toOne then [("uselist", "false")] else [])
    ++ (if p.ordering.isEmpty then []
        else [("order_by", ", ".intercalate (p.ordering.map (sortText r)))])
    ++ (if p.cascades = Cascade.usual then [] else [("cascade", ", ".intercalate p.cascades)])
    ++ (if p.loading.isText "select" then [] else [("lazy", p.loading.display)])
    ++ p.info.map fun e => (e.1, e.2.optionText)

/-- Whether a relationship is declared to lead to targets of any class. -/
def isPolymorphic (p : Relationship) : Bool := (Table.findD "polymorphic" .null p.info).isTruthy

/-- The association that describes a relationship with a known join. -/
def association (r : Registry) (p : Relationship) (join : RelationshipJoin) : Association :=
  let toOne := match join with
    | .straight .manyToOne _ => true
    | _ => false
  let described (kind : AssociationKind) (target : Target) (pairs : List (String × String))
      (through : Option ThroughTable) : Association :=
    ⟨p.key, kind, target, p.options r toOne, pairs, through⟩
  if p.isPolymorphic then described .polymorphic .polymorphic [] none
  else match join with
    | .through table => described .hasManyThrough (.direct p.target) [] (some table)
    | .straight .manyToOne pairs => described .belongsTo (.direct p.target) pairs none
    | .straight .oneToMany pairs =>
      described (if p.many = some false then .hasOne else .hasMany) (.direct p.target) pairs none

end Relationship

namespace Registry

/-- The name of the table that stores a class. -/
def tableNameOf (r : Registry) (c : MappedClass) : String :=
  ((r.localTable? c).map (·.name)).getD ""

/-- Whether a class or one that it extends has a column. -/
def hasColumn (r : Registry) (c : MappedClass) (name : String) : Bool :=
  (r.tableKeys c).any fun key => (r.table? key).any (·.hasColumn name)

/-- Checks that the inverse of a relationship is a relationship of the target. -/
def checkInverse (r : Registry) (owner target : MappedClass) (p : Relationship) :
    Except MappingError Unit :=
  match p.inverse.filter (· ≠ "") with
  | none => .ok ()
  | some inverse =>
    if (r.relationshipsOf target).has inverse then .ok ()
    else if r.hasColumn target inverse then
      .error (.inverseIsColumn ⟨owner.name, p.key⟩ target.name inverse)
    else .error (.noInverse target.name (r.tableNameOf target) inverse)

/-- Describes a relationship that the class `owner` declares. -/
def describe (r : Registry) (owner : MappedClass) (p : Relationship) :
    Except MappingError Association :=
  match r.class? p.target with
  | none => .error (.unknownTarget owner.name (r.tableNameOf owner) p.target)
  | some target => do
    let join ← r.join owner target p
    r.checkInverse owner target p
    return p.association r join

/-- Describes all relationships, by the class that declares them. The first that is rejected rejects
the registry. -/
def configure (r : Registry) : Except MappingError (Table (Table Association)) :=
  r.classes.mapM fun c => do
    return (c.name, ← c.relationships.mapM fun p => do return (p.key, ← r.describe c p))

/-- The associations of a class, those of the classes it extends included. -/
def associationsOf (r : Registry) (described : Table (Table Association)) (c : MappedClass) :
    List Association :=
  (r.relationshipsOf c).filterMap fun (key, owner, _) =>
    (described.find? owner).bind (·.find? key)

/-- The first column of the primary key of a class, which a class has from the one it extends. -/
def primaryKeyOf (r : Registry) (c : MappedClass) : Option String :=
  ((r.tableKeys c).getLast?.bind r.table?).bind (·.primaryKey?)

/-- The entity that describes a class, if the class is stored in a table. -/
def entity? (r : Registry) (inspection : Option Inspection) (c : MappedClass) : Option Entity :=
  match r.storage c with
  | .table key => (r.table? key).map fun t =>
    { name := c.name
      tableName := t.name
      primaryKey := r.primaryKeyOf c
      attributeNames := t.columns.map (·.name)
      present := inspection.all (·.has t) }
  | _ => none

/-- The classes in order of their names. -/
def byName (r : Registry) : List MappedClass :=
  r.classes.mergeSort fun a b => Text.notAfter a.name b.name

/-- The snapshot of a registry whose relationships are described, with a given version. -/
def snapshot (r : Registry) (described : Table (Table Association))
    (inspection : Option Inspection) (version : Option String) : Snapshot :=
  let present := r.byName.filterMap fun c => (r.entity? inspection c).map fun e => (e, c)
  { entities := present.map (·.1)
    associations := Table.ofEntries <|
      present.map fun (e, c) => (e.name, r.associationsOf described c)
    schemaVersion := version }

end Registry

end EntityAtlas
