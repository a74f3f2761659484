import EntityAtlas.Entity.Formats
import EntityAtlas.Entity.LoadError
import EntityAtlas.Markup.Conversion
import EntityAtlas.Text.Case

/-!
# Declared snapshots

A snapshot can be declared by a document: a schema version, and a list of entities each with its
own associations. The declaration may leave out what convention supplies: the table is named like
the entity, the key is `id`, an association belongs to its target, and its join columns are those of
a conventional foreign key. The order of the steps fixes which of several faults is reported: entity
by entity, first the entity itself and then its associations one after the other.

`Snapshot.declare` writes a snapshot as a declaration that leaves nothing out.
-/

namespace EntityAtlas

namespace Declaration

/-- An outcome of reading a part of a declaration. -/
abbrev Outcome (α : Type) := Except LoadError α

/-- A question to a document, its faults being load errors. -/
def asked {α : Type} (answer : Except Fault α) : Outcome α := answer.mapError .shape

/-- A validation, its report being a load error. -/
def validated {α : Type} (title : String) (c : Checked α) : Outcome α :=
  (c.toExcept title).mapError .invalid

/-- The value of a field, or `fallback` where it is absent. -/
def fieldD (name : String) (fallback : Document) (fields : List (String × Document)) : Document :=
  Table.findD name fallback fields

/-- The value of a field, or null where it is absent. -/
def fieldOrNull (name : String) (fields : List (String × Document)) : Document :=
  fieldD name .null fields

/-- The kind that a document names. -/
def kind (d : Document) : Outcome AssociationKind :=
  match d with
  | .text w =>
    match AssociationKind.ofWord? w with
    | some k => .ok k
    | none => .error (.unknownKind d.literal)
  | _ => .error (.unknownKind d.literal)

/-- Declared options as texts; a value that counts as nothing declares none. -/
def options (d : Document) : Outcome (Table String) :=
  if d.isTruthy then do
    let fields ← asked (d.fieldsVia "items")
    return Table.ofEntries (fields.map fun e => (e.1, e.2.optionText))
  else .ok []

/-- A list of lists, as documents whose items are still to be validated. -/
def rows (d : Document) : Outcome Document := do
  let items ← asked d.elements
  return .list (← items.mapM fun item => do return .list (← asked item.elements))

/-- A table in between, if one is declared. -/
def through (d : Document) : Outcome (Option ThroughTable) :=
  if d.isTruthy then do
    let tableName ← asked (d.part "table_name")
    let sourceColumns ← rows (← asked (d.part "source_columns"))
    let targetColumns ← rows (← asked (d.part "target_columns"))
    let table ← validated "ThroughTable" <|
      ThroughTable.mk <$> (Format.text.read tableName).under (.name "table_name")
        <*> (columnPairs.read sourceColumns).under (.name "source_columns")
        <*> (columnPairs.read targetColumns).under (.name "target_columns")
    return some table
  else .ok none

/-- What an association points at, with its kind: an association that is polymorphic, by its kind
or by an option, has no target and is of the polymorphic kind. -/
def target (owner : String) (declared : AssociationKind) (opts : Table String)
    (fields : List (String × Document)) : Outcome (AssociationKind × Target) :=
  let entity := fieldOrNull "target_entity" fields
  if declared = .polymorphic ∨ opts.find? "polymorphic" = some "true" then
    .ok (.polymorphic, .polymorphic)
  else if entity.isTruthy then do
    let name ← validated "DirectTarget" ((Format.text.read entity).under (.name "entity"))
    return (declared, .direct name)
  else .error (.noTarget owner (fieldOrNull "name" fields).display)

/-- An association of the entity `owner`. -/
def association (owner : String) (d : Document) : Outcome Association := do
  let fields ← asked (d.fieldsVia "get")
  let declared ← kind (fieldD "kind" (fieldD "macro" (.text "belongs_to") fields) fields)
  let opts ← options (fieldOrNull "options" fields)
  let (kind, target) ← target owner declared opts fields
  let name ← asked (d.part "name")
  let pairs ← rows (fieldD "join_columns" (.list []) fields)
  let through ← through (fieldOrNull "through" fields)
  validated "Association" <|
    (fun name joinColumns => Association.mk name kind target opts joinColumns through)
      <$> (Format.text.read name).under (.name "name")
      <*> (columnPairs.read pairs).under (.name "join_columns")

/-- An entity, without its associations. -/
def entity (d : Document) : Outcome Entity := do
  let name ← asked (d.part "name")
  let fields ← asked (d.fieldsVia "get")
  let attributes ← asked (fieldD "attribute_names" (.list []) fields).elements
  validated "EntityDescriptor" <|
    Entity.mk <$> (Format.text.read name).under (.name "name")
      <*> (Format.text.read (fieldD "table_name" name fields)).under (.name "table_name")
      <*> ((Format.optional Format.text).read (fieldD "primary_key" (.text "id") fields)).under
          (.name "primary_key")
      <*> ((Format.sequence Format.text).read (.list attributes)).under (.name "attribute_names")
      <*> (Format.bool.read
            (fieldD "exists" (fieldD "table_exists" (.bool true) fields) fields)).under
          (.name "exists")

/-- An entity and its associations as declared. -/
def entry (d : Document) : Outcome (Entity × List Association) := do
  let e ← entity d
  let fields ← asked (d.fieldsVia "get")
  let items ← asked (fieldD "associations" (.list []) fields).elements
  return (e, ← items.mapM (association e.name))

/-- Marks the beginning of every word: an underscore before each capital that is not the first
character. -/
def underscored : List Char → List Char
  | [] => []
  | c :: rest => c :: rest.flatMap fun d => if 'A' ≤ d ∧ d ≤ 'Z' then ['_', d] else [d]

/-- The conventional name of a column that refers to an entity. -/
def foreignKeyName (name : String) : String :=
  Text.lower (String.ofList (underscored name.toList)) ++ "_id"

/-- The column that identifies the rows of an entity, unless its name is empty. -/
def usableKey? (e : Entity) : Option String := e.primaryKey.filter (· ≠ "")

/-- The join columns that convention supplies to an association: the owner of a belongs-to
association refers to the key of the target, the target of the other direct kinds refers to the
key of the owner. -/
def conventional? (owner : Entity) (target : Entity) (a : Association) :
    Option (List (String × String)) :=
  match a.kind with
  | .belongsTo => (usableKey? target).map fun key => [(a.name ++ "_id", key)]
  | .hasOne | .hasMany => (usableKey? owner).map fun key => [(key, foreignKeyName owner.name)]
  | _ => none

/-- Fills in the join columns of an association that declares neither columns nor a table in
between and whose target is among the entities. -/
def withConventions (entities : Table Entity) (owner : Entity) (a : Association) : Association :=
  match entities.find? (a.targetEntity?.getD "") with
  | none => a
  | some target =>
    if !a.joinColumns.isEmpty || a.through.isSome then a
    else match conventional? owner target a with
      | some pairs => { a with joinColumns := pairs }
      | none => a

/-- Fills in the join columns of all associations of an owner. -/
def complete (entities : Table Entity) (owned : String × List Association) :
    String × List Association :=
  match entities.find? owned.1 with
  | some owner => (owned.1, owned.2.map (withConventions entities owner))
  | none => owned

/-- Reads a declaration. Of two entities with one name both descriptors are kept, but only the
associations of the later one, whose key also counts for conventions. -/
def read (d : Document) : Outcome Snapshot := do
  let fields ← asked (d.fieldsVia "get")
  let items ← asked (fieldD "entities" (.list []) fields).elements
  let entries ← items.mapM entry
  let entities := entries.map (·.1)
  let byName : Table Entity := Table.ofEntries (entities.map fun e => (e.name, e))
  let owned : Table (List Association) := Table.ofEntries (entries.map fun e => (e.1.name, e.2))
  validated "MetadataSnapshot" <|
    (fun version => Snapshot.mk entities (owned.map (complete byName)) version)
      <$> ((Format.optional Format.text).read (fieldOrNull "schema_version" fields)).under
        (.name "schema_version")

/-- Why a declaration file yields no snapshot: either a load error, or a scalar that cannot be
converted. -/
inductive FileError where
  /-- The file is no declaration. -/
  | load (cause : LoadError)
  /-- A scalar of the file cannot be converted; the reason is given. -/
  | scalar (reason : String)
  deriving DecidableEq, Repr

/-- Reads the declaration in a file with a reader of data files, given the path of the file and its
text if there is such a file. -/
def loadWith (reader : String → Except MarkupFault Document) (path : String)
    (content : Option String) : Except FileError Snapshot :=
  match content with
  | none => .error (.load (.unreadable path))
  | some s =>
    match reader s with
    | .error .malformed => .error (.load (.unreadable path))
    | .error (.scalar reason) => .error (.scalar reason)
    | .ok (.record fields) => (read (.record fields)).mapError .load
    | .ok _ => .error (.load (.notMapping path))

/-- Reads the declaration in a file, given its path and its text if there is such a file. -/
def load (path : String) (content : Option String) : Except FileError Snapshot :=
  loadWith Markup.read path content

/-- Writes an association in full. -/
def declareAssociation (a : Association) : Document :=
  .record
    [("name", .text a.name),
     ("kind", .text a.kind.word),
     ("target_entity", .ofText? a.targetEntity?),
     ("options", (Format.table Format.text).write a.options),
     ("join_columns", columnPairs.write a.joinColumns),
     ("through", (Format.optional ThroughTable.format).write a.through)]

/-- Writes an entity in full, with its associations. -/
def declareEntity (s : Snapshot) (e : Entity) : Document :=
  .record
    [("name", .text e.name),
     ("table_name", .text e.tableName),
     ("primary_key", .ofText? e.primaryKey),
     ("attribute_names", .ofTexts e.attributeNames),
     ("exists", .bool e.present),
     ("associations", .list ((s.associationsOf e.name).map declareAssociation))]

end Declaration

/-- The declaration of a snapshot, leaving nothing to convention. -/
def Snapshot.declare (s : Snapshot) : Document :=
  .record
    [("schema_version", .ofText? s.schemaVersion),
     ("entities", .list (s.entities.map (Declaration.declareEntity s)))]

end EntityAtlas
