import EntityAtlas.Entity.Snapshot
import EntityAtlas.Validation.Format

/-!
# Formats of the entity model

How targets, associations, entities and snapshots are read from documents and written out in full.
The readers take the fields in their declared order, since that is the order of a report.
-/

namespace EntityAtlas

open Format

namespace AssociationKind

/-- The words for all kinds, as a report lists them. -/
def choices : String := "'belongs_to', 'has_one', 'has_many', 'has_many_through' or 'polymorphic'"

/-- A kind, by its word. -/
def format : Format AssociationKind where
  read
    | .text w =>
      match ofWord? w with
      | some k => .valid k
      | none => .problem (.notOneOf choices)
    | _ => .problem (.notOneOf choices)
  write k := .text k.word

end AssociationKind

namespace Target

/-- Reads the entity a direct target names. -/
def readDirect : Document → Checked String :=
  model "DirectTarget" fun fields =>
    (fun _ entity => entity) <$> fixedWord "type" "direct" fields <*> required text "entity" fields

/-- Reads a polymorphic target, of which there is only one. -/
def readPolymorphic : Document → Checked Unit :=
  model "PolymorphicTarget" (fixedWord "type" "polymorphic")

/-- A target, in which the field `type` tells the two kinds apart. -/
def format : Format Target where
  read := tagged "type"
    [("direct", fun d => Target.direct <$> readDirect d),
     ("polymorphic", fun d => (fun _ => Target.polymorphic) <$> readPolymorphic d)]
  write
    | .direct entity => .record [("type", .text "direct"), ("entity", .text entity)]
    | .polymorphic => .record [("type", .text "polymorphic")]

/-- A target known to be direct, by the name of its entity. -/
def directFormat : Format String := ⟨readDirect, fun entity => format.write (.direct entity)⟩

/-- A target known to be polymorphic. -/
def polymorphicFormat : Format Unit := ⟨readPolymorphic, fun _ => format.write .polymorphic⟩

end Target

/-- A list of column pairs. -/
def columnPairs : Format (List (String × String)) := sequence pair

/-- A table in between. -/
def ThroughTable.format : Format ThroughTable where
  read := model "ThroughTable" fun fields =>
    ThroughTable.mk <$> required text "table_name" fields
      <*> required columnPairs "source_columns" fields
      <*> required columnPairs "target_columns" fields
  write t := .record
    [("table_name", .text t.tableName),
     ("source_columns", columnPairs.write t.sourceColumns),
     ("target_columns", columnPairs.write t.targetColumns)]

/-- An association. -/
def Association.format : Format Association where
  read := model "Association" fun fields =>
    Association.mk <$> required text "name" fields
      <*> required AssociationKind.format "kind" fields
      <*> required Target.format "target" fields
      <*> fieldD (table text) "options" [] fields
      <*> fieldD columnPairs "join_columns" [] fields
      <*> fieldD (optional ThroughTable.format) "through" none fields
  write a := .record
    [("name", .text a.name),
     ("kind", AssociationKind.format.write a.kind),
     ("target", Target.format.write a.target),
     ("options", (table text).write a.options),
     ("join_columns", columnPairs.write a.joinColumns),
     ("through", (optional ThroughTable.format).write a.through)]

/-- An entity. -/
def Entity.format : Format Entity where
  read := model "EntityDescriptor" fun fields =>
    Entity.mk <$> required text "name" fields
      <*> required text "table_name" fields
      <*> required (optional text) "primary_key" fields
      <*> required (sequence text) "attribute_names" fields
      <*> fieldD bool "exists" true fields
  write e := .record
    [("name", .text e.name),
     ("table_name", .text e.tableName),
     ("primary_key", .ofText? e.primaryKey),
     ("attribute_names", .ofTexts e.attributeNames),
     ("exists", .bool e.present)]

/-- A snapshot. -/
def Snapshot.format : Format Snapshot where
  read := model "MetadataSnapshot" fun fields =>
    Snapshot.mk <$> required (sequence Entity.format) "entities" fields
      <*> fieldD (table (sequence Association.format)) "associations" [] fields
      <*> fieldD (optional text) "schema_version" none fields
  write s := .record
    [("entities", (sequence Entity.format).write s.entities),
     ("associations", (table (sequence Association.format)).write s.associations),
     ("schema_version", .ofText? s.schemaVersion)]

end EntityAtlas
