import EntityAtlas.Graph.Ranking
import EntityAtlas.Request.Provider

/-!
# Describing the schema

The schema lists the entities whose tables exist with all their associations, the most important
entity first and entities of equal rank by name. Where ranking fails the list is in the order of the
names and the outcome carries a warning.
-/

namespace EntityAtlas

/-- An association as the schema shows it. -/
structure AssociationSchema where
  /-- The name. -/
  name : String
  /-- The word for the declared cardinality. -/
  kind : String
  /-- The target, if it is known. -/
  targetEntity : Option String
  /-- The declared options. -/
  options : Table String
  deriving DecidableEq, Repr

/-- An entity as the schema shows it, with a rank of type `α`. -/
structure EntitySchema (α : Type) where
  /-- The name. -/
  name : String
  /-- The table. -/
  tableName : String
  /-- The attributes. -/
  attributeNames : List String
  /-- The primary key. -/
  primaryKey : Option String
  /-- Whether the table exists. -/
  tableExists : Bool
  /-- The associations. -/
  associations : List AssociationSchema
  /-- The rank, if there is one. -/
  rank : Option α

/-- The answer to a request for the schema. -/
structure SchemaResponse (α : Type) where
  /-- The version of the database schema, if known. -/
  schemaVersion : Option String
  /-- The entities. -/
  entities : List (EntitySchema α)
  /-- Whether the entities are ranked. -/
  ranked : Bool

/-- An association as the schema shows it. -/
def Association.schema (a : Association) : AssociationSchema :=
  ⟨a.name, a.kind.word, a.targetEntity?, a.options⟩

/-- An entity as the schema shows it. -/
def Entity.schema {α : Type} (e : Entity) (associations : List Association) (rank : Option α) :
    EntitySchema α :=
  { name := e.name
    tableName := e.tableName
    attributeNames := e.attributeNames
    primaryKey := e.primaryKey
    tableExists := e.present
    associations := associations.map Association.schema
    rank }

namespace Schema

variable {α ε : Type} [Scalar α]

open Scalar

/-- The rank that decides the place of an entity; one without a rank counts as zero. -/
@[specialize] def weight (ranks : Table α) (e : Entity) : α := ranks.findD e.name (ofNat 0)

/-- Whether an entity may stand before another: it ranks higher, or as high and its name does not
come after. -/
@[specialize] def notAfter (ranks : Table α) (a b : Entity) : Bool :=
  if less (weight ranks b) (weight ranks a) then true
  else if less (weight ranks a) (weight ranks b) then false
  else Text.notAfter a.name b.name

/-- The schema of a snapshot restricted to existing tables, given the ranks. -/
@[specialize] def listing (listed : Snapshot) (ranks : Table α) : SchemaResponse α :=
  { schemaVersion := listed.schemaVersion
    entities := (listed.entities.mergeSort (notAfter ranks)).map fun e =>
      e.schema (listed.associationsOf e.name) (ranks.find? e.name)
    ranked := !ranks.isEmpty }

/-- The warning that entities could not be ranked. -/
def unranked (fault : RankingFault) : String :=
  "Ranking unavailable, entities listed by name: " ++ fault.reason

/-- Ranks the entities of a graph, noting how many iterations it took. -/
@[specialize] def rank (o : RankingOptions α) (g : EntityGraph) :
    Recorded ε (Except RankingFault (Table α)) :=
  match Ranking.settled o g with
  | .error fault => return .error fault
  | .ok (ranks, iterations) => do
    Recorded.log .debug "ranking_converged"
      [("iterations", .int iterations), ("entities", .int g.size)]
    return (Ranking.normalise ranks).map g.names.zip

/-- The schema of a snapshot. -/
@[specialize] def ofSnapshot (o : RankingOptions α) (s : Snapshot) :
    Recorded ε (Outcome (SchemaResponse α)) := do
  let listed := s.existing
  EntityGraph.note listed
  let (ranks, warnings) ← match ← rank o (EntityGraph.ofSnapshot listed) with
    | .ok ranks => pure (ranks, [])
    | .error fault => do
      Recorded.log .warning "ranking_unavailable" [("error", .text fault.reason)]
      pure ([], [unranked fault])
  let response := listing listed ranks
  Recorded.log .info "schema_described"
    [("entities", .int response.entities.length), ("ranked", .bool response.ranked)]
  return .ok response warnings

/-- Describes the schema that a provider reports. -/
@[specialize] def describe (o : RankingOptions α) (p : Provider) :
    Recorded ε (Outcome (SchemaResponse α)) :=
  p.withSnapshot (ofSnapshot o)

end Schema

namespace AssociationSchema

/-- The association as a document. -/
def toDocument (a : AssociationSchema) : Document :=
  .record
    [("name", .text a.name), ("kind", .text a.kind), ("target_entity", .ofText? a.targetEntity),
     ("options", .record (a.options.map fun e => (e.1, .text e.2)))]

end AssociationSchema

/-- The entity as a document, given how a rank is written. -/
def EntitySchema.toDocument {α : Type} (rank : α → Document) (e : EntitySchema α) : Document :=
  .record
    [("name", .text e.name), ("table_name", .text e.tableName),
     ("attribute_names", .ofTexts e.attributeNames), ("primary_key", .ofText? e.primaryKey),
     ("table_exists", .bool e.tableExists),
     ("associations", .list (e.associations.map AssociationSchema.toDocument)),
     ("rank", (e.rank.map rank).getD .null)]

/-- The schema as a document, given how a rank is written. -/
def SchemaResponse.toDocument {α : Type} (rank : α → Document) (r : SchemaResponse α) : Document :=
  .record
    [("schema_version", .ofText? r.schemaVersion),
     ("entities", .list (r.entities.map (EntitySchema.toDocument rank))),
     ("ranked", .bool r.ranked)]

end EntityAtlas
