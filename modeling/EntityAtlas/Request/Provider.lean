import EntityAtlas.Entity.LoadError
import EntityAtlas.Entity.Snapshot
import EntityAtlas.Graph.Route
import EntityAtlas.Journal
import EntityAtlas.Metric.Result
import EntityAtlas.Registry.MappingError

/-!
# Metadata for a request

Every request takes a fresh snapshot from a provider. A provider may fail to load the metadata, or
the library that maps the entities may reject their configuration; either way the request fails with
a reason and nothing escapes.
-/

namespace EntityAtlas

/-- Why a provider has no snapshot. -/
inductive ProviderError where
  /-- The metadata cannot be loaded. -/
  | load (error : LoadError)
  /-- The mapping of the entities is rejected. -/
  | mapping (error : MappingError)
  deriving DecidableEq, Repr

/-- The wording of a provider error. -/
def ProviderError.message : ProviderError → String
  | .load e => e.message
  | .mapping e => e.message

/-- What a provider answers: a snapshot or an error, with what it notes in the journal. -/
structure Provider where
  /-- The snapshot. -/
  snapshot : Except ProviderError Snapshot
  /-- Whether the entities come from a registry, which is noted in the journal. -/
  mapped : Bool := false

namespace Provider

variable {ε α : Type}

/-- What a registry notes about its snapshot. -/
def note (s : Snapshot) : Recorded ε Unit :=
  Recorded.log .debug "metadata_snapshot"
    [("entities", .int s.entities.length), ("schema_version", .ofText? s.schemaVersion)]

/-- Takes a snapshot and does some work with it, or fails with the reason. -/
def withSnapshot (p : Provider) (work : Snapshot → Recorded ε (Outcome α)) :
    Recorded ε (Outcome α) :=
  match p.snapshot with
  | .ok s => do
    if p.mapped then note s
    work s
  | .error e => do
    Recorded.log .error "metadata_read_failed" [("error", .text e.message)]
    return .fail ("Cannot read entity metadata: " ++ e.message)

end Provider

namespace EntityGraph

variable {ε : Type}

/-- Notes the edges that were left out. -/
def noteDangling : List Edge → Recorded ε Unit
  | [] => pure ()
  | e :: rest => do
    Recorded.log .debug "dangling_association"
      [("entity", .text e.source), ("association", .text e.association.name),
       ("target", .text e.target)]
    noteDangling rest

/-- Notes that the graph of a snapshot was built. -/
def note (s : Snapshot) : Recorded ε Unit := do
  let g := ofSnapshot s
  noteDangling (dangling s.entities s.associations)
  Recorded.log .debug "entity_graph_built"
    [("nodes", .int g.size), ("edges", .int g.edgeCount)]

end EntityGraph

namespace Route

variable {ε : Type}

/-- Notes a join path that was looked for and found. -/
def note (g : EntityGraph) (source target : String) : Recorded ε Unit :=
  match resolve g source target with
  | .ok path =>
    if source = target then pure ()
    else Recorded.log .debug "join_path_resolved"
      [("source", .text source), ("target", .text target), ("path", .ofTexts path)]
  | .error _ => pure ()

end Route

end EntityAtlas
