import EntityAtlas.Entity.Snapshot

/-!
# The entity graph

The vertices of the entity graph are the entity names of a snapshot, in the order in which they
first occur; its edges are the belongs-to associations with a direct target, each from its owner to
its target. Edges between the same two entities stay apart by the name of their association, and of
two with one name only the first is kept. An edge whose owner or target is no vertex dangles and is
left out. The order of vertices and edges shows in every listing, so the graph keeps it.
-/

namespace EntityAtlas

/-- An association as an edge from its owner to its target. -/
structure Edge where
  /-- The owner. -/
  source : String
  /-- The target. -/
  target : String
  /-- The association. -/
  association : Association
  deriving DecidableEq, Repr

/-- Whether two edges are the same: between the same vertices and of the same name. -/
def Edge.same (e f : Edge) : Bool :=
  e.source = f.source && e.target = f.target && e.association.name = f.association.name

/-- A directed multigraph over entities. -/
structure EntityGraph where
  /-- The entities by name, in the order of their first occurrence. -/
  vertices : Table Entity
  /-- The edges in the order in which they were added. -/
  edges : List Edge
  deriving DecidableEq, Repr

namespace EntityGraph

/-- The associations of a mapping that are edges, with their owners, provided that the owner is a
vertex. -/
def offered (vertices : Table Entity) (associations : Table (List Association)) : List Edge :=
  associations.flatMap fun (owner, owned) =>
    if vertices.has owner then
      owned.filterMap fun a =>
        match a.targetEntity? with
        | some target => if a.isEdge then some ⟨owner, target, a⟩ else none
        | none => none
    else []

/-- Adds an edge unless the same edge is there already. -/
def addEdge (edges : List Edge) (e : Edge) : List Edge :=
  if edges.any (·.same e) then edges else edges ++ [e]

/-- The graph of a list of entities and a mapping from owners to associations. -/
def build (entities : List Entity) (associations : Table (List Association)) : EntityGraph :=
  let vertices : Table Entity := Table.ofEntries (entities.map fun e => (e.name, e))
  { vertices
    edges := ((offered vertices associations).filter (vertices.has ·.target)).foldl addEdge [] }

/-- The edges that a mapping offers but whose target is no vertex. -/
def dangling (entities : List Entity) (associations : Table (List Association)) : List Edge :=
  let vertices : Table Entity := Table.ofEntries (entities.map fun e => (e.name, e))
  (offered vertices associations).filter fun e => !vertices.has e.target

/-- The graph of a snapshot. -/
def ofSnapshot (s : Snapshot) : EntityGraph := build s.entities s.associations

/-- The graph of the entities whose tables exist. -/
def ofExisting (s : Snapshot) : EntityGraph := ofSnapshot s.existing

/-- The names of the entities. -/
def names (g : EntityGraph) : List String := g.vertices.names

/-- The number of entities. -/
def size (g : EntityGraph) : Nat := g.vertices.length

/-- The number of edges. -/
def edgeCount (g : EntityGraph) : Nat := g.edges.length

/-- Whether a name is a vertex. -/
def has (g : EntityGraph) (name : String) : Bool := g.vertices.has name

/-- The entity of a name. -/
def entity? (g : EntityGraph) (name : String) : Option Entity := g.vertices.find? name

/-- The associations on the edges from one entity directly to another. -/
def between (g : EntityGraph) (source target : String) : List Association :=
  (g.edges.filter fun e => e.source = source && e.target = target).map (·.association)

/-- The entities that an edge leads to from `source`, in the order of the first such edge. -/
def successors (g : EntityGraph) (source : String) : List String :=
  ((g.edges.filter (·.source = source)).map (·.target)).eraseDups

/-- The entities from which an edge leads to `target`, in the order of the first such edge. -/
def predecessors (g : EntityGraph) (target : String) : List String :=
  ((g.edges.filter (·.target = target)).map (·.source)).eraseDups

/-- All edges as source, target and name: source by source in the order of the vertices, and for
each source target by target. -/
def triples (g : EntityGraph) : List (String × String × String) :=
  g.names.flatMap fun s =>
    (g.successors s).flatMap fun t => (g.between s t).map fun a => (s, t, a.name)

/-- The number of parallel edges from one entity to another. -/
def multiplicity (g : EntityGraph) (source target : String) : Nat :=
  (g.between source target).length

end EntityGraph

end EntityAtlas
