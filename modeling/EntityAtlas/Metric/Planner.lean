import EntityAtlas.Graph.Route
import EntityAtlas.Metric.Instruction
import EntityAtlas.Metric.Query

/-!
# Planning a metric

A planner turns instructions into queries against one snapshot: without a pivot into a count of all
rows, with a pivot into counts per instance of it, and with an attribute of the pivot into counts
that include the empty groups. Where a pivot is asked for without a join path, one is looked for in
the graph of the entities whose tables exist.

A join path is expanded hop by hop. A hop follows the first association of its name that the entity
reached so far owns and that is not polymorphic; it joins the table of the target, through the table
in between where there is one.
-/

namespace EntityAtlas

/-- What is needed to turn instructions into queries. -/
structure Planner where
  /-- The entities and associations that instructions refer to. -/
  snapshot : Snapshot
  /-- The graph in which join paths are looked for. -/
  graph : EntityGraph

namespace Planner

/-- The planner for a snapshot. A supplied graph is searched for join paths if it has any vertex;
otherwise that of the entities whose tables exist is. -/
def ofSnapshot (snapshot : Snapshot) (supplied : Option EntityGraph := none) : Planner :=
  match supplied with
  | some graph =>
    if graph.size = 0 then ⟨snapshot, EntityGraph.ofExisting snapshot⟩ else ⟨snapshot, graph⟩
  | none => ⟨snapshot, EntityGraph.ofExisting snapshot⟩

/-- The entity of a name. -/
def entity (p : Planner) (name : String) : Except MetricError Entity :=
  match p.snapshot.entity? name with
  | some e => .ok e
  | none => .error (.unknownEntity name)

/-- The association that a hop of that name follows from an entity. -/
def association (p : Planner) (owner : Entity) (name : String) : Except MetricError Association :=
  match (p.snapshot.associationsOf owner.name).find? fun a => a.name = name && !a.isPolymorphic with
  | some a => .ok a
  | none => .error (.unknownAssociation owner.name name)

/-- Equalities between columns of the table at a position and columns of the next one. -/
def pairsFrom (position : Nat) (columns : List (String × String)) : List ColumnPair :=
  columns.map fun (left, right) => ⟨tableAlias position, left, right⟩

/-- The step that joins a table after `position` others, on columns of the last of them. -/
def step (association tableName : String) (position : Nat) (columns : List (String × String)) :
    JoinStep :=
  { association, tableName
    label := tableAlias (position + 1)
    pairs := pairsFrom position columns }

/-- The steps that follow an association from the table at a position to the table of its target,
or none if it has no columns to join on. -/
def hopSteps (a : Association) (target : Entity) (position : Nat) : Option (List JoinStep) :=
  match a.through with
  | some t =>
    if t.targetColumns.isEmpty then none
    else some
      [step a.name t.tableName position t.sourceColumns,
       step a.name target.tableName (position + 1) t.targetColumns]
  | none =>
    if a.joinColumns.isEmpty then none
    else some [step a.name target.tableName position a.joinColumns]

/-- Follows one hop from an entity whose table stands at a position. -/
def hop (p : Planner) (source pivot : String) (current : Entity) (position : Nat) (name : String) :
    Except MetricError (Entity × List JoinStep) := do
  let a ← p.association current name
  let target ← p.entity (a.targetEntity?.getD "")
  match hopSteps a target position with
  | some steps => return (target, steps)
  | none => .error (.noJoinPath source pivot (.noColumns current.name name))

/-- Follows a path from an entity whose table stands at a position; yields the entity reached and
the steps. -/
def walk (p : Planner) (source pivot : String) :
    Entity → Nat → List String → Except MetricError (Entity × List JoinStep)
  | current, _, [] => .ok (current, [])
  | current, position, name :: path => do
    let (next, steps) ← p.hop source pivot current position name
    let (final, more) ← p.walk source pivot next (position + steps.length) path
    return (final, steps ++ more)

/-- Expands a join path into the steps from an entity to a pivot, with the name under which the
table of the pivot takes part. -/
def expand (p : Planner) (entity pivot : Entity) (path : List String) :
    Except MetricError (List JoinStep × String) := do
  let (final, steps) ← p.walk entity.name pivot.name entity 0 path
  if final.name = pivot.name then return (steps, tableAlias steps.length)
  else .error (.noJoinPath entity.name pivot.name (.endsAt final.name))

/-- The primary key of a pivot, which must not be named like the count column. -/
def groupingKey (pivot : Entity) : Except MetricError String :=
  match pivot.primaryKey with
  | none => .error (.invalidPivot (.noKey pivot.name))
  | some key =>
    if key = countLabel then .error (.invalidPivot (.keyIsCount pivot.name key)) else .ok key

/-- The join path from an entity to a pivot, found in the graph; both tables must exist. -/
def findPath (p : Planner) (entity pivot : Entity) : Except MetricError (List String) :=
  match [entity, pivot].find? (!·.present) with
  | some missing =>
    .error (.noJoinPath entity.name pivot.name (.missingTable missing.tableName))
  | none => Route.resolve p.graph entity.name pivot.name

/-- The join path of an instruction: the one given, or one that is found. -/
def joinPath (p : Planner) (i : MetricInstruction) (entity pivot : Entity) :
    Except MetricError (List String) :=
  match i.joinPath with
  | some path => .ok path
  | none => p.findPath entity pivot

/-- The attribute of a pivot that is reported, which must be one of its own and must not be named
like the count column. -/
def reportedAttribute (pivot : Entity) (name : String) : Except MetricError String :=
  if !pivot.attributeNames.contains name then
    .error (.invalidPivot (.noAttribute pivot.name name))
  else if name = countLabel then .error (.invalidPivot (.attributeIsCount name))
  else .ok name

/-- The query of an instruction with a pivot. -/
def compilePivot (p : Planner) (i : MetricInstruction) (entity pivot : Entity) :
    Except MetricError Query := do
  let key ← groupingKey pivot
  let path ← p.joinPath i entity pivot
  let (joins, pivotAlias) ← p.expand entity pivot path
  match i.pivotAttribute with
  | none =>
    return .grouped
      { entity := entity.name, tableName := entity.tableName, pivot := pivot.name, pivotAlias
        groupBy := key, joinPath := path, joins }
  | some name => do
    let name ← reportedAttribute pivot name
    return .zeroFilled
      { entity := entity.name, tableName := entity.tableName, pivot := pivot.name
        pivotTableName := pivot.tableName, pivotAlias, primaryKey := key, pivotAttribute := name
        joinPath := path, joins }

/-- The query of an instruction. -/
def compile (p : Planner) (i : MetricInstruction) : Except MetricError Query := do
  let entity ← p.entity i.entity
  match i.pivot with
  | none => return .count ⟨entity.name, entity.tableName⟩
  | some name => p.compilePivot i entity (← p.entity name)

end Planner

end EntityAtlas
