import EntityAtlas.Execution.Executor
import EntityAtlas.Metric.Planner
import EntityAtlas.Request.Provider

/-!
# Computing metrics

A batch of instructions is answered one by one in its order. Whatever an instruction fails on, be it
its shape, its compilation or its query, is reported as its result, and the rest of the batch still
runs. Without instructions the number of rows of every entity is given; an entity that cannot be
counted leaves a warning.
-/

namespace EntityAtlas

/-- An instruction as it arrives: as a document still to be read, or ready made. -/
inductive Request where
  /-- A document. -/
  | raw (document : Document)
  /-- An instruction. -/
  | ready (instruction : MetricInstruction)

namespace Request

/-- The identifier that a request carries, if any. -/
def id : Request → Document
  | .ready i => i.id
  | .raw d => (d.field? "metric_configuration_id").getD .null

/-- Reads a document as an instruction. What is no record is none, whatever it holds; a record may
be an invalid one. -/
def read : Document → Except String MetricInstruction
  | .record fields =>
    (MetricInstruction.format.parse "MetricInstruction" (.record fields)).mapError (·.message)
  | d => .error
    ("metricgraph.query.models.MetricInstruction() argument after ** must be a mapping, not " ++
      d.typeName)

/-- The instruction that a request stands for. -/
def instruction : Request → Except MetricError MetricInstruction
  | .ready i => .ok i
  | .raw d => (read d).mapError fun text =>
    .invalidInstruction ("Malformed instruction: " ++ text)

end Request

namespace Metrics

/-- An error reported next to a metric, apart from one that escapes. -/
def reported {α : Type} : Except MetricError α → Recorded ExecutionFailure α
  | .ok a => pure a
  | .error e => throw (.reported e)

/-- Notes the join path that compiling an instruction finds. -/
def notePath (p : Planner) (i : MetricInstruction) : Recorded ExecutionFailure Unit :=
  match p.entity i.entity, i.pivot.map p.entity, i.joinPath with
  | .ok entity, some (.ok pivot), none =>
    match Planner.groupingKey pivot with
    | .ok _ =>
      if entity.present && pivot.present then Route.note p.graph entity.name pivot.name else pure ()
    | .error _ => pure ()
  | _, _, _ => pure ()

/-- Reads, compiles and runs one instruction. -/
def rows (p : Planner) (run : Executor) (r : Request) : Recorded ExecutionFailure Document := do
  let i ← reported r.instruction
  notePath p i
  run (← reported (p.compile i))

/-- The result with given rows, which must be a list of records. -/
def resultOf (id rows : Document) : Except Escape MetricResult :=
  match (Format.list (Format.table Format.any)).read rows with
  | .valid rows => .ok ⟨id, rows, none, none⟩
  | .invalid issues => .error (.invalid ⟨"MetricResult", issues.map (·.under (.name "rows"))⟩)

/-- The result that reports a condition. -/
def failure (id : Document) (e : MetricError) : MetricResult :=
  ⟨id, [], some e.code, some e.message⟩

/-- Answers one instruction, in the context of its identifier. -/
def answer (p : Planner) (run : Executor) (r : Request) : Recorded Escape MetricResult := do
  let outcome : Except MetricResult Document ←
    Recorded.inContext [("metric_configuration_id", r.id)] do
    match ← Recorded.settle (rows p run r) with
    | .ok rows => return .ok rows
    | .error (.reported e) => do
      Recorded.log .warning "instruction_failed"
        [("error", .text e.code), ("message", .text e.message)]
      return .error (failure r.id e)
    | .error (.escaped e) => throw e
  match outcome with
  | .error failed => return failed
  | .ok rows =>
    match resultOf r.id rows with
    | .ok result => return result
    | .error e => throw e

/-- Answers instructions one after the other. -/
def answerAll (p : Planner) (run : Executor) : List Request → Recorded Escape (List MetricResult)
  | [] => return []
  | r :: rest => do
    let result ← answer p run r
    return result :: (← answerAll p run rest)

/-- The instructions of a batch: the elements of whatever was given for them. -/
def batch (d : Document) : Except Escape (List Request) :=
  match d.elements with
  | .ok items => .ok (items.map .raw)
  | .error fault => .error (.fault fault)

/-- The answer to a batch. -/
def ofBatch (s : Snapshot) (run : Executor) (requests : Except Escape (List Request)) :
    Recorded Escape (Outcome MetricsResponse) := do
  EntityGraph.note s.existing
  match requests with
  | .error e => throw e
  | .ok requests => do
    let results ← answerAll (Planner.ofSnapshot s) run requests
    let failed := (results.filter fun r => r.error.any (· ≠ "")).length
    Recorded.log .info "metrics_computed"
      [("instructions", .int results.length), ("failed", .int failed)]
    return .ok ⟨results, none⟩

/-- The first of the rows of an answer. -/
def firstRow : Document → Except Fault Document
  | .list (row :: _) => .ok row
  | .list [] => .ok .null
  | .text s => .ok (.text (String.ofList (s.toList.take 1)))
  | .record _ => .error (.missingIndex 0)
  | d => .error (.notSubscriptable d.typeName)

/-- The count that an answer holds; an answer that counts as nothing holds a zero. -/
def countOf (rows : Document) : Except Fault Document :=
  if rows.isTruthy then do (← firstRow rows).part countLabel else .ok (.int 0)

/-- The total of an entity, given the answer to its query. -/
def totalOf (e : Entity) (rows : Document) : Except Escape EntityTotal :=
  match countOf rows with
  | .error fault => .error (.fault fault)
  | .ok count =>
    ((EntityTotal.mk e.name <$> (Format.int.read count).under (.name "total")).toExcept
      "EntityTotal").mapError .invalid

/-- The totals of entities one after the other, with the warnings of those that failed. -/
def totals (run : Executor) : List Entity → Recorded Escape (List EntityTotal × List String)
  | [] => return ([], [])
  | e :: rest => do
    match ← Recorded.settle (run (.count ⟨e.name, e.tableName⟩)) with
    | .error (.reported error) => do
      Recorded.log .warning "entity_total_failed"
        [("entity", .text e.name), ("error", .text error.message)]
      let (sums, warnings) ← totals run rest
      return (sums, (e.name ++ ": " ++ error.message) :: warnings)
    | .error (.escaped error) => throw error
    | .ok rows =>
      match totalOf e rows with
      | .error error => throw error
      | .ok total => do
        let (sums, warnings) ← totals run rest
        return (total :: sums, warnings)

/-- The answer without a batch. -/
def ofEntities (s : Snapshot) (run : Executor) : Recorded Escape (Outcome MetricsResponse) := do
  let (sums, warnings) ← totals run s.existing.entities
  return .ok ⟨[], some sums⟩ warnings

/-- Computes metrics for a batch, or totals if there is none. -/
def compute (p : Provider) (run : Executor) (requests : Option (Except Escape (List Request))) :
    Recorded Escape (Outcome MetricsResponse) :=
  p.withSnapshot fun s =>
    match requests with
    | none => ofEntities s run
    | some requests => ofBatch s run requests

/-- Computes metrics for whatever was given as instructions; null stands for none. -/
def computeFor (p : Provider) (run : Executor) (instructions : Document) :
    Recorded Escape (Outcome MetricsResponse) :=
  compute p run (match instructions with
    | .null => none
    | d => some (batch d))

end Metrics

end EntityAtlas
