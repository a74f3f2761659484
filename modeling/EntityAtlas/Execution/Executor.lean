import EntityAtlas.Document.Access
import EntityAtlas.Execution.Guard
import EntityAtlas.Journal
import EntityAtlas.Metric.Error
import EntityAtlas.Metric.Query
import EntityAtlas.Sql.Evaluate
import EntityAtlas.Sql.Render
import EntityAtlas.Validation.Issue

/-!
# Executing queries

An executor answers a query with rows, or reports that the query failed. The usual executor renders
the query, runs it under the read-only guard and keeps a journal. What the database refuses is
reported next to the metric; a query that cannot even be rendered, or a time limit that cannot be
used, is an error of the caller and escapes.
-/

namespace EntityAtlas

/-- An error that no request is prepared for. -/
inductive Escape where
  /-- A question to a document that it cannot answer. -/
  | fault (fault : Fault)
  /-- A document that is not what it must be. -/
  | invalid (report : ValidationReport)
  /-- A query that cannot be rendered. -/
  | render (error : Sql.RenderError)
  /-- A time limit that cannot be used. -/
  | timeout (fault : TimeoutFault)
  /-- Any other failure of a query, by category and wording. -/
  | other (category message : String)
  deriving DecidableEq, Repr

namespace Escape

/-- The category of an escaping error. -/
def category : Escape → String
  | .fault f => f.category
  | .invalid _ => "ValidationError"
  | .render (.undeclared _) => "KeyError"
  | .render (.labelClash _) => "InvalidRequestError"
  | .timeout f => f.category
  | .other category _ => category

/-- The wording of an escaping error. -/
def message : Escape → String
  | .fault f => f.message
  | .invalid r => r.message
  | .render e => e.message
  | .timeout f => f.message
  | .other _ message => message

end Escape

/-- Why an executor has no rows. -/
inductive ExecutionFailure where
  /-- A condition to be reported next to the metric. -/
  | reported (error : MetricError)
  /-- An error that escapes. -/
  | escaped (error : Escape)
  deriving DecidableEq, Repr

/-- Something that answers queries with rows. -/
abbrev Executor := Query → Recorded ExecutionFailure Document

namespace Execution

variable {δ : Type}

/-- Runs a query under the guard; the time is read first, as the start of the run. -/
def guarded (b : Backend δ) (timeout : Document) (s : Sql.Statement) (c : Connection δ) :
    Except GuardFault Document × Connection δ :=
  Guard.perform (do let _ ← Guard.now; Guard.readOnly b timeout (Guard.query b s)) c

/-- The report on a query that the database refused. -/
def failed (q : Query) (refusal : Refusal) : MetricError :=
  .queryFailed ("Query for " ++ q.entity ++ " failed: " ++ refusal.report)

/-- What abandoned work means for the caller: only a refusal is reported. -/
def failure (q : Query) : GuardFault → ExecutionFailure
  | .refused refusal => .reported (failed q refusal)
  | .timeout fault => .escaped (.timeout fault)
  | .other category message => .escaped (.other category message)

/-- Answers one query on a connection. -/
def answer (b : Backend δ) (timeout : Document) (q : Query) (c : Connection δ) :
    Except ExecutionFailure Document × Connection δ :=
  match Sql.render q with
  | .error e => (.error (.escaped (.render e)), c)
  | .ok s =>
    match guarded b timeout s c with
    | (outcome, c) => (outcome.mapError (failure q), c)

/-- The number of rows of an answer. -/
def rowCount : Document → Nat
  | .list rows => rows.length
  | _ => 0

/-- What identifies a query in the journal. -/
def queryFields (q : Query) : List (String × Document) :=
  [("kind", .text q.kind), ("entity", .text q.entity)]

/-- Notes in the journal that the dialect offers no protection. -/
def noteDialect (dialect : String) : Recorded ExecutionFailure Unit :=
  if dialect = "postgresql" ∨ dialect = "sqlite" then pure ()
  else Recorded.log .debug "read_only_guard_unavailable" [("dialect", .text dialect)]

/-- The executor over a database, each query on a connection of its own. -/
def executor (b : Backend δ) (timeout : Document) (stored : δ) : Executor := fun q =>
  match Sql.render q with
  | .error e => throw (.escaped (.render e))
  | .ok s => do
    noteDialect b.dialect
    match (guarded b timeout s (Connection.idle stored)).1 with
    | .ok rows => do
      Recorded.log .debug "query_executed" (queryFields q ++ [("rows", .int (rowCount rows))])
      return rows
    | .error (.refused refusal) => do
      Recorded.log .warning "query_failed" (queryFields q ++ [("error", .text refusal.detail)])
      throw (failure q (.refused refusal))
    | .error fault => throw (failure q fault)

/-- The executor that reports a failure for some entities, answers for others with given rows, and
leaves the rest to another executor. -/
def scripted (failures : Table String) (answers : Table Document) (otherwise : Executor) :
    Executor := fun q =>
  match failures.find? q.entity with
  | some message => throw (.reported (.queryFailed message))
  | none =>
    match answers.find? q.entity with
    | some rows => return rows
    | none => otherwise q

end Execution

end EntityAtlas
