import EntityAtlas.Validation.Format

/-!
# Results of metrics

A metric result carries the rows of one instruction, or the code and wording of the condition that
left it without any. A response holds the results of a batch, or the totals of all entities when
there was no batch. An outcome wraps the answer to a whole request.
-/

namespace EntityAtlas

open Format

/-- The rows for one instruction, or the reason why there are none. -/
structure MetricResult where
  /-- The identifier of the instruction. -/
  id : Document
  /-- The rows, by column label. -/
  rows : List (Table Document)
  /-- The code of the condition, if there is one. -/
  error : Option String
  /-- Its wording. -/
  message : Option String

/-- The number of rows of one entity. -/
structure EntityTotal where
  /-- The entity. -/
  name : String
  /-- The number of its rows. -/
  total : Int
  deriving DecidableEq, Repr

/-- The answer to a request for metrics. -/
structure MetricsResponse where
  /-- The results in the order of the instructions. -/
  results : List MetricResult
  /-- The totals, when no instructions were given. -/
  entityTotals : Option (List EntityTotal)

/-- The outcome of a request: a value with warnings, or the reason why there is none. -/
structure Outcome (α : Type) where
  /-- Whether the request succeeded. -/
  success : Bool
  /-- The value. -/
  value : Option α
  /-- The reason of a failure. -/
  error : Option String
  /-- What was degraded but is usable. -/
  warnings : List String

namespace Outcome

variable {α : Type}

/-- A success. -/
def ok (value : α) (warnings : List String := []) : Outcome α := ⟨true, some value, none, warnings⟩

/-- A failure. -/
def fail (error : String) : Outcome α := ⟨false, none, some error, []⟩

/-- The value of a success, or the wording of the failure; a success without a value counts as a
failure too. -/
def unwrap (o : Outcome α) : Except String α :=
  match o.success, o.value with
  | true, some value => .ok value
  | _, _ => .error ("Request failed: " ++ (Document.ofText? o.error).display)

end Outcome

/-- A metric result. -/
def MetricResult.format : Format MetricResult where
  read := model "MetricResult" fun fields =>
    MetricResult.mk <$> required any "metric_configuration_id" fields
      <*> fieldD (list (table any)) "rows" [] fields
      <*> fieldD (optional text) "error" none fields
      <*> fieldD (optional text) "message" none fields
  write r := .record
    [("metric_configuration_id", r.id),
     ("rows", (list (table any)).write r.rows),
     ("error", .ofText? r.error),
     ("message", .ofText? r.message)]

/-- A total. -/
def EntityTotal.format : Format EntityTotal where
  read := model "EntityTotal" fun fields =>
    EntityTotal.mk <$> required text "name" fields <*> required int "total" fields
  write t := .record [("name", .text t.name), ("total", .int t.total)]

/-- A response. -/
def MetricsResponse.format : Format MetricsResponse where
  read := model "MetricsResponse" fun fields =>
    MetricsResponse.mk <$> fieldD (list MetricResult.format) "results" [] fields
      <*> fieldD (optional (list EntityTotal.format)) "entity_totals" none fields
  write r := .record
    [("results", (list MetricResult.format).write r.results),
     ("entity_totals", (optional (list EntityTotal.format)).write r.entityTotals)]

/-- An outcome whose value may be any document. -/
def Outcome.format : Format (Outcome Document) where
  read := model "Result" fun fields =>
    Outcome.mk <$> required bool "success" fields
      <*> fieldD (optional any) "value" none fields
      <*> fieldD (optional text) "error" none fields
      <*> fieldD (list text) "warnings" [] fields
  write o := .record
    [("success", .bool o.success),
     ("value", o.value.getD .null),
     ("error", .ofText? o.error),
     ("warnings", .ofTexts o.warnings)]

end EntityAtlas
