import EntityAtlas.Validation.Format

/-!
# Metric instructions

A metric instruction asks for one count: of all rows of an entity, or of its rows per instance of a
pivot entity, with the join path to the pivot given or left to be found. Its identifier is opaque
and is echoed back.
-/

namespace EntityAtlas

/-- One request for a count. -/
structure MetricInstruction where
  /-- The opaque identifier. -/
  id : Document
  /-- The counted entity. -/
  entity : String
  /-- The entity whose instances the counts are grouped by. -/
  pivot : Option String
  /-- The names of the associations that lead to the pivot, if they are given. -/
  joinPath : Option (List String)
  /-- An attribute of the pivot to report; asking for one also asks for empty groups. -/
  pivotAttribute : Option String

namespace MetricInstruction

open Format

/-- An instruction, in which only the identifier and the entity are required. -/
def format : Format MetricInstruction where
  read := model "MetricInstruction" fun fields =>
    MetricInstruction.mk <$> required any "metric_configuration_id" fields
      <*> required text "entity" fields
      <*> fieldD (optional text) "pivot" none fields
      <*> fieldD (optional (sequence text)) "join_path" none fields
      <*> fieldD (optional text) "pivot_attribute_name" none fields
  write i := .record
    [("metric_configuration_id", i.id),
     ("entity", .text i.entity),
     ("pivot", .ofText? i.pivot),
     ("join_path", (optional (sequence text)).write i.joinPath),
     ("pivot_attribute_name", .ofText? i.pivotAttribute)]

end MetricInstruction

end EntityAtlas
