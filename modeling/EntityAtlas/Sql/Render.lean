import EntityAtlas.Metric.Query
import EntityAtlas.Sql.Statement
import EntityAtlas.Text.Quoted

/-!
# Rendering queries

A query becomes a statement over the tables it names. The names under which the tables take part
are looked up among `t0` and the labels of the join steps, so a query put together by hand may name
a table that no step declares; a compiled one never does. In a zero-filled query the counted rows
are united with one zero per pivot row and regrouped by the greatest count: the zero never exceeds a
real count and keeps the pivots that have none.
-/

namespace EntityAtlas.Sql

/-- Why a query cannot be rendered. -/
inductive RenderError where
  /-- A table or column is not declared. -/
  | undeclared (name : String)
  /-- A key is labelled like the measure of a union. -/
  | labelClash (label : String)
  deriving DecidableEq, Repr

/-- The wording of a render error. -/
def RenderError.message : RenderError → String
  | .undeclared name => Text.quoted name
  | .labelClash label =>
    "Label name " ++ label ++ " is being renamed to an anonymous label due to disambiguation " ++
      "which is not supported right now.  Please use unique names for explicit labels."

namespace Render

/-- The name under which the counted table takes part. -/
def rootLabel : String := tableAlias 0

/-- The tables of a query by the names under which they take part. -/
def tables (tableName : String) (joins : List JoinStep) : Table String :=
  Table.ofEntries ((rootLabel, tableName) :: joins.map fun s => (s.label, s.tableName))

/-- Looks up a table by the name under which it takes part. -/
def source (declared : Table String) (label : String) : Except RenderError Source :=
  match declared.find? label with
  | some table => .ok ⟨table, label⟩
  | none => .error (.undeclared label)

/-- The equality of a column pair. -/
def condition (declared : Table String) (step : JoinStep) (p : ColumnPair) :
    Except RenderError (ColumnRef × ColumnRef) := do
  let left ← source declared p.leftAlias
  return (⟨left.label, p.leftColumn⟩, ⟨step.label, p.rightColumn⟩)

/-- The join of a step. -/
def join (declared : Table String) (step : JoinStep) : Except RenderError Join := do
  let joined ← source declared step.label
  return ⟨joined, ← step.pairs.mapM (condition declared step)⟩

/-- The joined tables of a query, after a look at the table of the pivot. -/
def joined (tableName pivotAlias : String) (joins : List JoinStep) :
    Except RenderError From := do
  let declared := tables tableName joins
  let _ ← source declared pivotAlias
  let first ← source declared rootLabel
  return ⟨first, ← joins.mapM (join declared)⟩

/-- The name under which the table of the pivot takes part for its zeros. -/
def zerosLabel : String := "pivot_rows"

/-- The keys of a zero-filled query: the primary key, and the attribute unless it is the same. -/
def keys (q : ZeroFilledQuery) : List String :=
  if q.pivotAttribute = q.primaryKey then [q.primaryKey] else [q.primaryKey, q.pivotAttribute]

/-- One zero per row of the pivot. -/
def zeros (q : ZeroFilledQuery) : Selection :=
  { keys := (keys q).map fun k => ⟨zerosLabel, k⟩
    measure := .zero
    source := ⟨⟨q.pivotTableName, zerosLabel⟩, []⟩ }

/-- The statement of a grouped query. -/
def grouped (q : GroupedQuery) : Except RenderError Statement := do
  let source ← joined q.tableName q.pivotAlias q.joins
  return .grouped ⟨[⟨q.pivotAlias, q.groupBy⟩], .count, source⟩

/-- The statement of a zero-filled query. Its keys become columns of a union and must be told apart
from the measure there; a nameless column cannot be referred to. -/
def zeroFilled (q : ZeroFilledQuery) : Except RenderError Statement := do
  let source ← joined q.tableName q.pivotAlias q.joins
  if (keys q).contains measureLabel then .error (.labelClash measureLabel)
  else if (keys q).contains "" then .error (.undeclared "")
  else
    return .combined ⟨(keys q).map fun k => ⟨q.pivotAlias, k⟩, .count, source⟩ (zeros q)

end Render

/-- The statement of a query. -/
def render : Query → Except RenderError Statement
  | .count q => .ok (.total q.tableName)
  | .grouped q => Render.grouped q
  | .zeroFilled q => Render.zeroFilled q

end EntityAtlas.Sql
