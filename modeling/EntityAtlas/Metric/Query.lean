import EntityAtlas.Validation.Format

/-!
# Count queries

What an instruction is compiled to: plain data that names tables, join steps and columns. The
tables of a query go by `t0` for the counted table and `t1`, `t2`, … for the joined ones in the
order of the steps.
-/

namespace EntityAtlas

/-- The label of the column that holds the counts. -/
def countLabel : String := "count"

/-- The name under which the table with the given position takes part in a query. -/
def tableAlias (position : Nat) : String := "t" ++ toString position

/-- An equality between a column of an earlier table and one of the joined table. -/
structure ColumnPair where
  /-- The name under which the earlier table takes part. -/
  leftAlias : String
  /-- The column of the earlier table. -/
  leftColumn : String
  /-- The column of the joined table. -/
  rightColumn : String
  deriving DecidableEq, Repr

/-- The inner join of one more table. -/
structure JoinStep where
  /-- The association that the step belongs to. -/
  association : String
  /-- The joined table. -/
  tableName : String
  /-- The name under which it takes part. -/
  label : String
  /-- The equalities it is joined on. -/
  pairs : List ColumnPair
  deriving DecidableEq, Repr

/-- The number of all rows of an entity. -/
structure CountQuery where
  /-- The counted entity. -/
  entity : String
  /-- Its table. -/
  tableName : String
  deriving DecidableEq, Repr

/-- The number of rows for every instance of the pivot that has any. -/
structure GroupedQuery where
  /-- The counted entity. -/
  entity : String
  /-- Its table. -/
  tableName : String
  /-- The pivot entity. -/
  pivot : String
  /-- The name under which the table of the pivot takes part. -/
  pivotAlias : String
  /-- The primary key of the pivot. -/
  groupBy : String
  /-- The associations joined. -/
  joinPath : List String
  /-- The joined tables. -/
  joins : List JoinStep
  deriving DecidableEq, Repr

/-- The number of rows for every instance of the pivot, zero included, with an attribute of it. -/
structure ZeroFilledQuery where
  /-- The counted entity. -/
  entity : String
  /-- Its table. -/
  tableName : String
  /-- The pivot entity. -/
  pivot : String
  /-- The table of the pivot. -/
  pivotTableName : String
  /-- The name under which the table of the pivot takes part. -/
  pivotAlias : String
  /-- The primary key of the pivot. -/
  primaryKey : String
  /-- The attribute of the pivot that is reported. -/
  pivotAttribute : String
  /-- The associations joined. -/
  joinPath : List String
  /-- The joined tables. -/
  joins : List JoinStep
  deriving DecidableEq, Repr

/-- A compiled instruction. -/
inductive Query where
  /-- All rows. -/
  | count (query : CountQuery)
  /-- Rows per instance of a pivot. -/
  | grouped (query : GroupedQuery)
  /-- Rows per instance of a pivot, empty groups included. -/
  | zeroFilled (query : ZeroFilledQuery)
  deriving DecidableEq, Repr

open Format

/-- A column pair. -/
def ColumnPair.format : Format ColumnPair where
  read := model "ColumnPair" fun fields =>
    ColumnPair.mk <$> required text "left_alias" fields
      <*> required text "left_column" fields
      <*> required text "right_column" fields
  write p := .record
    [("left_alias", .text p.leftAlias),
     ("left_column", .text p.leftColumn),
     ("right_column", .text p.rightColumn)]

/-- A join step. -/
def JoinStep.format : Format JoinStep where
  read := model "JoinStep" fun fields =>
    JoinStep.mk <$> required text "association" fields
      <*> required text "table_name" fields
      <*> required text "alias" fields
      <*> required (sequence ColumnPair.format) "on" fields
  write s := .record
    [("association", .text s.association),
     ("table_name", .text s.tableName),
     ("alias", .text s.label),
     ("on", (sequence ColumnPair.format).write s.pairs)]

/-- A count of all rows. -/
def CountQuery.format : Format CountQuery where
  read := model "CountQuery" fun fields =>
    (fun _ entity tableName => CountQuery.mk entity tableName)
      <$> fixedWord "kind" "count" fields
      <*> required text "entity" fields
      <*> required text "table_name" fields
  write q := .record
    [("kind", .text "count"),
     ("entity", .text q.entity),
     ("table_name", .text q.tableName)]

/-- A grouped count. -/
def GroupedQuery.format : Format GroupedQuery where
  read := model "GroupedCountQuery" fun fields =>
    (fun _ entity => GroupedQuery.mk entity)
      <$> fixedWord "kind" "grouped_count" fields
      <*> required text "entity" fields
      <*> required text "table_name" fields
      <*> required text "pivot" fields
      <*> required text "pivot_alias" fields
      <*> required text "group_by" fields
      <*> required (sequence text) "join_path" fields
      <*> required (sequence JoinStep.format) "joins" fields
  write q := .record
    [("kind", .text "grouped_count"),
     ("entity", .text q.entity),
     ("table_name", .text q.tableName),
     ("pivot", .text q.pivot),
     ("pivot_alias", .text q.pivotAlias),
     ("group_by", .text q.groupBy),
     ("join_path", .ofTexts q.joinPath),
     ("joins", (sequence JoinStep.format).write q.joins)]

/-- A grouped count with empty groups. -/
def ZeroFilledQuery.format : Format ZeroFilledQuery where
  read := model "ZeroFilledGroupedCountQuery" fun fields =>
    (fun _ entity => ZeroFilledQuery.mk entity)
      <$> fixedWord "kind" "zero_filled_grouped_count" fields
      <*> required text "entity" fields
      <*> required text "table_name" fields
      <*> required text "pivot" fields
      <*> required text "pivot_table_name" fields
      <*> required text "pivot_alias" fields
      <*> required text "primary_key" fields
      <*> required text "pivot_attribute_name" fields
      <*> required (sequence text) "join_path" fields
      <*> required (sequence JoinStep.format) "joins" fields
  write q := .record
    [("kind", .text "zero_filled_grouped_count"),
     ("entity", .text q.entity),
     ("table_name", .text q.tableName),
     ("pivot", .text q.pivot),
     ("pivot_table_name", .text q.pivotTableName),
     ("pivot_alias", .text q.pivotAlias),
     ("primary_key", .text q.primaryKey),
     ("pivot_attribute_name", .text q.pivotAttribute),
     ("join_path", .ofTexts q.joinPath),
     ("joins", (sequence JoinStep.format).write q.joins)]

namespace Query

/-- The counted entity. -/
def entity : Query → String
  | .count q => q.entity
  | .grouped q => q.entity
  | .zeroFilled q => q.entity

/-- The word for the kind of a query. -/
def kind : Query → String
  | .count _ => "count"
  | .grouped _ => "grouped_count"
  | .zeroFilled _ => "zero_filled_grouped_count"

/-- A query, in which the field `kind` tells the three apart. -/
def format : Format Query where
  read := tagged "kind"
    [("count", fun d => Query.count <$> CountQuery.format.read d),
     ("grouped_count", fun d => Query.grouped <$> GroupedQuery.format.read d),
     ("zero_filled_grouped_count", fun d => Query.zeroFilled <$> ZeroFilledQuery.format.read d)]
  write
    | .count q => CountQuery.format.write q
    | .grouped q => GroupedQuery.format.write q
    | .zeroFilled q => ZeroFilledQuery.format.write q

/-- The title under which a query is read. -/
def title : String := "tagged-union[CountQuery,GroupedCountQuery,ZeroFilledGroupedCountQuery]"

end Query

end EntityAtlas
