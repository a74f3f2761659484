import EntityAtlas.Text.Order

/-!
# Reported conditions

What can go wrong while a metric is planned, ranked or run is reported next to the metric it
belongs to and never ends a batch. Each condition has a stable code and a wording; several causes
may share a code.
-/

namespace EntityAtlas

/-- Why there is no join path. -/
inductive JoinFault where
  /-- No chain of associations leads to the pivot. -/
  | unreachable
  /-- A table that would have to be counted or grouped does not exist. -/
  | missingTable (table : String)
  /-- An association of the path has no join columns. -/
  | noColumns (entity association : String)
  /-- A given path leads elsewhere. -/
  | endsAt (entity : String)
  /-- Another reason, in words; no words are no reason. -/
  | stated (reason : String)
  deriving DecidableEq, Repr

/-- The words for a reason, if there are any. -/
def JoinFault.reason : JoinFault → String
  | .unreachable => ""
  | .missingTable table => "table " ++ table ++ " does not exist"
  | .noColumns entity association => entity ++ "." ++ association ++ " has no join columns"
  | .endsAt entity => "join path ends at " ++ entity
  | .stated reason => reason

/-- Why a pivot cannot be grouped on. -/
inductive PivotFault where
  /-- The pivot has no primary key. -/
  | noKey (pivot : String)
  /-- The primary key is named like the count column. -/
  | keyIsCount (pivot column : String)
  /-- The pivot lacks the attribute. -/
  | noAttribute (pivot name : String)
  /-- The attribute is named like the count column. -/
  | attributeIsCount (column : String)
  /-- Another reason, in words. -/
  | stated (reason : String)
  deriving DecidableEq, Repr

/-- The words for a reason. -/
def PivotFault.reason : PivotFault → String
  | .noKey pivot => "Pivot " ++ pivot ++ " has no primary key to group by"
  | .keyIsCount pivot column =>
    "Pivot " ++ pivot ++ " primary key '" ++ column ++ "' clashes with the count column"
  | .noAttribute pivot name => "Pivot " ++ pivot ++ " has no attribute " ++ name
  | .attributeIsCount column =>
    "Pivot attribute '" ++ column ++ "' clashes with the count column"
  | .stated reason => reason

/-- Why entities cannot be ranked. -/
inductive RankingFault where
  /-- There are no entities. -/
  | empty
  /-- A rank stopped being a number. -/
  | notANumber (iteration : Nat)
  /-- The ranks were still moving when the iterations ran out. -/
  | unsettled (limit : Int)
  /-- The ranks do not sum to a positive number. -/
  | noMass
  /-- Another reason, in words. -/
  | stated (reason : String)
  deriving DecidableEq, Repr

/-- The words for a reason. -/
def RankingFault.reason : RankingFault → String
  | .empty => "Cannot rank an empty entity graph"
  | .notANumber iteration => "Ranking produced NaN at iteration " ++ toString iteration
  | .unsettled limit => "Ranking did not converge within " ++ toString limit ++ " iterations"
  | .noMass => "Ranking collapsed to zero mass"
  | .stated reason => reason

/-- A condition that is reported next to the metric it belongs to. -/
inductive MetricError where
  /-- A condition without a code of its own. -/
  | other (message : String)
  /-- A name that is no entity of the snapshot. -/
  | unknownEntity (name : String)
  /-- An association that an entity of a join path does not have. -/
  | unknownAssociation (entity association : String)
  /-- No way to join the counted entity with the pivot. -/
  | noJoinPath (source target : String) (fault : JoinFault)
  /-- Two associations between neighbours of a path that nothing tells apart. -/
  | ambiguousJoin (source target : String) (candidates : List String)
  /-- A pivot that cannot be grouped on. -/
  | invalidPivot (fault : PivotFault)
  /-- A ranking that came to no result. -/
  | rankingDiverged (fault : RankingFault)
  /-- A query that the database refused or did not finish. -/
  | queryFailed (message : String)
  /-- An instruction that does not have the expected shape. -/
  | invalidInstruction (message : String)
  deriving DecidableEq, Repr

namespace MetricError

/-- The stable code of a condition. -/
def code : MetricError → String
  | .other _ => "error"
  | .unknownEntity _ => "unknown_entity"
  | .unknownAssociation _ _ => "unknown_association"
  | .noJoinPath _ _ _ => "no_join_path"
  | .ambiguousJoin _ _ _ => "no_join_path"
  | .invalidPivot _ => "invalid_pivot"
  | .rankingDiverged _ => "ranking_diverged"
  | .queryFailed _ => "query_failed"
  | .invalidInstruction _ => "invalid_instruction"

/-- The wording of a missing join path with its reason. -/
def noPathText (source target reason : String) : String :=
  "No join path from " ++ source ++ " to " ++ target ++ (if reason = "" then "" else ": " ++ reason)

/-- The wording of a condition. -/
def message : MetricError → String
  | .other text => text
  | .unknownEntity name => "Unknown entity: " ++ name
  | .unknownAssociation entity association =>
    "Entity " ++ entity ++ " has no joinable association named " ++ association
  | .noJoinPath source target fault => noPathText source target fault.reason
  | .ambiguousJoin source target candidates =>
    noPathText source target
      ("ambiguous associations " ++ ", ".intercalate (Text.sorted candidates))
  | .invalidPivot fault => fault.reason
  | .rankingDiverged fault => fault.reason
  | .queryFailed text => text
  | .invalidInstruction text => text

end MetricError

end EntityAtlas
