import EntityAtlas.Text.Quoted

/-!
# Rejected mappings

A registry is checked as a whole before anything is read from it, class by class and relationship by
relationship in the order of declaration. The first relationship that cannot be understood is
reported.
-/

namespace EntityAtlas

/-- A relationship, by the class that declares it and its name. -/
structure RelationshipName where
  /-- The class. -/
  owner : String
  /-- The name of the relationship. -/
  key : String
  deriving DecidableEq, Repr

/-- A relationship as messages name it. -/
def RelationshipName.text (n : RelationshipName) : String := n.owner ++ "." ++ n.key

/-- Why a mapping is rejected. -/
inductive MappingError where
  /-- The target of a relationship is no known class; `table` stores the owner. -/
  | unknownTarget (owner table target : String)
  /-- No foreign key links the tables of a relationship, or links them to the table in between. -/
  | noForeignKeys (relationship : RelationshipName) (secondary : Option String)
  /-- Several foreign keys link the tables, and nothing tells which one is meant. -/
  | ambiguousForeignKeys (relationship : RelationshipName) (secondary : Option String)
  /-- The foreign columns are on both sides of a relationship, or on neither. -/
  | unclearDirection (relationship : RelationshipName) (onBothSides : Bool)
  /-- No pair of columns leads from one side of a relationship to the other. -/
  | noColumnPairs (relationship : RelationshipName)
  /-- The inverse of a relationship does not exist on the target class, stored in `table`. -/
  | noInverse (target table inverse : String)
  /-- The inverse of a relationship is a column of the target class. -/
  | inverseIsColumn (relationship : RelationshipName) (target inverse : String)
  deriving DecidableEq, Repr

namespace MappingError

/-- A class with the table that stores it. -/
def mapper (name table : String) : String := "Mapper[" ++ name ++ "(" ++ table ++ ")]"

/-- The beginning of a message on the join condition of a relationship. -/
def undetermined (n : RelationshipName) : String :=
  "Could not determine join condition between parent/child tables on relationship " ++ n.text ++
    " - there are "

/-- The beginning of a message on the direction of a relationship. -/
def undirected (n : RelationshipName) : String :=
  "Can't determine relationship direction for relationship '" ++ n.text ++
    "' - foreign key columns "

/-- The wording of a mapping error. -/
def message : MappingError → String
  | .unknownTarget owner table target =>
    "When initializing mapper " ++ mapper owner table ++ ", expression " ++ Text.quoted target ++
      " failed to locate a name (" ++ Text.quoted target ++ "). If this is a class name, " ++
      "consider adding this relationship() to the <class 'app." ++ owner ++
      "'> class after both dependent classes have been defined."
  | .noForeignKeys n none =>
    undetermined n ++ "no foreign keys linking these tables.  Ensure that referencing columns " ++
      "are associated with a ForeignKey or ForeignKeyConstraint, or specify a 'primaryjoin' " ++
      "expression."
  | .noForeignKeys n (some secondary) =>
    undetermined n ++ "no foreign keys linking these tables via secondary table '" ++ secondary ++
      "'.  Ensure that referencing columns are associated with a ForeignKey or " ++
      "ForeignKeyConstraint, or specify 'primaryjoin' and 'secondaryjoin' expressions."
  | .ambiguousForeignKeys n none =>
    undetermined n ++ "multiple foreign key paths linking the tables.  Specify the " ++
      "'foreign_keys' argument, providing a list of those columns which should be counted as " ++
      "containing a foreign key reference to the parent table."
  | .ambiguousForeignKeys n (some secondary) =>
    undetermined n ++ "multiple foreign key paths linking the tables via secondary table '" ++
      secondary ++ "'.  Specify the 'foreign_keys' argument, providing a list of those columns " ++
      "which should be counted as containing a foreign key reference from the secondary table " ++
      "to each of the parent and child tables."
  | .unclearDirection n true =>
    undirected n ++ "within the join condition are present in both the parent and the child's " ++
      "mapped tables.  Ensure that only those columns referring to a parent column are marked " ++
      "as foreign, either via the foreign() annotation or via the foreign_keys argument."
  | .unclearDirection n false =>
    undirected n ++ "are present in neither the parent nor the child's mapped tables"
  | .noColumnPairs n =>
    "Relationship " ++ n.text ++ " could not determine any unambiguous local/remote column " ++
      "pairs based on join condition and remote_side arguments.  Consider using the remote() " ++
      "annotation to accurately mark those elements of the join condition that are on the " ++
      "remote side of the relationship."
  | .noInverse target table inverse =>
    "Mapper '" ++ mapper target table ++ "' has no property '" ++ inverse ++
      "'.  If this property was indicated from other mappers or configure events, ensure " ++
      "registry.configure() has been called."
  | .inverseIsColumn n target inverse =>
    "back_populates on relationship '" ++ n.text ++ "' refers to attribute '" ++ target ++ "." ++
      inverse ++ "' that is not a relationship.  The back_populates parameter should refer to " ++
      "the name of a relationship on the target class."

/-- The category of a mapping error. -/
def category : MappingError → String
  | .unknownTarget .. | .noInverse .. | .inverseIsColumn .. => "InvalidRequestError"
  | .noForeignKeys .. => "NoForeignKeysError"
  | .ambiguousForeignKeys .. => "AmbiguousForeignKeysError"
  | .unclearDirection .. | .noColumnPairs _ => "ArgumentError"

end MappingError

end EntityAtlas
