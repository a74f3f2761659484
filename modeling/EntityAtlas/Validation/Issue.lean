import EntityAtlas.Document.Literal

/-!
# What validation finds

Reading a document as a model yields either the model or every problem with it, each at its place.
An issue is a place and a problem; a report gathers the issues under the title of the model. The
wordings are here and nowhere else.
-/

namespace EntityAtlas

/-- One step from a document to a part of it. -/
inductive Step where
  /-- The value of a field, or the alternative of a choice. -/
  | name (name : String)
  /-- The item of a list. -/
  | index (index : Nat)
  deriving DecidableEq, Repr

/-- The text of a step. -/
def Step.text : Step → String
  | .name s => s
  | .index i => toString i

/-- What can be wrong with a part of a document. -/
inductive Problem where
  /-- A required part is absent. -/
  | missing
  /-- Not a text. -/
  | notText
  /-- Not a list where a fixed sequence is expected. -/
  | notSequence
  /-- A pair with more than two items. -/
  | pairTooLong (length : Nat)
  /-- Not a list. -/
  | notList
  /-- Not a record where any names are allowed. -/
  | notRecord
  /-- Not a record where the named model is expected. -/
  | notModel (title : String)
  /-- A text or number that stands for no truth value. -/
  | unknownBool
  /-- A value of a type that has no truth values. -/
  | notBool
  /-- A text that stands for no whole number. -/
  | unknownInt
  /-- A number with a fractional part. -/
  | fractional
  /-- A whole number too large for the way it is given. -/
  | oversized
  /-- An infinity, or not a number. -/
  | notFinite
  /-- A value of a type that has no whole numbers. -/
  | notInt
  /-- A number below the least allowed one. -/
  | below (least : Int)
  /-- None of the listed words, which the report shows as given. -/
  | notOneOf (choices : String)
  /-- Not the only word allowed. -/
  | notLiteral (word : String)
  /-- A choice between models whose value is no record. -/
  | notTagged
  /-- A choice between models without a tag. -/
  | noTag (field : String)
  /-- A choice between models with an unknown tag. -/
  | unknownTag (tag field : String) (expected : List String)
  deriving DecidableEq, Repr

namespace Problem

/-- The identifier of a problem. -/
def code : Problem → String
  | .missing => "missing"
  | .notText => "string_type"
  | .notSequence => "tuple_type"
  | .pairTooLong _ => "too_long"
  | .notList => "list_type"
  | .notRecord => "dict_type"
  | .notModel _ => "model_type"
  | .unknownBool => "bool_parsing"
  | .notBool => "bool_type"
  | .unknownInt => "int_parsing"
  | .fractional => "int_from_float"
  | .oversized => "int_parsing_size"
  | .notFinite => "finite_number"
  | .notInt => "int_type"
  | .below _ => "greater_than_equal"
  | .notOneOf _ => "enum"
  | .notLiteral _ => "literal_error"
  | .notTagged => "model_attributes_type"
  | .noTag _ => "union_tag_not_found"
  | .unknownTag _ _ _ => "union_tag_invalid"

/-- The wording of a problem. -/
def message : Problem → String
  | .missing => "Field required"
  | .notText => "Input should be a valid string"
  | .notSequence => "Input should be a valid tuple"
  | .pairTooLong n => "Tuple should have at most 2 items after validation, not " ++ toString n
  | .notList => "Input should be a valid list"
  | .notRecord => "Input should be a valid dictionary"
  | .notModel title => "Input should be a valid dictionary or instance of " ++ title
  | .unknownBool => "Input should be a valid boolean, unable to interpret input"
  | .notBool => "Input should be a valid boolean"
  | .unknownInt => "Input should be a valid integer, unable to parse string as an integer"
  | .fractional => "Input should be a valid integer, got a number with a fractional part"
  | .oversized => "Unable to parse input string as an integer, exceeded maximum size"
  | .notFinite => "Input should be a finite number"
  | .notInt => "Input should be a valid integer"
  | .below least => "Input should be greater than or equal to " ++ toString least
  | .notOneOf choices => "Input should be " ++ choices
  | .notLiteral word => "Input should be '" ++ word ++ "'"
  | .notTagged => "Input should be a valid dictionary or object to extract fields from"
  | .noTag field => "Unable to extract tag using discriminator '" ++ field ++ "'"
  | .unknownTag tag field expected =>
    "Input tag '" ++ tag ++ "' found using '" ++ field ++
      "' does not match any of the expected tags: " ++
      ", ".intercalate (expected.map fun t => "'" ++ t ++ "'")

end Problem

/-- A problem at its place. -/
structure Issue where
  /-- The steps from the whole document to the place. -/
  path : List Step
  /-- The problem there. -/
  problem : Problem
  deriving DecidableEq, Repr

namespace Issue

/-- The issue as seen from one step further up. -/
def under (step : Step) (i : Issue) : Issue := { i with path := step :: i.path }

/-- The lines of a report on one issue; an issue with the whole document names no place. -/
def lines (i : Issue) : List String :=
  let place := if i.path.isEmpty then [] else [".".intercalate (i.path.map Step.text)]
  place ++ ["  " ++ i.problem.message ++ " [type=" ++ i.problem.code ++ "]"]

end Issue

/-- Everything that is wrong with a document read as the model `title`. -/
structure ValidationReport where
  /-- The model. -/
  title : String
  /-- The issues in the order of the model's fields. -/
  issues : List Issue
  deriving DecidableEq, Repr

/-- The first line of a report. -/
def ValidationReport.header (r : ValidationReport) : String :=
  let n := r.issues.length
  toString n ++ (if n = 1 then " validation error for " else " validation errors for ") ++ r.title

/-- The text of a report. -/
def ValidationReport.message (r : ValidationReport) : String :=
  "\n".intercalate (r.header :: r.issues.flatMap Issue.lines)

end EntityAtlas
