import EntityAtlas.Document.Basic
import EntityAtlas.Text.Quoted

/-!
# Reaching into a document

A document of unknown shape may be asked for a field, for its fields or for its elements. Each
question suits some types only; asking it of another is a fault, and a fault knows its category and
its wording.
-/

namespace EntityAtlas

/-- A question that the document at hand cannot answer. -/
inductive Fault where
  /-- The type has no such operation. -/
  | noMember (type member : String)
  /-- The type has no parts that could be asked for by name. -/
  | notSubscriptable (type : String)
  /-- A list was asked for a part by name. -/
  | listIndex
  /-- A text was asked for a part by name. -/
  | textIndex
  /-- The type has no elements. -/
  | notIterable (type : String)
  /-- A record lacks the field. -/
  | missingKey (key : String)
  /-- A record was asked for a part by position. -/
  | missingIndex (position : Nat)
  deriving DecidableEq, Repr

namespace Fault

/-- The category of a fault. -/
def category : Fault → String
  | .noMember _ _ => "AttributeError"
  | .missingKey _ => "KeyError"
  | .missingIndex _ => "KeyError"
  | _ => "TypeError"

/-- The wording of a fault. -/
def message : Fault → String
  | .noMember type member => Text.quoted type ++ " object has no attribute " ++ Text.quoted member
  | .notSubscriptable type => Text.quoted type ++ " object is not subscriptable"
  | .listIndex => "list indices must be integers or slices, not str"
  | .textIndex => "string indices must be integers, not 'str'"
  | .notIterable type => Text.quoted type ++ " object is not iterable"
  | .missingKey key => Text.quoted key
  | .missingIndex position => toString position

end Fault

namespace Document

/-- The fields of a record, asked for through an operation that only records have. -/
def fieldsVia (member : String) : Document → Except Fault (List (String × Document))
  | .record fields => .ok fields
  | d => .error (.noMember d.typeName member)

/-- The value of a field that must be there. -/
def part (key : String) : Document → Except Fault Document
  | .record fields =>
    match Table.find? key fields with
    | some value => .ok value
    | none => .error (.missingKey key)
  | .list _ => .error .listIndex
  | .text _ => .error .textIndex
  | d => .error (.notSubscriptable d.typeName)

/-- The elements of a document: the items of a list, the characters of a text, the names of a
record. -/
def elements : Document → Except Fault (List Document)
  | .list items => .ok items
  | .text s => .ok (s.toList.map fun c => .text (String.singleton c))
  | .record fields => .ok (fields.map fun e => .text e.1)
  | d => .error (.notIterable d.typeName)

end Document

end EntityAtlas
