import EntityAtlas.Calendar
import EntityAtlas.Table

/-!
# Documents

A document is a value read from a data file or received from the network: scalars, lists, and
records with named fields in the order given. Metadata snapshots, metric instructions, command
frames and query rows all arrive or leave as documents.
-/

namespace EntityAtlas

/-- A value of a data file or a message. -/
inductive Document where
  /-- The absent value. -/
  | null
  /-- A truth value. -/
  | bool (value : Bool)
  /-- A whole number of any size. -/
  | int (value : Int)
  /-- A floating-point number. -/
  | real (value : Float)
  /-- A text. -/
  | text (value : String)
  /-- A calendar date; data files have them, messages do not. -/
  | date (value : Date)
  /-- A date with a time of day, which messages do not have either. -/
  | moment (value : Moment)
  /-- A list. -/
  | list (items : List Document)
  /-- Named fields in their order. -/
  | record (fields : List (String × Document))
  deriving Inhabited

namespace Document

/-- The name by which messages call the type of a document. -/
def typeName : Document → String
  | .null => "NoneType"
  | .bool _ => "bool"
  | .int _ => "int"
  | .real _ => "float"
  | .text _ => "str"
  | .date _ => "datetime.date"
  | .moment _ => "datetime.datetime"
  | .list _ => "list"
  | .record _ => "dict"

/-- Whether a document counts as something: null, false, zero and the empty text, list and record
do not. -/
def isTruthy : Document → Bool
  | .null => false
  | .bool b => b
  | .int i => i ≠ 0
  | .real x => x != 0.0
  | .text s => s ≠ ""
  | .date _ => true
  | .moment _ => true
  | .list items => !items.isEmpty
  | .record fields => !fields.isEmpty

/-- Whether a document is the given text. -/
def isText (s : String) : Document → Bool
  | .text t => t = s
  | _ => false

/-- A text, or null for none. -/
def ofText? : Option String → Document
  | none => .null
  | some s => .text s

/-- A list of texts. -/
def ofTexts (texts : List String) : Document := .list (texts.map .text)

/-- The value under a name, when the document is a record that has it. -/
def field? (name : String) : Document → Option Document
  | .record fields => Table.find? name fields
  | _ => none

end Document

end EntityAtlas
