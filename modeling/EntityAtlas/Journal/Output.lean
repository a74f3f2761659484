import EntityAtlas.Document.Literal
import EntityAtlas.Journal
import EntityAtlas.Text.Case
import EntityAtlas.Text.Order

/-!
# Writing the journal

Events from a level on are written, as lines for a person or as records for a program. Components
from elsewhere report in lines of their own under the same threshold, except the database library,
which never says less than its warnings nor more.
-/

namespace EntityAtlas

/-- How an event is written. -/
inductive JournalFormat where
  /-- As a line for a person. -/
  | console
  /-- As a record for a program. -/
  | json
  deriving DecidableEq, Repr

/-- Which events are written, and how. -/
structure JournalSettings where
  /-- The least weight of an event that is written. -/
  least : Nat
  /-- How events are written. -/
  format : JournalFormat
  deriving DecidableEq, Repr

/-- Why the settings of the journal are not accepted. -/
inductive JournalFault where
  /-- The word names no level. -/
  | unknownLevel (word : String)
  /-- The word names no format. -/
  | unknownFormat (word : String)
  deriving DecidableEq, Repr

namespace JournalFault

/-- The wording of a fault. -/
def message : JournalFault → String
  | .unknownLevel word => Text.quoted ("level " ++ Text.lower word)
  | .unknownFormat word =>
    "log_format must be one of ('console', 'json'), got " ++ Text.quoted word

/-- The category of a fault. -/
def category : JournalFault → String
  | .unknownLevel _ => "KeyError"
  | .unknownFormat _ => "ValueError"

end JournalFault

namespace JournalSettings

/-- The weights that the words in capitals stand for. -/
def weights : Table Nat :=
  [("CRITICAL", 50), ("FATAL", 50), ("ERROR", 40), ("WARN", 30), ("WARNING", 30), ("INFO", 20),
   ("DEBUG", 10), ("NOTSET", 0)]

/-- The format that a word names. -/
def formatOf? : String → Option JournalFormat
  | "console" => some .console
  | "json" => some .json
  | _ => none

/-- Reads the settings from two words; letter case does not matter for the level. -/
def read (level format : String) : Except JournalFault JournalSettings :=
  match formatOf? format with
  | none => .error (.unknownFormat format)
  | some format =>
    let word := Text.upper level
    match weights.find? word with
    | none => .error (.unknownLevel word)
    | some least => .ok ⟨least, format⟩

/-- Whether an event is written. -/
def admits (s : JournalSettings) (e : Event) : Bool := s.least ≤ e.level.weight

end JournalSettings

namespace Event

/-- Whether a text has to be quoted for the ends of a value to be seen. -/
def isOpen (s : String) : Bool :=
  s.toList.any fun c => [' ', '\t', '\r', '\n', '=', '"', Text.apostrophe].contains c

/-- A value on a line. -/
def valueText : Document → String
  | .text s => if isOpen s then Text.quoted s else s
  | d => d.literal

/-- A text filled up with blanks to a width. -/
def padded (width : Nat) (s : String) : String :=
  s ++ String.ofList (List.replicate (width - s.length) ' ')

/-- The fields of an event without those that every event has. -/
def ownFields (e : Event) : Table Document :=
  (Table.remove "timestamp" e.fields).remove "level"

/-- An event as a line: when it happened, its level, its name, and its fields by name. -/
def line (timestamp : String) (e : Event) : String :=
  let fields := (ownFields e).mergeSort fun a b => Text.notAfter a.1 b.1
  timestamp ++ " [" ++ padded 9 e.level.word ++ "] " ++ padded 30 e.name ++
    String.join (fields.map fun f => " " ++ f.1 ++ "=" ++ valueText f.2)

/-- An event as a record. -/
def record (timestamp : Document) (e : Event) : Document :=
  .record (e.ownFields.putAll
    [("event", .text e.name), ("timestamp", timestamp), ("level", .text e.level.word)])

end Event

/-- What a component from elsewhere reports. -/
structure Notice where
  /-- The name of the component. -/
  component : String
  /-- How important it is. -/
  level : Level
  /-- The wording. -/
  text : String
  deriving DecidableEq, Repr

namespace Notice

/-- The database library. -/
def databaseLibrary : String := "sqlalchemy"

/-- Whether a component is a part of the database library. -/
def isOfDatabase (n : Notice) : Bool :=
  n.component = databaseLibrary || n.component.startsWith (databaseLibrary ++ ".")

/-- Whether a report is written. -/
def isAdmitted (s : JournalSettings) (n : Notice) : Bool :=
  (if n.isOfDatabase then Level.warning.weight else s.least) ≤ n.level.weight

/-- A report as a line; a component without a name is called the root. -/
def line (n : Notice) : String :=
  let component := if n.component = "" then "root" else n.component
  component ++ " " ++ Text.upper n.level.word ++ " " ++ n.text

end Notice

end EntityAtlas
