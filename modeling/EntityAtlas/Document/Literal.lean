import EntityAtlas.Decimal.Shortest
import EntityAtlas.Document.Basic
import EntityAtlas.Text.Quoted

/-!
# The text of a document

Messages show a document as a literal, with quoted texts, brackets around lists and braces around
records, or plainly, where a text stands for itself.
-/

namespace EntityAtlas.Document

/-- A date as a literal. -/
def dateLiteral (d : Date) : String :=
  "datetime.date(" ++ toString d.year ++ ", " ++ toString d.month ++ ", " ++ toString d.day ++ ")"

/-- A distance from universal time as a literal. -/
def zoneLiteral (minutes : Int) : String :=
  if minutes = 0 then "datetime.timezone.utc"
  else "datetime.timezone(" ++ spanLiteral minutes ++ ")"

/-- A moment as a literal: microseconds that are zero are left out, and then seconds that are. -/
def momentLiteral (m : Moment) : String :=
  let units := [m.date.year, m.date.month, m.date.day, m.hour, m.minute] ++
    if m.microsecond ≠ 0 then [m.second, m.microsecond]
    else if m.second ≠ 0 then [m.second] else []
  let zone := match m.ahead with
    | none => []
    | some minutes => ["tzinfo=" ++ zoneLiteral minutes]
  "datetime.datetime(" ++ ", ".intercalate (units.map toString ++ zone) ++ ")"

mutual

/-- The document as a literal. -/
def literal : Document → String
  | .null => "None"
  | .bool true => "True"
  | .bool false => "False"
  | .int i => toString i
  | .real x => FloatFormat.plain.text x
  | .text s => Text.quoted s
  | .date d => dateLiteral d
  | .moment m => momentLiteral m
  | .list items => "[" ++ literalItems items ++ "]"
  | .record fields => "\x7b" ++ literalFields fields ++ "\x7d"

/-- The items of a list as literals, with commas between. -/
def literalItems : List Document → String
  | [] => ""
  | [item] => literal item
  | item :: rest => literal item ++ ", " ++ literalItems rest

/-- The fields of a record as literals, with commas between. -/
def literalFields : List (String × Document) → String
  | [] => ""
  | [(name, value)] => Text.quoted name ++ ": " ++ literal value
  | (name, value) :: rest =>
    Text.quoted name ++ ": " ++ literal value ++ ", " ++ literalFields rest

end

/-- The document in running text: a text is itself, a date is in year-month-day form, before a time
of day too, and all else is a literal. -/
def display : Document → String
  | .text s => s
  | .date d => d.iso
  | .moment m => m.iso " "
  | d => d.literal

/-- The document as the value of a declared option: as in running text, but truth values in lower
case. -/
def optionText : Document → String
  | .bool true => "true"
  | .bool false => "false"
  | d => d.display

end EntityAtlas.Document
