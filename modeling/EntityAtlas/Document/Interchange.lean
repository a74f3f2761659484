import EntityAtlas.Decimal.Shortest
import EntityAtlas.Document.Basic
import EntityAtlas.Text.Quoted

/-!
# Documents for interchange

The usual notation for exchanging documents between programs, restricted to ASCII: every other
character is given by the UTF-16 units of its code point. Dates and moments have no notation of
their own and are written as texts.
-/

namespace EntityAtlas.Document

/-- A UTF-16 unit as an escape. -/
def unitEscape (n : Nat) : List Char := '\\' :: 'u' :: Text.hexadecimal 4 n

/-- A character inside a quoted text. -/
def interchangeChar (c : Char) : List Char :=
  let n := c.toNat
  if c = '"' ∨ c = '\\' then ['\\', c]
  else if c = '\n' then ['\\', 'n']
  else if c = '\r' then ['\\', 'r']
  else if c = '\t' then ['\\', 't']
  else if n = 8 then ['\\', 'b']
  else if n = 12 then ['\\', 'f']
  else if 0x20 ≤ n ∧ n < 0x7f then [c]
  else if n < 0x10000 then unitEscape n
  else
    let m := n - 0x10000
    unitEscape (0xd800 + m / 0x400) ++ unitEscape (0xdc00 + m % 0x400)

/-- A text between double quotes. -/
def interchangeText (s : String) : String :=
  "\"" ++ String.ofList (s.toList.flatMap interchangeChar) ++ "\""

mutual

/-- The document in the notation for interchange. -/
def interchange : Document → String
  | .null => "null"
  | .bool true => "true"
  | .bool false => "false"
  | .int i => toString i
  | .real x => FloatFormat.interchange.text x
  | .text s => interchangeText s
  | .date d => interchangeText d.iso
  | .moment m => interchangeText m.interchange
  | .list items => "[" ++ interchangeItems items ++ "]"
  | .record fields => "\x7b" ++ interchangeFields fields ++ "\x7d"

/-- The items of a list with commas between. -/
def interchangeItems : List Document → String
  | [] => ""
  | [item] => interchange item
  | item :: rest => interchange item ++ ", " ++ interchangeItems rest

/-- The fields of a record with commas between. -/
def interchangeFields : List (String × Document) → String
  | [] => ""
  | [(name, value)] => interchangeText name ++ ": " ++ interchange value
  | (name, value) :: rest =>
    interchangeText name ++ ": " ++ interchange value ++ ", " ++ interchangeFields rest

end

end EntityAtlas.Document
