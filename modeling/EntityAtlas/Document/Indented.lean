import EntityAtlas.Document.Interchange

/-!
# Documents for reading

The notation for interchange spread over lines: each item of a list and each field of a record on a
line of its own, two blanks further in than the brackets. Characters beyond ASCII stand for
themselves.
-/

namespace EntityAtlas.Document

/-- A character inside a quoted text for reading. -/
def readableChar (c : Char) : List Char := if c.toNat < 0x7f then interchangeChar c else [c]

/-- A text between double quotes for reading. -/
def readableText (s : String) : String :=
  "\"" ++ String.ofList (s.toList.flatMap readableChar) ++ "\""

/-- The beginning of a line at a depth. -/
def lineStart (depth : Nat) : String := "\n" ++ String.ofList (List.replicate (2 * depth) ' ')

mutual

/-- The document over lines, its first line being at a depth. -/
def indented (depth : Nat) : Document → String
  | .text s => readableText s
  | .date d => readableText d.iso
  | .moment m => readableText m.interchange
  | .list [] => "[]"
  | .list (item :: rest) =>
    "[" ++ lineStart (depth + 1) ++ indented (depth + 1) item ++ indentedItems (depth + 1) rest ++
      lineStart depth ++ "]"
  | .record [] => "\x7b\x7d"
  | .record ((name, value) :: rest) =>
    "\x7b" ++ lineStart (depth + 1) ++ readableText name ++ ": " ++ indented (depth + 1) value ++
      indentedFields (depth + 1) rest ++ lineStart depth ++ "\x7d"
  | d => d.interchange

/-- Further items of a list at a depth. -/
def indentedItems (depth : Nat) : List Document → String
  | [] => ""
  | item :: rest => "," ++ lineStart depth ++ indented depth item ++ indentedItems depth rest

/-- Further fields of a record at a depth. -/
def indentedFields (depth : Nat) : List (String × Document) → String
  | [] => ""
  | (name, value) :: rest =>
    "," ++ lineStart depth ++ readableText name ++ ": " ++ indented depth value ++
      indentedFields depth rest

end

end EntityAtlas.Document
