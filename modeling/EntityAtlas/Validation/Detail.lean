import EntityAtlas.Document.Literal
import EntityAtlas.Validation.Issue

/-!
# Detailed reports

A report can show for each issue the value that is at fault and where its kind of problem is
explained. Long values are cut in the middle.
-/

namespace EntityAtlas

/-- The address of pages that explain problems by their codes. -/
structure HelpPages where
  /-- Who serves the pages. -/
  host : String
  /-- Where the pages are. -/
  directory : List String
  deriving DecidableEq, Repr

namespace HelpPages

/-- The address of a page. -/
def page (p : HelpPages) (code : String) : String :=
  "https:" ++ "/".intercalate (["", "", p.host] ++ p.directory ++ [code])

/-- The pages on problems of validation. -/
def onValidation : HelpPages := ⟨"errors.pydantic.dev", ["2.14", "v"]⟩

end HelpPages

namespace Document

/-- The part of a document at the end of a path, or the last part that can be reached. -/
def follow : List Step → Document → Document
  | [], d => d
  | .name n :: rest, .record fields =>
    match Table.find? n fields with
    | some d => follow rest d
    | none => .record fields
  | .index i :: rest, .list items =>
    match items[i]? with
    | some d => follow rest d
    | none => .list items
  | _ :: rest, d => follow rest d

/-- The number of bytes of a literal that are shown in full. -/
def shownBytes : Nat := 50

/-- A literal, cut in the middle if it is long. -/
def abridged (literal : String) : String :=
  if literal.utf8ByteSize ≤ shownBytes then literal
  else
    let cs := literal.toList
    String.ofList (cs.take (shownBytes / 2)) ++ "..." ++
      String.ofList (cs.drop (cs.length - (shownBytes / 2 - 1)))

/-- The name of the type of a document without the module that the type is from. -/
def bareTypeName : Document → String
  | .date _ => "date"
  | .moment _ => "datetime"
  | d => d.typeName

end Document

namespace Issue

/-- The lines of a detailed report on one issue with a document. -/
def detailedLines (pages : HelpPages) (d : Document) (i : Issue) : List String :=
  let place := if i.path.isEmpty then [] else [".".intercalate (i.path.map Step.text)]
  let value := d.follow i.path
  place ++
    ["  " ++ i.problem.message ++ " [type=" ++ i.problem.code ++ ", input_value=" ++
        Document.abridged value.literal ++ ", input_type=" ++ value.bareTypeName ++ "]",
     "    For further information visit " ++ pages.page i.problem.code]

end Issue

/-- The text of a report that shows the values at fault in a document. -/
def ValidationReport.detailed (pages : HelpPages) (d : Document) (r : ValidationReport) : String :=
  "\n".intercalate (r.header :: r.issues.flatMap (Issue.detailedLines pages d))

end EntityAtlas
