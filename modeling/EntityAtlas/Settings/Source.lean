import EntityAtlas.Settings.Basic
import EntityAtlas.Text.Blank
import EntityAtlas.Text.Case

/-!
# Where settings come from

A setting is given directly, by a variable of the environment, or by a variable in a file, in this
order of precedence. The names of variables begin with a common word and their letter case does not
matter; of two variables of one name the later counts.

The file has one variable a line, as a name, an equals sign and a value. A value may be enclosed by
quotation marks of either kind; a hash sign after a blank begins a comment. A line that does not
follow this notation is skipped.
-/

namespace EntityAtlas.Settings

/-- What the names of all variables begin with. -/
def leadingWord : String := "metricgraph_"

/-- The settings that variables give. -/
def ofVariables (entries : Table String) : Table Document :=
  let lowered : Table String := Table.ofEntries (entries.map fun v => (Text.lower v.1, v.2))
  names.filterMap fun name =>
    (lowered.find? (leadingWord ++ name)).map fun value => (name, .text value)

namespace EnvironmentFile

/-- Whether a character ends a line. -/
def isLineEnd (c : Char) : Bool := c = '\n' || c = '\r'

/-- Whether a character is a blank inside a line. -/
def isGap (c : Char) : Bool := Text.isBlank c && !isLineEnd c

/-- Whether a character may stand in a name without quotation marks. -/
def isNameChar (c : Char) : Bool := c ≠ '=' && c ≠ '#' && !Text.isBlank c

/-- A text up to the mark that closes it and the rest after the mark, if it is closed. -/
def closed (mark : Char) : List Char → Option (List Char × List Char)
  | [] => none
  | '\\' :: c :: rest =>
    if c = mark then (closed mark rest).map fun r => ('\\' :: c :: r.1, r.2)
    else if c = '\\' then (closed mark rest).map fun r => ('\\' :: '\\' :: r.1, r.2)
    else (closed mark (c :: rest)).map fun r => ('\\' :: r.1, r.2)
  | c :: rest =>
    if c = mark then some ([], rest) else (closed mark rest).map fun r => (c :: r.1, r.2)

/-- The character that a letter stands for after a backslash between double quotation marks. -/
def escape? : Char → Option Char
  | 'a' => some (Char.ofNat 7)
  | 'b' => some (Char.ofNat 8)
  | 'f' => some (Char.ofNat 12)
  | 'n' => some '\n'
  | 'r' => some '\r'
  | 't' => some '\t'
  | 'v' => some (Char.ofNat 11)
  | '"' => some '"'
  | _ => none

/-- The value that a quoted text stands for. Between single marks only the mark and the backslash
are escaped. -/
def decoded (mark : Char) : List Char → List Char
  | '\\' :: c :: rest =>
    if c = '\\' ∨ c = Text.apostrophe then c :: decoded mark rest
    else match if mark = '"' then escape? c else none with
      | some d => d :: decoded mark rest
      | none => '\\' :: c :: decoded mark rest
  | c :: rest => c :: decoded mark rest
  | [] => []

/-- A value without quotation marks, up to a comment. -/
def plain : List Char → List Char
  | [] => []
  | c :: rest =>
    if Text.isBlank c && (rest.dropWhile Text.isBlank).head? = some '#' then []
    else c :: plain rest

/-- Blanks at the end removed. -/
def withoutTail (s : List Char) : List Char := (s.reverse.dropWhile Text.isBlank).reverse

/-- The value at the beginning of a text and what follows it, or nothing if a mark is not closed. -/
def value (s : List Char) : Option (List Char × List Char) :=
  match s with
  | [] => some ([], [])
  | c :: rest =>
    if c = '"' || c = Text.apostrophe then
      (closed c rest).map fun r => (decoded c r.1, r.2)
    else
      let line := s.takeWhile (!isLineEnd ·)
      some (withoutTail (plain line), s.drop line.length)

/-- The text without a word in front that only marks the variable for export. -/
def withoutExport (s : List Char) : List Char :=
  let after := s.drop 6
  if s.take 6 = "export".toList && after.head?.any isGap then after.dropWhile isGap else s

/-- The name at the beginning of a text and what follows it, if there is one. -/
def name (s : List Char) : Option (List Char × List Char) :=
  match s with
  | c :: rest =>
    if c = Text.apostrophe then
      let body := rest.takeWhile (· ≠ Text.apostrophe)
      if body.isEmpty || body.length = rest.length then none
      else some (body, rest.drop (body.length + 1))
    else
      let body := s.takeWhile isNameChar
      if body.isEmpty then none else some (body, s.drop body.length)
  | [] => none

/-- What follows a line whose variable is complete: only blanks and a comment may be left of it. -/
def lineRest (s : List Char) : Option (List Char) :=
  let s := s.dropWhile isGap
  let s := if s.head? = some '#' then s.dropWhile (!isLineEnd ·) else s
  match s with
  | [] => some []
  | c :: rest => if isLineEnd c then some rest else none

/-- The variable at the beginning of a text, none for a comment, and the rest of the text; or
nothing if the line does not follow the notation. A name without a value takes back the variable. -/
def entry (s : List Char) : Option (Option (String × Option String) × List Char) :=
  if s.head? = some '#' then (lineRest s).map fun rest => (none, rest)
  else do
    let (key, s) ← name (withoutExport s)
    let key := String.ofList key
    match s.dropWhile isGap with
    | '=' :: s => do
      let (given, s) ← value (s.dropWhile isGap)
      return (some (key, some (String.ofList given)), ← lineRest s)
    | s => return (some (key, none), ← lineRest s)

/-- The variables of a text, up to a number of lines. -/
def entries : Nat → List Char → List (String × Option String)
  | 0, _ => []
  | fuel + 1, s =>
    match s.dropWhile Text.isBlank with
    | [] => []
    | s =>
      match entry s with
      | some (found, rest) => found.toList ++ entries fuel rest
      | none => entries fuel ((s.dropWhile (!isLineEnd ·)).drop 1)

/-- The variables that a file gives. -/
def read (content : String) : Table String :=
  let all : Table (Option String) := Table.ofEntries (entries (content.length + 1) content.toList)
  all.filterMap fun e => e.2.map fun value => (e.1, value)

end EnvironmentFile

/-- Reads settings from all sources. -/
def gather (given : Table Document) (environment : Table String) (file : Option String) :
    Except ValidationReport Settings :=
  let fromFile := ofVariables ((file.map EnvironmentFile.read).getD [])
  read ((Table.putAll fromFile (ofVariables environment)).putAll given)

end EntityAtlas.Settings
