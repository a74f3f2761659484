import EntityAtlas.Text.Blank

/-!
# Styled texts

A text for the terminal may name styles in brackets: a style is opened by its name and closed by its
name after a slash, or by a slash alone. The names are not shown. A bracket is text when what it
holds does not begin like a style, when another bracket opens inside it, or after a backslash.
-/

namespace EntityAtlas.Terminal

/-- A piece of a styled text. -/
inductive Piece where
  /-- Text that is shown. -/
  | shown (text : List Char)
  /-- The content of a pair of brackets, with the place of the bracket. -/
  | tag (content : List Char) (position : Nat)
  deriving Repr

/-- Why a styled text cannot be shown. -/
inductive StyleFault where
  /-- A style is closed that is not open. -/
  | notOpen (tag : String) (position : Nat)
  /-- Nothing is open that could be closed. -/
  | nothingOpen (position : Nat)
  deriving DecidableEq, Repr

namespace StyleFault

/-- The wording of a fault. -/
def message : StyleFault → String
  | .notOpen tag position =>
    "closing tag '[" ++ tag ++ "]' at position " ++ toString position ++
      " doesn't match any open tag"
  | .nothingOpen position =>
    "closing tag '[/]' at position " ++ toString position ++ " has nothing to close"

end StyleFault

namespace Styled

/-- Whether a character begins the name of a style. -/
def beginsTag (c : Char) : Bool := ('a' ≤ c && c ≤ 'z') || c = '/' || c = '#' || c = '@'

/-- The content of the brackets whose opening one was just read, if they hold a style, and what
follows them. -/
def bracketed (s : List Char) : Option (List Char × List Char) :=
  match s with
  | [] => none
  | c :: rest =>
    if !beginsTag c then none
    else
      let more := rest.takeWhile fun d => d ≠ ']' && d ≠ '['
      match rest.drop more.length with
      | ']' :: after => some (c :: more, after)
      | _ => none

/-- Text as it is shown: a backslash before a bracket disappears. -/
def unescaped : List Char → List Char
  | '\\' :: '[' :: rest => '[' :: unescaped rest
  | c :: rest => c :: unescaped rest
  | [] => []

/-- The pieces of a text from a position on; `text` holds the characters read since the last style,
the latest first. Of the backslashes before a style each pair shows as one; a single one left over
makes the style text. -/
def pieces : Nat → Nat → List Char → List Char → List Piece
  | 0, _, text, _ => [.shown text.reverse]
  | _ + 1, _, text, [] => [.shown text.reverse]
  | fuel + 1, position, text, c :: rest =>
    if c ≠ '[' then pieces fuel (position + 1) (c :: text) rest
    else match bracketed rest with
      | none => pieces fuel (position + 1) (c :: text) rest
      | some (content, after) =>
        let slashes := (text.takeWhile (· = '\\')).length
        let before := (text.drop slashes).reverse
        let paired := List.replicate (slashes / 2) '\\'
        let bracket : Piece := if slashes % 2 = 1 then .shown ('[' :: content ++ [']'])
          else .tag content position
        .shown before :: .shown paired :: bracket ::
          pieces fuel (position + content.length + 2) [] after

/-- The name of a style, which ends where its parameters begin. -/
def styleName (content : List Char) : String :=
  (String.ofList (Text.trimmed (content.takeWhile (· ≠ '=')))).toLower

/-- The text that is shown, given the names of the open styles, the innermost first. -/
def shown : List String → List Piece → Except StyleFault (List Char)
  | _, [] => .ok []
  | opened, .shown text :: rest => do return unescaped text ++ (← shown opened rest)
  | opened, .tag ('/' :: content) position :: rest =>
    let name := styleName content
    if name = "" then
      match opened with
      | [] => .error (.nothingOpen position)
      | _ :: opened => shown opened rest
    else if opened.contains name then shown (opened.erase name) rest
    else .error (.notOpen (String.ofList ('/' :: content)) position)
  | opened, .tag content _ :: rest => shown (styleName content :: opened) rest

/-- Whether a character only steers the terminal: the bell, a step back, a return, and the leaps to
a next line or page. Such characters are left out. -/
def isSteering (c : Char) : Bool := [7, 8, 11, 12, 13].contains c.toNat

/-- A text with each tab filled up to the next eighth column, from a column on. -/
def withoutTabs : Nat → List Char → List Char
  | _, [] => []
  | _, '\n' :: rest => '\n' :: withoutTabs 0 rest
  | column, '\t' :: rest =>
    List.replicate (8 - column % 8) ' ' ++ withoutTabs (column + (8 - column % 8)) rest
  | column, c :: rest => c :: withoutTabs (column + 1) rest

/-- A styled text without its styles. -/
def plain (s : String) : Except StyleFault String :=
  (shown [] (pieces (s.length + 1) 0 [] s.toList)).map fun cs =>
    String.ofList (withoutTabs 0 (cs.filter (!isSteering ·)))

end Styled

end EntityAtlas.Terminal
