import EntityAtlas.Markup.Scalar

/-!
# The structure of data files

The plain part of the indentation-based notation in which snapshots and instructions are written:
block lists and maps, bracketed lists and maps on one or several lines, quoted and plain scalars,
and comments. Text in the bracketed notation of data interchange is a special case. The structure of
a text is composed first, its plain scalars still being what is written.

The reader is a recursive descent over the characters with the column of the next one. Each
function takes fuel, which bounds the number of nested and successive calls; a text of `n`
characters never needs more than a small multiple of `n`.
-/

namespace EntityAtlas.Markup

/-- The structure of a text, whose plain scalars are still to be converted. -/
inductive Node where
  /-- A plain scalar; nothing at all stands for a value that is left out. -/
  | plain (word : List Char)
  /-- A scalar between quotes. -/
  | quoted (word : List Char)
  /-- A list. -/
  | list (items : List Node)
  /-- Keys with their values in their order. -/
  | record (fields : List (Node × Node))
  deriving Inhabited

/-- A value that is left out. -/
def Node.omitted : Node := .plain []

/-- The characters still to read, with the column of the first of them. -/
structure Cursor where
  /-- The characters still to read. -/
  rest : List Char
  /-- The column of the first of them, from zero. -/
  column : Nat

namespace Cursor

/-- Passes one character. -/
def next (c : Cursor) : Cursor :=
  match c.rest with
  | [] => c
  | '\n' :: rest => ⟨rest, 0⟩
  | _ :: rest => ⟨rest, c.column + 1⟩

/-- Passes a number of characters. -/
def skip (c : Cursor) : Nat → Cursor
  | 0 => c
  | n + 1 => c.next.skip n

/-- Passes the blanks and, at a number sign, the rest of the line. -/
def skipLine (c : Cursor) : Cursor :=
  let c := c.skip (c.rest.takeWhile (· = ' ')).length
  match c.rest with
  | '#' :: _ => c.skip (c.rest.takeWhile (· ≠ '\n')).length
  | _ => c

/-- Passes blanks, comments and line ends up to the next token. -/
def toToken (c : Cursor) : Nat → Cursor
  | 0 => c
  | fuel + 1 =>
    let c := c.skipLine
    match c.rest with
    | '\n' :: _ => c.next.toToken fuel
    | '\r' :: _ => c.next.toToken fuel
    | _ => c

/-- Passes blanks, comments and line ends. -/
def token (c : Cursor) : Cursor := c.toToken (c.rest.length + 1)

/-- Whether nothing is left. -/
def atEnd (c : Cursor) : Bool := c.rest.isEmpty

/-- Whether only a comment or nothing is left on the line. -/
def endsLine (c : Cursor) : Bool :=
  match c.skipLine.rest with
  | [] => true
  | d :: _ => d = '\n' || d = '\r'

end Cursor

/-- Whether a character separates tokens, as the end of the text also does. -/
def isSeparator : Option Char → Bool
  | none => true
  | some c => c = ' ' || c = '\t' || c = '\n' || c = '\r'

/-- Whether the next token is the dash of a block list. -/
def isDash (c : Cursor) : Bool :=
  match c.rest with
  | '-' :: rest => isSeparator rest.head?
  | _ => false

/-- Whether a line of three equal marks starts here. -/
def isMarker (mark : Char) (c : Cursor) : Bool :=
  c.column = 0 && c.rest.take 3 = [mark, mark, mark] && isSeparator (c.rest.drop 3).head?

/-- Whether one document ends here and another may start. -/
def isBoundary (c : Cursor) : Bool := isMarker '-' c || isMarker '.' c

/-- Whether the next characters are a colon that ends a key. -/
def isColon (flow : Bool) (s : List Char) : Bool :=
  match s with
  | ':' :: rest =>
    isSeparator rest.head? || (flow && rest.head?.any fun c => c ∈ [',', '[', ']', '\x7b', '\x7d'])
  | _ => false

/-- Whether a plain scalar may start with these characters. -/
def startsPlain (flow : Bool) : List Char → Bool
  | [] => false
  | c :: rest =>
    if c = '-' then !isSeparator rest.head?
    else if c = '?' ∨ c = ':' then !flow && !isSeparator rest.head?
    else !isSeparator (some c) &&
      !(c ∈ [',', '[', ']', '\x7b', '\x7d', '#', '&', '*', '!', '|', '>', Char.ofNat 39, '"', '%',
        '@', Char.ofNat 96])

/-- The number of characters of a plain scalar up to the end of its line, trailing blanks
included. -/
def plainLength (flow : Bool) : List Char → Nat
  | [] => 0
  | c :: rest =>
    if c = '\n' ∨ c = '\r' ∨ c = '\t' then 0
    else if isColon flow (c :: rest) then 0
    else if flow ∧ c ∈ [',', '[', ']', '\x7b', '\x7d', '?'] then 0
    else if c = ' ' ∧ rest.head? = some '#' then 0
    else 1 + plainLength flow rest

/-- Removes blanks at the end. -/
def withoutTrailingBlanks (s : List Char) : List Char := (s.reverse.dropWhile (· = ' ')).reverse

/-- Reads the part of a plain scalar that is on this line. -/
def plainLine (flow : Bool) (c : Cursor) : List Char × Cursor :=
  let s := withoutTrailingBlanks (c.rest.take (plainLength flow c.rest))
  (s, c.skip s.length)

/-- The number of line ends in the blanks before the next token, which a comment cuts short. -/
def lineEnds : List Char → Nat
  | '\n' :: rest => 1 + lineEnds rest
  | ' ' :: rest => lineEnds rest
  | '\r' :: rest => lineEnds rest
  | _ => 0

/-- How a break of `n` lines inside a scalar is read: one is a blank, more are all kept but one. -/
def folded (n : Nat) : List Char := if n ≤ 1 then [' '] else List.replicate (n - 1) '\n'

/-- Reads on over the lines of a plain scalar that is continued in columns from `least` on. -/
def plainLines (flow : Bool) (least : Nat) : Nat → List Char → Cursor → List Char × Cursor
  | 0, s, c => (s, c)
  | fuel + 1, s, c =>
    if !c.endsLine || c.skipLine.rest ≠ c.rest.dropWhile (· = ' ') then (s, c)
    else
      let ends := lineEnds c.rest
      let after := c.skip (c.rest.takeWhile (fun d => d = ' ' || d = '\n' || d = '\r')).length
      let (line, rest) := plainLine flow after
      if ends = 0 ∨ after.column < least ∨ isBoundary after ∨ after.rest.head? = some '#' ∨
          line.isEmpty then (s, c)
      else plainLines flow least fuel (s ++ folded ends ++ line) rest

/-- Reads a plain scalar of one or more lines. -/
def plain (flow : Bool) (least : Nat) (c : Cursor) : List Char × Cursor :=
  let (s, c) := plainLine flow c
  plainLines flow least c.rest.length s c

/-- The characters that stand for others after a backslash. -/
def escapes : List (Char × Nat) :=
  [('0', 0), ('a', 7), ('b', 8), ('t', 9), ('\t', 9), ('n', 10), ('v', 11), ('f', 12), ('r', 13),
   ('e', 27), (' ', 32), ('"', 34), ('\\', 92), ('/', 47), ('N', 0x85), ('_', 0xa0),
   ('L', 0x2028), ('P', 0x2029)]

/-- The number of hexadecimal digits after a backslash and a letter. -/
def codeWidth : Char → Option Nat
  | 'x' => some 2
  | 'u' => some 4
  | 'U' => some 8
  | _ => none

/-- The character of a code after a backslash. A half of a pair of codes is none. -/
def coded (code : Nat) : Except MarkupFault Char :=
  if 0x110000 ≤ code then .error (.scalar "chr() arg not in range(0x110000)")
  else if code.isValidChar then .ok (Char.ofNat code)
  else .error .malformed

/-- What follows the blanks and line ends inside a quoted scalar: a folded break or the blanks. -/
def breakInside (c : Cursor) : List Char × Cursor :=
  let blanks := c.rest.takeWhile fun d => d = ' ' || d = '\t'
  let after := c.skip blanks.length
  match after.rest with
  | '\n' :: _ | '\r' :: _ =>
    let gap := after.rest.takeWhile fun d => d = ' ' || d = '\t' || d = '\n' || d = '\r'
    (folded (gap.filter (· = '\n')).length, after.skip gap.length)
  | _ => (blanks, after)

/-- Reads the rest of a scalar between double quotes, after the characters `s` in reverse. -/
def doubleQuoted : Nat → List Char → Cursor → Except MarkupFault (List Char × Cursor)
  | 0, _, _ => .error .malformed
  | fuel + 1, s, c =>
    match c.rest with
    | [] => .error .malformed
    | '"' :: _ => .ok (s.reverse, c.next)
    | '\\' :: '\n' :: _ =>
      let after := c.skip 2
      doubleQuoted fuel s (after.skip (after.rest.takeWhile (· = ' ')).length)
    | '\\' :: e :: rest =>
      match codeWidth e with
      | some width =>
        let digits := rest.take width
        if digits.length = width ∧ digits.all (fun d => (digit? 16 d).isSome) then
          match coded (digitsValue 16 digits) with
          | .ok d => doubleQuoted fuel (d :: s) (c.skip (2 + width))
          | .error fault => .error fault
        else .error .malformed
      | none =>
        match escapes.lookup e with
        | some n => doubleQuoted fuel (Char.ofNat n :: s) (c.skip 2)
        | none => .error .malformed
    | d :: _ =>
      if d = ' ' ∨ d = '\t' ∨ d = '\n' ∨ d = '\r' then
        let (gap, after) := breakInside c
        doubleQuoted fuel (gap.reverse ++ s) after
      else doubleQuoted fuel (d :: s) c.next

/-- Reads the rest of a scalar between apostrophes, in which a doubled apostrophe stands for one. -/
def singleQuoted : Nat → List Char → Cursor → Except MarkupFault (List Char × Cursor)
  | 0, _, _ => .error .malformed
  | fuel + 1, s, c =>
    match c.rest with
    | [] => .error .malformed
    | d :: rest =>
      if d = Char.ofNat 39 then
        if rest.head? = some d then singleQuoted fuel (d :: s) (c.skip 2)
        else .ok (s.reverse, c.next)
      else if d = ' ' ∨ d = '\t' ∨ d = '\n' ∨ d = '\r' then
        let (gap, after) := breakInside c
        singleQuoted fuel (gap.reverse ++ s) after
      else singleQuoted fuel (d :: s) c.next

/-- Reads a quoted scalar if one starts here. -/
def quoted? (c : Cursor) : Option (Except MarkupFault (List Char × Cursor)) :=
  match c.rest with
  | '"' :: _ => some (doubleQuoted (c.rest.length + 1) [] c.next)
  | d :: _ =>
    if d = Char.ofNat 39 then some (singleQuoted (c.rest.length + 1) [] c.next) else none
  | [] => none

/-- A key that ends on its line, with the place after its colon. -/
def key? (c : Cursor) : Except MarkupFault (Option (Node × Cursor)) :=
  let finish (key : Node) (after : Cursor) : Option (Node × Cursor) :=
    let colon := after.skip (after.rest.takeWhile (· = ' ')).length
    if isColon false colon.rest then some (key, colon.next) else none
  match quoted? c with
  | some r => r.map fun (s, after) => finish (.quoted s) after
  | none =>
    if startsPlain false c.rest then
      let (s, after) := plainLine false c
      .ok (finish (.plain s) after)
    else .ok none

/-- Whether an entry of a bracketed list or map ends here. -/
def endsEntry (c : Cursor) : Bool :=
  c.rest.head?.any fun d => d = ',' || d = ']' || d = '\x7d'

mutual

/-- Reads a value inside brackets. -/
def flow : Nat → Cursor → Except MarkupFault (Node × Cursor)
  | 0, _ => .error .malformed
  | fuel + 1, c =>
    match c.rest with
    | '[' :: _ => flowItems fuel [] c.next.token
    | '\x7b' :: _ => flowEntries fuel [] c.next.token
    | _ =>
      match quoted? c with
      | some r => r.map fun (s, after) => (.quoted s, after)
      | none =>
        if startsPlain true c.rest then
          let (s, after) := plain true 0 c
          .ok (.plain s, after)
        else .error .malformed

/-- Reads the value after a colon inside brackets, which may be left out. -/
def flowValue : Nat → Cursor → Except MarkupFault (Node × Cursor)
  | 0, _ => .error .malformed
  | fuel + 1, c => if endsEntry c then .ok (.omitted, c) else flow fuel c

/-- Reads the items of a bracketed list up to its end; an item may be a map of one entry. -/
def flowItems : Nat → List Node → Cursor → Except MarkupFault (Node × Cursor)
  | 0, _, _ => .error .malformed
  | fuel + 1, items, c =>
    match c.rest with
    | ']' :: _ => .ok (.list items.reverse, c.next)
    | _ => do
      let (item, c) ← flow fuel c
      let c := c.token
      let (item, c) ← match c.rest with
        | ':' :: _ => do
          let (value, c) ← flowValue fuel c.next.token
          pure (Node.record [(item, value)], c.token)
        | _ => pure (item, c)
      match c.rest with
      | ',' :: _ => flowItems fuel (item :: items) c.next.token
      | ']' :: _ => .ok (.list (item :: items).reverse, c.next)
      | _ => .error .malformed

/-- Reads the entries of a bracketed map up to its end. -/
def flowEntries : Nat → List (Node × Node) → Cursor → Except MarkupFault (Node × Cursor)
  | 0, _, _ => .error .malformed
  | fuel + 1, entries, c =>
    match c.rest with
    | '\x7d' :: _ => .ok (.record entries.reverse, c.next)
    | _ => do
      let (key, c) ← flow fuel c
      let c := c.token
      let (value, c) ← match c.rest with
        | ':' :: _ => do
          let (value, c) ← flowValue fuel c.next.token
          pure (value, c.token)
        | _ => pure (Node.omitted, c)
      let entries := (key, value) :: entries
      match c.rest with
      | ',' :: _ => flowEntries fuel entries c.next.token
      | '\x7d' :: _ => .ok (.record entries.reverse, c.next)
      | _ => .error .malformed

end

/-- Reads a value that starts on the line of its key and is neither a block list nor a block map.
Nothing else may stand on its last line. -/
def inline (least : Nat) (c : Cursor) : Except MarkupFault (Node × Cursor) := do
  let (d, c) ← match c.rest with
    | '[' :: _ | '\x7b' :: _ => flow (4 * c.rest.length + 4) c
    | _ =>
      match quoted? c with
      | some r => r.map fun (s, after) => (Node.quoted s, after)
      | none =>
        if startsPlain false c.rest then
          let (s, after) := plain false least c
          pure (Node.plain s, after)
        else .error .malformed
  if c.endsLine then .ok (d, c) else .error .malformed

mutual

/-- Reads the value that starts at the next token, if it stands in column `least` or beyond; there
is none otherwise. -/
def block : Nat → Nat → Cursor → Except MarkupFault (Node × Cursor)
  | 0, _, _ => .error .malformed
  | fuel + 1, least, c =>
    let c := c.token
    if c.atEnd ∨ c.column < least ∨ isBoundary c then .ok (.omitted, c)
    else if isDash c then blockItems fuel false c.column [] c
    else do
      match ← key? c with
      | some _ => blockEntries fuel c.column [] c
      | none => inline least c

/-- Reads the items of a block list whose dashes stand in column `column`. `shared` tells that the
keys of an enclosing map stand in the same column. -/
def blockItems : Nat → Bool → Nat → List Node → Cursor → Except MarkupFault (Node × Cursor)
  | 0, _, _, _, _ => .error .malformed
  | fuel + 1, shared, column, items, c => do
    let (item, c) ← block fuel (column + 1) c.next
    let items := item :: items
    let c := c.token
    if c.atEnd ∨ c.column < column ∨ isBoundary c then .ok (.list items.reverse, c)
    else if c.column = column then
      if isDash c then blockItems fuel shared column items c
      else if shared then .ok (.list items.reverse, c)
      else .error .malformed
    else .error .malformed

/-- Reads the entries of a block map whose keys stand in column `column`. -/
def blockEntries : Nat → Nat → List (Node × Node) → Cursor → Except MarkupFault (Node × Cursor)
  | 0, _, _, _ => .error .malformed
  | fuel + 1, column, entries, c => do
    match ← key? c with
    | none => .error .malformed
    | some (key, after) =>
      let (value, c) ←
        if after.endsLine then
          let below := after.token
          if below.column = column ∧ isDash below ∧ !below.atEnd then
            blockItems fuel true column [] below
          else block fuel (column + 1) below
        else inline (column + 1) after.skipLine
      let entries := (key, value) :: entries
      let c := c.token
      if c.atEnd ∨ c.column < column ∨ isBoundary c then .ok (.record entries.reverse, c)
      else if c.column = column then blockEntries fuel column entries c
      else .error .malformed

end

/-- Passes the marker that may open a document. -/
def opening (c : Cursor) : Cursor := if isMarker '-' c then c.skip 3 else c

/-- Whether nothing but the closing marker is left. -/
def closes (c : Cursor) : Bool :=
  let c := c.token
  c.atEnd || (isMarker '.' c && (c.skip 3).token.atEnd)

/-- Whether a character may stand in a text at all: control characters other than the tab and the
line ends may not. -/
def isAdmitted (c : Char) : Bool :=
  let n := c.toNat
  n = 0x09 || n = 0x0a || n = 0x0d || (0x20 ≤ n && n ≤ 0x7e) || n = 0x85 ||
    (0xa0 ≤ n && n ≠ 0xfffe && n ≠ 0xffff)

/-- The mark that may begin a text to tell its encoding. -/
def encodingMark : Char := Char.ofNat 0xfeff

/-- A text without the mark of its encoding. -/
def withoutMark : List Char → List Char
  | c :: rest => if c = encodingMark then rest else c :: rest
  | [] => []

/-- The structure of the one document in a text; an empty text leaves it out. -/
def compose (s : String) : Except MarkupFault Node := do
  if !s.toList.all isAdmitted then .error .malformed
  let start : Cursor := ⟨withoutMark s.toList, 0⟩
  let (d, c) ← block (4 * start.rest.length + 8) 0 (opening start.token)
  if closes c then .ok d else .error .malformed

end EntityAtlas.Markup
