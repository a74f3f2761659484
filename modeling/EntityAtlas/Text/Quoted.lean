import EntityAtlas.Text.Unprintable

/-!
# Quoted texts

How a text is shown inside a message: between apostrophes, or between double quotes when that saves
escaping. A backslash and the enclosing mark are escaped, line feed, tab and carriage return have
letters of their own, and every other unprintable character is given by its code point in
hexadecimal.
-/

namespace EntityAtlas.Text

/-- The apostrophe. -/
def apostrophe : Char := Char.ofNat 39

/-- The double quotation mark. -/
def doubleQuote : Char := Char.ofNat 34

/-- The mark that encloses a text: double only if the text holds an apostrophe and no double one. -/
def mark (s : List Char) : Char :=
  if s.contains apostrophe && !s.contains doubleQuote then doubleQuote else apostrophe

/-- A number in lower-case hexadecimal, filled up with zeros to a width. -/
def hexadecimal (width n : Nat) : List Char :=
  let digits := Nat.toDigits 16 n
  List.replicate (width - digits.length) '0' ++ digits

/-- A character given by its code point, in the shortest of the three forms that has room for it. -/
def codePoint (c : Char) : List Char :=
  let n := c.toNat
  if n < 0x100 then '\\' :: 'x' :: hexadecimal 2 n
  else if n < 0x10000 then '\\' :: 'u' :: hexadecimal 4 n
  else '\\' :: 'U' :: hexadecimal 8 n

/-- A character as it stands inside a text enclosed by `mark`. -/
def escaped (mark c : Char) : List Char :=
  if c = '\\' ∨ c = mark then ['\\', c]
  else if c = '\n' then ['\\', 'n']
  else if c = '\t' then ['\\', 't']
  else if c = '\r' then ['\\', 'r']
  else if isPrintable c then [c]
  else codePoint c

/-- A text between quotation marks. -/
def quoted (s : String) : String :=
  let m := mark s.toList
  String.ofList (m :: s.toList.flatMap (escaped m) ++ [m])

end EntityAtlas.Text
