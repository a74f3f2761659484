import EntityAtlas.Text.Blank
import EntityAtlas.Validation.Checked

/-!
# Reading scalars leniently

Texts are taken only from texts. Truth values and whole numbers are also taken from one another,
from floating-point numbers without a fraction and from the texts that spell them.
-/

namespace EntityAtlas.Validation

/-- A text. -/
def text : Document → Checked String
  | .text s => .valid s
  | _ => .problem .notText

/-- The words for true. -/
def trueWords : List String := ["1", "on", "t", "true", "y", "yes"]

/-- The words for false. -/
def falseWords : List String := ["0", "off", "f", "false", "n", "no"]

/-- The truth value that a word spells, in any mixture of cases. -/
def boolWord (s : String) : Checked Bool :=
  let w := s.toLower
  if w ∈ trueWords then .valid true
  else if w ∈ falseWords then .valid false
  else .problem .unknownBool

/-- The truth value that a whole number of at most 64 bits stands for. -/
def boolNumber (i : Int) : Checked Bool :=
  if i = 0 then .valid false
  else if i = 1 then .valid true
  else if -(Int.pow 2 63) ≤ i ∧ i < Int.pow 2 63 then .problem .unknownBool
  else .problem .notBool

/-- A whole number that a floating-point number equals. -/
def wholeOf (x : Float) : Option Int :=
  match Binary.ofFloat x with
  | .finite negative significand exponent _ =>
    let (num, den) := Binary.quotient significand exponent
    if num % den = 0 then
      some (if negative then -(num / den : Nat) else (num / den : Nat))
    else none
  | _ => none

/-- A truth value. -/
def bool : Document → Checked Bool
  | .bool b => .valid b
  | .int i => boolNumber i
  | .real x =>
    match wholeOf x with
    | some i => boolNumber i
    | none => .problem .notBool
  | .text s => boolWord s
  | _ => .problem .notBool

/-- Digits with single underscores between them, as a natural number after the digits `acc`. -/
def digitGroups (acc : Nat) : List Char → Option Nat
  | [] => some acc
  | [c] => if c.isDigit then some (acc * 10 + (c.toNat - '0'.toNat)) else none
  | c :: d :: rest =>
    if c.isDigit then
      let acc := acc * 10 + (c.toNat - '0'.toNat)
      if d = '_' then (if rest.isEmpty then none else digitGroups acc rest)
      else digitGroups acc (d :: rest)
    else none

/-- A whole number spelled by digits, a sign and a tail of decimal zeros being allowed. -/
def intSpelled (s : List Char) : Option Int :=
  let whole := s.takeWhile (· ≠ '.')
  let tail := s.dropWhile (· ≠ '.')
  if !(tail.drop 1).all (· = '0') then none
  else
    let (negative, digits) := match whole with
      | '-' :: rest => (true, rest)
      | '+' :: rest => (false, rest)
      | rest => (false, rest)
    if digits.isEmpty then none
    else (digitGroups 0 digits).map fun n => if negative then -(n : Int) else n

/-- The longest text, blanks removed, that is read as a whole number. -/
def longestInt : Nat := 4300

/-- A whole number. -/
def int : Document → Checked Int
  | .int i => .valid i
  | .bool b => .valid (if b then 1 else 0)
  | .real x =>
    match Binary.ofFloat x with
    | .finite _ _ _ _ =>
      match wholeOf x with
      | some i =>
        if -(Int.pow 2 63) < i ∧ i < Int.pow 2 63 then .valid i else .problem .oversized
      | none => .problem .fractional
    | _ => .problem .notFinite
  | .text s =>
    let body := Text.trimmed s.toList
    if longestInt < body.length then .problem .oversized
    else match intSpelled body with
      | some i => .valid i
      | none => .problem .unknownInt
  | _ => .problem .notInt

/-- A whole number not below `least`. -/
def intFrom (least : Int) (d : Document) : Checked Int :=
  match int d with
  | .valid i => if i < least then .problem (.below least) else .valid i
  | .invalid issues => .invalid issues

end EntityAtlas.Validation
