import EntityAtlas.Calendar
import EntityAtlas.Document.Basic

/-!
# Plain scalars

An unquoted scalar of a data file is a null, a truth value, a whole number, a floating-point
number, a date or a moment when it has the look of one, and a text otherwise. A look can deceive: a
scalar shaped like a date may denote none, and a number may lack its digits or have too many of
them; then the scalar cannot be converted.
-/

namespace EntityAtlas

/-- Why a data file cannot be read. -/
inductive MarkupFault where
  /-- The text does not follow the rules of the notation. -/
  | malformed
  /-- A scalar cannot be converted, as it does not denote the value that it has the look of; the
  reason is given. -/
  | scalar (reason : String)
  deriving DecidableEq, Repr

namespace Markup

/-- The words for null. -/
def nullWords : List String := ["", "~", "null", "Null", "NULL"]

/-- The words for true. -/
def trueWords : List String := ["yes", "Yes", "YES", "true", "True", "TRUE", "on", "On", "ON"]

/-- The words for false. -/
def falseWords : List String := ["no", "No", "NO", "false", "False", "FALSE", "off", "Off", "OFF"]

/-- The words for a positive infinity. -/
def infinityWords : List String := [".inf", ".Inf", ".INF"]

/-- The words for a value that is no number. -/
def nanWords : List String := [".nan", ".NaN", ".NAN"]

/-- The value of a digit in a base up to sixteen. -/
def digit? (base : Nat) (c : Char) : Option Nat :=
  let n := c.toNat
  let value :=
    if c.isDigit then some (n - '0'.toNat)
    else if 'a' ≤ c ∧ c ≤ 'f' then some (n - 'a'.toNat + 10)
    else if 'A' ≤ c ∧ c ≤ 'F' then some (n - 'A'.toNat + 10)
    else none
  value.filter (· < base)

/-- Whether a character may stand among digits: a digit of the base or an underscore. -/
def isDigitOrGap (base : Nat) (c : Char) : Bool := c = '_' || (digit? base c).isSome

/-- The number that digits denote, underscores aside. -/
def digitsValue (base : Nat) (s : List Char) : Nat :=
  s.foldl (fun n c => match digit? base c with
    | some d => n * base + d
    | none => n) 0

/-- Removes a sign, telling whether it was a minus. -/
def unsigned : List Char → Bool × List Char
  | '-' :: rest => (true, rest)
  | '+' :: rest => (false, rest)
  | rest => (false, rest)

/-- The parts of a text between colons. -/
def colonParts (s : List Char) : List (List Char) :=
  match s with
  | [] => [[]]
  | c :: rest =>
    match colonParts rest with
    | [] => [[c]]
    | part :: parts => if c = ':' then [] :: part :: parts else (c :: part) :: parts

/-- Whether a part of a number in base sixty is one of 0 to 59. -/
def isSixtieth : List Char → Bool
  | [a] => a.isDigit
  | [a, b] => '0' ≤ a && a ≤ '5' && b.isDigit
  | _ => false

/-- The number that parts in base sixty denote. -/
def sixtieths (parts : List (List Char)) : Nat :=
  parts.foldl (fun n part => n * 60 + digitsValue 10 part) 0

/-- The most digits that a whole number in base ten may have. -/
def mostDigits : Nat := 4300

/-- Why a whole number of so many digits is refused. -/
def tooManyDigits (given : Nat) : String :=
  "Exceeds the limit (" ++ toString mostDigits ++ " digits) for integer string conversion: " ++
    "value has " ++ toString given ++ " digits; " ++
    "use sys.set_int_max_str_digits() to increase the limit"

/-- Why a mark of a base without a digit after it is refused. -/
def noDigits (base : Nat) : String :=
  "invalid literal for int() with base " ++ toString base ++ ": ''"

/-- The number of digits in a text of digits and underscores. -/
def digitCount (s : List Char) : Nat := s.countP (· ≠ '_')

/-- The value of the digits after the mark of a base. -/
def marked? (base : Nat) (digits : List Char) : Option (Except MarkupFault Nat) :=
  if digits.isEmpty || !digits.all (isDigitOrGap base) then none
  else if digitCount digits = 0 then some (.error (.scalar (noDigits base)))
  else some (.ok (digitsValue base digits))

/-- The value of parts in base sixty, the first of which may be any number. -/
def parts? : List (List Char) → Option (Except MarkupFault Nat)
  | [] => none
  | first :: rest =>
    if !(first.all (isDigitOrGap 10) && rest.all isSixtieth) then none
    else if mostDigits < digitCount first then
      some (.error (.scalar (tooManyDigits (digitCount first))))
    else some (.ok (sixtieths (first :: rest)))

/-- The value of an unsigned whole number, if the scalar has the look of one. The outer option is
the look, the inner result the value. -/
def natural? : List Char → Option (Except MarkupFault Nat)
  | ['0'] => some (.ok 0)
  | '0' :: 'b' :: digits => marked? 2 digits
  | '0' :: 'x' :: digits => marked? 16 digits
  | '0' :: digits => if digits.all (isDigitOrGap 8) then some (.ok (digitsValue 8 digits)) else none
  | c :: rest => if c.isDigit then parts? (colonParts (c :: rest)) else none
  | [] => none

/-- The value of a whole number, if the scalar has the look of one. -/
def int? (s : List Char) : Option (Except MarkupFault Int) :=
  let (negative, digits) := unsigned s
  (natural? digits).map fun r => r.map fun n => if negative then -(n : Int) else n

/-- The power of ten after the mark of an exponent, whose sign is required. -/
def exponent? : List Char → Option Int
  | [] => some 0
  | e :: sign :: digits =>
    if (e = 'e' || e = 'E') && (sign = '+' || sign = '-') && !digits.isEmpty &&
        digits.all Char.isDigit then
      let n : Int := digitsValue 10 digits
      some (if sign = '-' then -n else n)
    else none
  | _ => none

/-- The decimal `digits · 10 ^ exponent` as a double. -/
def decimal (digits : Nat) (exponent : Int) : Float :=
  Float.ofScientific digits (exponent < 0) exponent.natAbs

/-- The value of a floating-point number, if the scalar has the look of one: it needs a decimal
point. -/
def float? (s : List Char) : Option Float :=
  let word := String.ofList s
  if word ∈ nanWords then some (0.0 / 0.0)
  else
    let (negative, body) := unsigned s
    let signed (x : Float) : Float := if negative then -x else x
    if String.ofList body ∈ infinityWords then some (signed (1.0 / 0.0))
    else
      let whole := body.takeWhile (isDigitOrGap 10)
      match body.drop whole.length with
      | '.' :: rest =>
        let fraction := rest.takeWhile (isDigitOrGap 10)
        let shaped := match whole with
          | [] => fraction.head?.any Char.isDigit && s.length = body.length
          | c :: _ => c.isDigit
        let places := (fraction.filter (· ≠ '_')).length
        if shaped then
          (exponent? (rest.drop fraction.length)).map fun e =>
            signed (decimal (digitsValue 10 (whole ++ fraction)) (e - places))
        else none
      | _ => none

/-- The most parts in base sixty that the weight of the first one allows as a double. -/
def mostParts : Nat := 174

/-- The value of parts in base sixty, summed up from the last one on. -/
def sixtiethsReal (parts : List Float) : Float :=
  (parts.reverse.foldl (fun (sum, base) part => (sum + part * Float.ofNat base, base * 60))
    ((0.0 : Float), 1)).1

/-- The value of the last part in base sixty, which has a decimal point after its whole number. -/
def lastPart? (part : List Char) : Option Float :=
  let whole := part.takeWhile (· ≠ '.')
  match part.dropWhile (· ≠ '.') with
  | '.' :: fraction =>
    if isSixtieth whole && fraction.all (isDigitOrGap 10) then
      let places := (fraction.filter (· ≠ '_')).length
      some (decimal (digitsValue 10 (whole ++ fraction)) (-places))
    else none
  | _ => none

/-- The value of a floating-point number in base sixty, if the scalar has the look of one: parts
between colons, of which the last has a decimal point. -/
def partsReal? (s : List Char) : Option (Except MarkupFault Float) :=
  let (negative, body) := unsigned s
  match colonParts body with
  | (c :: first) :: rest =>
    let inner := rest.dropLast
    if c.isDigit && first.all (isDigitOrGap 10) && inner.all isSixtieth then do
      let last ← lastPart? (← rest.getLast?)
      let parts := ((c :: first) :: inner).map fun part => decimal (digitsValue 10 part) 0
      let value := sixtiethsReal (parts ++ [last])
      some (if mostParts < rest.length + 1 then .error (.scalar "int too large to convert to float")
        else .ok (if negative then -value else value))
    else none
  | _ => none

/-- The date that a scalar of the form year-month-day denotes. -/
def date? : List Char → Option (Except MarkupFault Date)
  | [a, b, c, d, '-', e, f, '-', g, h] =>
    if [a, b, c, d, e, f, g, h].all Char.isDigit then
      some (match Date.check (digitsValue 10 [a, b, c, d]) (digitsValue 10 [e, f])
          (digitsValue 10 [g, h]) with
        | .ok date => .ok date
        | .error fault => .error (.scalar fault.message))
    else none
  | _ => none

/-- The digits at the beginning of a text, at least `least` and at most `most` of them, with what
follows. -/
def leadingDigits? (least most : Nat) (s : List Char) : Option (List Char × List Char) :=
  let digits := (s.take most).takeWhile Char.isDigit
  if least ≤ digits.length then some (digits, s.drop digits.length) else none

/-- What follows a mark at the beginning of a text. -/
def after? (mark : Char) : List Char → Option (List Char)
  | c :: rest => if c = mark then some rest else none
  | [] => none

/-- What follows the letter or the blanks between a date and a time of day. -/
def afterGap? : List Char → Option (List Char)
  | c :: rest =>
    if c = 'T' ∨ c = 't' then some rest
    else if c = ' ' then some (rest.dropWhile (· = ' '))
    else none
  | [] => none

/-- The decimals of the seconds, if there are any, with what follows. -/
def decimals : List Char → List Char × List Char
  | c :: rest =>
    if c = '.' then (rest.takeWhile Char.isDigit, rest.dropWhile Char.isDigit) else ([], c :: rest)
  | [] => ([], [])

/-- The microseconds that decimals of a second denote; further decimals are dropped. -/
def microseconds (digits : List Char) : Nat :=
  digitsValue 10 ((digits ++ List.replicate 6 '0').take 6)

/-- The distance from universal time of hours and minutes after a sign. -/
def signedMinutes (sign : Char) (hours minutes : List Char) : Int :=
  let n : Int := digitsValue 10 hours * 60 + digitsValue 10 minutes
  if sign = '-' then -n else n

/-- The hours and minutes that are all of a text; the minutes may be left out. -/
def clockAhead? (s : List Char) : Option (List Char × List Char) := do
  let (hours, rest) ← leadingDigits? 1 2 s
  if rest.isEmpty then return (hours, [])
  let (minutes, rest) ← leadingDigits? 2 2 (← after? ':' rest)
  if rest.isEmpty then return (hours, minutes) else none

/-- The distance from universal time that the end of a moment tells. The outer option is the look,
the inner one tells whether there is any. -/
def zone? (s : List Char) : Option (Option Int) :=
  if s.isEmpty then some none
  else match s.dropWhile (· = ' ') with
    | [] => none
    | c :: rest =>
      if c = 'Z' then (if rest.isEmpty then some (some 0) else none)
      else if c = '+' ∨ c = '-' then
        (clockAhead? rest).map fun (hours, minutes) => some (signedMinutes c hours minutes)
      else none

/-- The moment that a scalar with the look of a date and a time of day denotes. -/
def moment? (s : List Char) : Option (Except MarkupFault Moment) := do
  let (year, s) ← leadingDigits? 4 4 s
  let (month, s) ← leadingDigits? 1 2 (← after? '-' s)
  let (day, s) ← leadingDigits? 1 2 (← after? '-' s)
  let (hour, s) ← leadingDigits? 1 2 (← afterGap? s)
  let (minute, s) ← leadingDigits? 2 2 (← after? ':' s)
  let (second, s) ← leadingDigits? 2 2 (← after? ':' s)
  let (fraction, s) := decimals s
  let ahead ← zone? s
  let value := digitsValue 10
  return match Moment.check (value year) (value month) (value day) (value hour) (value minute)
      (value second) (microseconds fraction) ahead with
    | .ok moment => .ok moment
    | .error fault => .error (.scalar fault.message)

/-- The marks of a merged map and of a default value, for which data files have no use. -/
def reservedWords : List String := ["<<", "="]

/-- The value of a plain scalar. -/
def scalar (s : List Char) : Except MarkupFault Document :=
  let word := String.ofList s
  if word ∈ reservedWords then .error .malformed
  else if word ∈ nullWords then .ok .null
  else if word ∈ trueWords then .ok (.bool true)
  else if word ∈ falseWords then .ok (.bool false)
  else match float? s with
    | some x => .ok (.real x)
    | none => match partsReal? s with
      | some r => r.map .real
      | none => match int? s with
        | some r => r.map .int
        | none => match date? s with
          | some r => r.map .date
          | none => match moment? s with
            | some r => r.map .moment
            | none => .ok (.text word)

end Markup

end EntityAtlas
