import EntityAtlas.Document.Literal
import EntityAtlas.Validation.Scalar

/-!
# Time limits

The time allowed to a query is configured in milliseconds. It may come from anywhere, so it is a
document until it is needed: a server is told whole milliseconds, a local deadline is computed in
seconds. The two conversions accept different types.
-/

namespace EntityAtlas

/-- Why a time limit cannot be used. -/
inductive TimeoutFault where
  /-- A text that spells no whole number. -/
  | notSpelled (given : String)
  /-- A type that has no whole numbers. -/
  | notWhole (type : String)
  /-- A type that cannot be divided. -/
  | notDivisible (type : String)
  /-- A value that is no number. -/
  | notANumber
  /-- An infinity. -/
  | infinite
  deriving DecidableEq, Repr

namespace TimeoutFault

/-- The category of a fault. -/
def category : TimeoutFault → String
  | .notSpelled _ => "ValueError"
  | .notANumber => "ValueError"
  | .infinite => "OverflowError"
  | .notWhole _ => "TypeError"
  | .notDivisible _ => "TypeError"

/-- The wording of a fault. -/
def message : TimeoutFault → String
  | .notSpelled given => "invalid literal for int() with base 10: " ++ Text.quoted given
  | .notWhole type =>
    "int() argument must be a string, a bytes-like object or a real number, not " ++
      Text.quoted type
  | .notDivisible type =>
    "unsupported operand type(s) for /: " ++ Text.quoted type ++ " and 'int'"
  | .notANumber => "cannot convert float NaN to integer"
  | .infinite => "cannot convert float infinity to integer"

end TimeoutFault

namespace Timeout

/-- The whole number that a text spells with ASCII digits and a sign. -/
def spelled? (s : String) : Option Int :=
  let body := Text.trimmed s.toList
  if body.contains '.' then none else Validation.intSpelled body

/-- A floating-point number without its fraction. -/
def truncated (x : Float) : Except TimeoutFault Int :=
  match Binary.ofFloat x with
  | .nan => .error .notANumber
  | .infinite _ => .error .infinite
  | .finite negative significand exponent _ =>
    let (num, den) := Binary.quotient significand exponent
    .ok (if negative then -(num / den : Nat) else (num / den : Nat))

/-- The limit in whole milliseconds. -/
def milliseconds : Document → Except TimeoutFault Int
  | .int i => .ok i
  | .bool b => .ok (if b then 1 else 0)
  | .real x => truncated x
  | .text s =>
    match spelled? s with
    | some i => .ok i
    | none => .error (.notSpelled s)
  | d => .error (.notWhole d.typeName)

/-- The limit in seconds. -/
def seconds : Document → Except TimeoutFault Float
  | .int i => .ok (Float.ofInt i / 1000)
  | .bool b => .ok ((if b then 1 else 0) / 1000)
  | .real x => .ok (x / 1000)
  | d => .error (.notDivisible d.typeName)

end Timeout

end EntityAtlas
