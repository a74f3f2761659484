import EntityAtlas.Decimal.Binary

/-!
# Shortest decimals

The decimal that stands for a double is the one with the fewest digits among those that read back
as the same double and, of these, the nearest to it. It lies on the coarsest grid `10 ^ k` that has
a point inside the interval of reals rounding to the double, so the search walks the grids downwards
and tests the two grid points next to the value, in exact arithmetic.

`FloatFormat` holds what is left to the taste of an output: where positional notation ends and how
the exponent is spelled.
-/

namespace EntityAtlas

/-- The interval of reals that round to a positive double: `low`, `mid` (the double itself) and
`high`, all over the denominator `den`. -/
structure Window where
  /-- The lower end. -/
  low : Nat
  /-- The double. -/
  mid : Nat
  /-- The upper end. -/
  high : Nat
  /-- The common denominator. -/
  den : Nat
  /-- Whether the two ends belong to the interval. -/
  closed : Bool

namespace Window

/-- The interval around `significand · 2 ^ exponent`. A tie rounds to the even significand, so the
ends count exactly when the significand is even. -/
def around (significand : Nat) (exponent : Int) (edge : Bool) : Window :=
  let (unit, den) := Binary.quotient 1 exponent
  { low := (4 * significand - (if edge then 1 else 2)) * unit
    mid := 4 * significand * unit
    high := (4 * significand + 2) * unit
    den := 4 * den
    closed := significand % 2 = 0 }

/-- Whether the quotient `num / den` lies in the interval. -/
def holds (w : Window) (num den : Nat) : Bool :=
  let (low, x, high) := (w.low * den, num * w.den, w.high * den)
  if w.closed then low ≤ x && x ≤ high else low < x && x < high

/-- The point of the grid `10 ^ k` nearest to the double among its two neighbours, if it lies in
the interval. The even neighbour wins a tie. -/
def point? (w : Window) (k : Int) : Option Nat :=
  let (step, inv) := (Nat.pow 10 k.toNat, Nat.pow 10 (-k).toNat)
  let below := w.mid * inv / (w.den * step)
  let above := below + 1
  let inside (c : Nat) : Bool := w.holds (c * step) inv
  match inside below, inside above with
  | true, true =>
    let down := w.mid * inv - below * step * w.den
    let up := above * step * w.den - w.mid * inv
    some (if down < up ∨ down = up ∧ below % 2 = 0 then below else above)
  | true, false => some below
  | false, true => some above
  | false, false => none

/-- The first grid point met while walking the grids down from `10 ^ k`, with its grid. -/
def search (w : Window) : Nat → Int → Nat × Int
  | 0, k => (0, k)
  | fuel + 1, k =>
    match w.point? k with
    | some c => (c, k)
    | none => w.search fuel (k - 1)

end Window

/-- A positive decimal `0.d₁d₂… · 10 ^ point`, without zeros at its end. -/
structure Digits where
  /-- The digits from the most significant on. -/
  digits : List Char
  /-- The position of the decimal point relative to the first digit. -/
  point : Int

namespace Digits

/-- The shortest digits of the positive double `significand · 2 ^ exponent`. -/
def shortest (significand : Nat) (exponent : Int) (edge : Bool) : Digits :=
  let w := Window.around significand exponent edge
  let top : Int := (toString (w.high / w.den)).length
  let (c, k) := w.search (top + 326).toNat top
  let all := (toString c).toList
  { digits := (all.reverse.dropWhile (· = '0')).reverse
    point := all.length + k }

end Digits

/-- The taste of an output for floating-point numbers. -/
structure FloatFormat where
  /-- The least decimal point position written without an exponent. -/
  leastPoint : Int
  /-- The greatest decimal point position written without an exponent. -/
  greatestPoint : Int
  /-- The fewest digits of an exponent. -/
  exponentDigits : Nat
  /-- The text of a positive infinity; a negative one has a minus sign before it. -/
  infinity : String
  /-- The text of a value that is not a number. -/
  nan : String

namespace FloatFormat

/-- Numbers from 10⁻⁴ up to 10¹⁶ are written out, always with a decimal place; others have an
exponent with its sign and at least two digits. -/
def plain : FloatFormat :=
  { leastPoint := -3, greatestPoint := 16, exponentDigits := 2, infinity := "inf", nan := "nan" }

/-- The same numbers with the names that data interchange uses for the rest. -/
def interchange : FloatFormat := { plain with infinity := "Infinity", nan := "NaN" }

/-- Digits with the point among them or zeros around them. -/
def positional (d : Digits) : String :=
  let n := d.digits.length
  if d.point ≤ 0 then
    String.ofList ('0' :: '.' :: List.replicate (-d.point).toNat '0' ++ d.digits)
  else
    let p := d.point.toNat
    if n ≤ p then String.ofList (d.digits ++ List.replicate (p - n) '0' ++ ['.', '0'])
    else String.ofList (d.digits.take p ++ '.' :: d.digits.drop p)

/-- Digits with an exponent. -/
def scientific (f : FloatFormat) (d : Digits) : String :=
  let e := d.point - 1
  let magnitude := (toString e.natAbs).toList
  let padding := List.replicate (f.exponentDigits - magnitude.length) '0'
  let fraction := match d.digits.tail with
    | [] => []
    | rest => '.' :: rest
  String.ofList (d.digits.take 1 ++ fraction ++
    'e' :: (if e < 0 then '-' else '+') :: padding ++ magnitude)

/-- The text of a double. -/
def text (f : FloatFormat) (x : Float) : String :=
  match Binary.ofFloat x with
  | .nan => f.nan
  | .infinite negative => (if negative then "-" else "") ++ f.infinity
  | .finite negative significand exponent edge =>
    let body :=
      if significand = 0 then "0.0"
      else
        let d := Digits.shortest significand exponent edge
        if f.leastPoint ≤ d.point ∧ d.point ≤ f.greatestPoint then positional d
        else f.scientific d
    (if negative then "-" else "") ++ body

end FloatFormat

end EntityAtlas
