import EntityAtlas.Decimal.Binary

/-!
# Fixed decimal places

A double written with a given number of decimal places: the exact value is rounded to the nearest
multiple of the last place, a tie going to the even multiple.
-/

namespace EntityAtlas.Decimal

/-- The quotient `num / den` rounded to a natural number, ties to even. -/
def roundHalfEven (num den : Nat) : Nat :=
  let q := num / den
  let r := num % den
  if 2 * r < den ∨ 2 * r = den ∧ q % 2 = 0 then q else q + 1

/-- A natural number of units of the last place, with the point `places` digits from the right. -/
def placed (places n : Nat) : String :=
  let digits := (toString n).toList
  let all := List.replicate (places + 1 - digits.length) '0' ++ digits
  let whole := all.take (all.length - places)
  if places = 0 then String.ofList whole
  else String.ofList (whole ++ '.' :: all.drop (all.length - places))

/-- A double at `places` decimal places. A value that rounds to zero has no sign. -/
def fixed (places : Nat) (x : Float) : String :=
  match Binary.ofFloat x with
  | .nan => "nan"
  | .infinite negative => if negative then "-inf" else "inf"
  | .finite negative significand exponent _ =>
    let (num, den) := Binary.quotient significand exponent
    let n := roundHalfEven (num * Nat.pow 10 places) den
    (if negative ∧ n ≠ 0 then "-" else "") ++ placed places n

end EntityAtlas.Decimal
