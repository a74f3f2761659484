/-!
# Binary floating-point numbers taken apart

A finite double is `± significand · 2 ^ exponent` with natural significand. Everything that is
written about a double, whether its shortest decimal or its value at a fixed number of places, is
computed from these exact parts and never from an approximate rendering.
-/

namespace EntityAtlas

/-- The parts of a double. -/
inductive Binary where
  /-- Not a number. -/
  | nan
  /-- An infinity and its sign. -/
  | infinite (negative : Bool)
  /-- A finite number `± significand · 2 ^ exponent`. `edge` marks a significand that is the
  least of its binade, below which neighbours lie only half as far apart. -/
  | finite (negative : Bool) (significand : Nat) (exponent : Int) (edge : Bool)
  deriving DecidableEq, Repr

namespace Binary

/-- Takes the sixty-four bits of a double apart. -/
def ofBits (bits : Nat) : Binary :=
  let negative : Bool := Nat.pow 2 63 ≤ bits
  let stored : Nat := bits / Nat.pow 2 52 % Nat.pow 2 11
  let fraction : Nat := bits % Nat.pow 2 52
  if stored = Nat.pow 2 11 - 1 then
    if fraction = 0 then .infinite negative else .nan
  else if stored = 0 then .finite negative fraction (-1074) false
  else
    .finite negative (fraction + Nat.pow 2 52) ((stored : Int) - 1075) (fraction = 0 ∧ 1 < stored)

/-- Takes a double apart. -/
def ofFloat (x : Float) : Binary := ofBits x.toBits.toNat

/-- The absolute value `significand · 2 ^ exponent` as a quotient of natural numbers, the
denominator being positive. -/
def quotient (significand : Nat) (exponent : Int) : Nat × Nat :=
  (significand * Nat.pow 2 exponent.toNat, Nat.pow 2 (-exponent).toNat)

end Binary

end EntityAtlas
