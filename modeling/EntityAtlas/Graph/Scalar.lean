/-!
# Scalars

Ranking is arithmetic on a small set of operations. They are gathered in a class so that the same
definitions run on floating-point numbers and can be reasoned about over exact ones.
-/

namespace EntityAtlas

/-- The operations that ranking needs of its numbers. -/
class Scalar (α : Type) where
  /-- A whole number. -/
  ofNat : Nat → α
  /-- The sum. -/
  add : α → α → α
  /-- The difference. -/
  sub : α → α → α
  /-- The product. -/
  mul : α → α → α
  /-- The quotient. -/
  div : α → α → α
  /-- The absolute value. -/
  abs : α → α
  /-- Whether the first is less than the second. -/
  less : α → α → Bool
  /-- Whether a value fails to be a number. -/
  isNaN : α → Bool
  /-- Whether a value is a finite number. -/
  isFinite : α → Bool

instance : Scalar Float where
  ofNat := Float.ofNat
  add := Float.add
  sub := Float.sub
  mul := Float.mul
  div := Float.div
  abs := Float.abs
  less a b := a < b
  isNaN := Float.isNaN
  isFinite := Float.isFinite

namespace Scalar

variable {α : Type} [Scalar α]

/-- The sum of a list, from the left. -/
@[specialize] def sum (xs : List α) : α := xs.foldl add (ofNat 0)

end Scalar

end EntityAtlas
