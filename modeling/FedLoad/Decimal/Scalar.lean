import FedLoad.Decimal.Double
/-!
# Numbers to calculate with

Rates, times and means are calculated in double precision. What they mean is said on rational
numbers. The formulas are written once, over any type with the operations below, so that the
formula that runs and the formula that is reasoned about are the same definition.
-/
namespace FedLoad

/-- The operations that the formulas of this library use. -/
class Scalar (α : Type) extends Add α, Sub α, Mul α, Div α where
  ofNat : Nat → α
  /-- Is the first number less than the second? -/
  lt : α → α → Bool
  /-- Is the first number at most the second? -/
  le : α → α → Bool
  isFinite : α → Bool
  /-- The greatest natural number not above a non-negative number. -/
  floor : α → Nat

instance : Scalar Float where
  ofNat := floatOfNat
  lt x y := x < y
  le x y := x ≤ y
  isFinite := isFinite
  floor := floorNat

instance : Scalar Rat where
  ofNat n := n
  lt x y := decide (x < y)
  le x y := decide (x ≤ y)
  isFinite _ := true
  floor x := x.floor.toNat

end FedLoad
