import FedLoad.Decimal.Digits
import FedLoad.Decimal.Double
/-!
# The shortest decimal of a double

Among all decimals that are nearer to a double than to any other, the shortest ones are those on
the coarsest decimal grid that has one, and of these the nearest to the double is taken. On a grid
only the two neighbours of the double come into question: when any point of the grid lies in the
interval of reals that round to the double, one of these two does.
-/
namespace FedLoad.Decimal

open Double (Ratio)

/-- The decimal `coefficient · 10^exponent`. -/
structure Scientific where
  coefficient : Nat
  exponent : Int
deriving DecidableEq, Repr

/-- Which neighbour is taken when a value lies halfway between two. -/
inductive Tie where
  | up
  | even
deriving DecidableEq, Repr

/-- The reals that round to a double `m · 2^e`, in quarters of its last place: the double itself
is `4 m`. The ends belong to the interval when `m` is even. -/
structure Interval where
  low : Ratio
  value : Ratio
  high : Ratio
  closed : Bool

/-- The gap below the least mantissa of a binade is half as wide as the one above it. -/
def Interval.around (m : Nat) (e : Int) : Interval where
  low := .ofScaled (if m = Nat.pow 2 52 ∧ e ≠ -1074 then 4 * m - 1 else 4 * m - 2) (e - 2)
  value := .ofScaled (4 * m) (e - 2)
  high := .ofScaled (4 * m + 2) (e - 2)
  closed := m % 2 = 0

def Interval.shift (i : Interval) (k : Int) : Interval :=
  { i with low := i.low.shift k, value := i.value.shift k, high := i.high.shift k }

/-- Does the whole number `n` lie in the interval? -/
def Interval.holds (i : Interval) (n : Nat) : Bool :=
  if i.closed then i.low.num ≤ n * i.low.den && n * i.high.den ≤ i.high.num
  else i.low.num < n * i.low.den && n * i.high.den < i.high.num

/-- The whole number in the interval that is nearest to its value, if there is one. -/
def Interval.nearest? (i : Interval) (tie : Tie) : Option Nat :=
  let below := i.value.floor
  let twice := 2 * (i.value.num - below * i.value.den)
  match decide (0 < below) && i.holds below, i.holds (below + 1) with
  | false, false => none
  | true, false => some below
  | false, true => some (below + 1)
  | true, true =>
    if twice < i.value.den then some below
    else if twice > i.value.den then some (below + 1)
    else match tie with
      | .up => some (below + 1)
      | .even => some (if below % 2 = 0 then below else below + 1)

/-- The exponent `p` with `10^(p-1) ≤ r < 10^p`, for positive `r`. -/
def magnitude (r : Ratio) : Int :=
  if r.den ≤ r.num then width r.floor
  else 1 - (width ((r.den + r.num - 1) / r.num - 1) : Int)

/-- The shortest decimal on grids of one to seventeen digits. -/
def shortest (tie : Tie) (m : Nat) (e : Int) : Scientific :=
  let interval := Interval.around m e
  let top := magnitude interval.value
  let onGrid (count : Nat) : Option Scientific :=
    let exponent := top - (count : Int) - 1
    ((interval.shift (-exponent)).nearest? tie).map fun d => ⟨d, exponent⟩
  match (List.range 17).findSome? onGrid with
  | some s => s
  | none => ⟨(interval.value.shift (17 - top)).floor, top - 17⟩

end FedLoad.Decimal
