/-!
# Double precision numbers, taken apart

A double is not a number, an infinity, or a finite value `± m · 2^e` with whole `m` and `e`. Every
exact statement about a double (its shortest text, its text with fixed places, the whole number
below or above it) is made on `m` and `e` and never goes through floating point arithmetic again.
-/
namespace FedLoad

/-- What a double stands for. -/
inductive Double where
  | nan
  | infinite (negative : Bool)
  /-- The value `mantissa · 2^exponent`, negated if `negative`; zero has two signs. -/
  | finite (negative : Bool) (mantissa : Nat) (exponent : Int)
deriving DecidableEq, Repr

namespace Double

/-- A fraction of natural numbers; the denominator is meant to be positive. -/
structure Ratio where
  num : Nat
  den : Nat
deriving DecidableEq, Repr

/-- `m · 2^e` as a fraction. -/
def Ratio.ofScaled (m : Nat) (e : Int) : Ratio :=
  if 0 ≤ e then ⟨m * Nat.pow 2 e.toNat, 1⟩ else ⟨m, Nat.pow 2 (-e).toNat⟩

/-- The product with `10^k`. -/
def Ratio.shift (r : Ratio) (k : Int) : Ratio :=
  if 0 ≤ k then ⟨r.num * Nat.pow 10 k.toNat, r.den⟩ else ⟨r.num, r.den * Nat.pow 10 (-k).toNat⟩

def Ratio.floor (r : Ratio) : Nat := r.num / r.den

def Ratio.ceil (r : Ratio) : Nat := (r.num + r.den - 1) / r.den

/-- The nearest whole number; halfway between two it is the even one. -/
def Ratio.roundHalfEven (r : Ratio) : Nat :=
  let q := r.num / r.den
  let twice := 2 * (r.num % r.den)
  if twice < r.den then q
  else if twice > r.den then q + 1
  else if q % 2 = 0 then q else q + 1

/-- Takes the sixty-four bits apart: one of sign, eleven of exponent, fifty-two of fraction. -/
def ofFloat (x : Float) : Double :=
  let bits := x.toBits.toNat
  let negative := 1 ≤ bits / Nat.pow 2 63
  let scale : Nat := bits / Nat.pow 2 52 % Nat.pow 2 11
  let fraction : Nat := bits % Nat.pow 2 52
  if scale = 2047 then
    if fraction = 0 then .infinite negative else .nan
  else if scale = 0 then .finite negative fraction (-1074)
  else .finite negative (Nat.pow 2 52 + fraction) ((scale : Int) - 1075)

end Double

/-! ## Reading whole numbers off a double -/

def isFinite (x : Float) : Bool :=
  match Double.ofFloat x with
  | .finite .. => true
  | _ => false

/-- The exact value of a finite double. -/
def rational? (x : Float) : Option Rat :=
  match Double.ofFloat x with
  | .finite negative m e =>
    let r := Double.Ratio.ofScaled m e
    some (if negative then -(mkRat r.num r.den) else mkRat r.num r.den)
  | _ => none

/-- The greatest natural number not above a double; zero below zero and for no number. -/
def floorNat (x : Float) : Nat :=
  match Double.ofFloat x with
  | .finite false m e => (Double.Ratio.ofScaled m e).floor
  | _ => 0

/-- The least natural number not below a double; zero below zero and for no number. -/
def ceilNat (x : Float) : Nat :=
  match Double.ofFloat x with
  | .finite false m e => (Double.Ratio.ofScaled m e).ceil
  | _ => 0

/-- The double nearest to a natural number. -/
def floatOfNat (n : Nat) : Float :=
  if n < Nat.pow 2 64 then n.toUInt64.toFloat else Float.ofScientific n false 0

end FedLoad
