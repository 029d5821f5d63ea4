import FedLoad.Decimal.Scalar
/-!
# Spans of time

A span is a whole number of nanoseconds. What is stored, added and compared is that number; seconds
as a number of some other kind are computed from it when a rate needs them. A span that can be
handed around has fewer than `2^64` whole seconds: sums are checked against this limit, a number of
seconds becomes a span only below it, and where whole seconds are counted in a word of sixty-four
bits the multiples of the limit are lost.
-/
namespace FedLoad

/-- A length of time in nanoseconds. -/
structure Span where
  nanos : Nat
deriving DecidableEq, Repr, Inhabited

namespace Span

def zero : Span := ⟨0⟩

def ofMillis (n : Nat) : Span := ⟨n * 1000000⟩

def ofSeconds (n : Nat) : Span := ⟨n * 1000000000⟩

instance : Add Span := ⟨fun a b => ⟨a.nanos + b.nanos⟩⟩

instance : LE Span := ⟨fun a b => a.nanos ≤ b.nanos⟩

instance : LT Span := ⟨fun a b => a.nanos < b.nanos⟩

instance (a b : Span) : Decidable (a ≤ b) := inferInstanceAs (Decidable (a.nanos ≤ b.nanos))

instance (a b : Span) : Decidable (a < b) := inferInstanceAs (Decidable (a.nanos < b.nanos))

def isZero (s : Span) : Bool := s.nanos == 0

/-- Whole seconds. -/
def wholeSeconds (s : Span) : Nat := s.nanos / 1000000000

/-- Nanoseconds beyond the whole seconds. -/
def subNanos (s : Span) : Nat := s.nanos % 1000000000

/-- Whole milliseconds. -/
def millis (s : Span) : Nat := s.nanos / 1000000

/-- Whole microseconds. -/
def micros (s : Span) : Nat := s.nanos / 1000

/-- The first whole millisecond that is not before the end of the span. -/
def ceilMillis (s : Span) : Nat := (s.nanos + 999999) / 1000000

/-- The span nearest to `s` between `low` and `high`. -/
def clamp (s low high : Span) : Span := if s < low then low else if high < s then high else s

/-- The least span that is too long to be handed around: `2^64` seconds. -/
def limit : Span := ofSeconds (Nat.pow 2 64)

/-- What a word keeps of the whole seconds of a span, with the nanoseconds beyond them. -/
def wrapped (s : Span) : Span := ⟨s.nanos % limit.nanos⟩

def sum (spans : List Span) : Span := ⟨(spans.map Span.nanos).foldr (· + ·) 0⟩

/-- Seconds as a number. Whole seconds and the fraction are converted apart and then added. -/
def seconds {α : Type} [Scalar α] (s : Span) : α :=
  Scalar.ofNat s.wholeSeconds + Scalar.ofNat s.subNanos / Scalar.ofNat 1000000000

/-! ## Faults -/

/-- Why a calculation with spans has no result. -/
inductive Fault where
  | sumTooLong
  | secondsNegative
  | secondsTooLong
deriving DecidableEq, Repr

def Fault.message : Fault → String
  | .sumTooLong => "overflow in iter::sum over durations"
  | .secondsNegative => "cannot convert float seconds to Duration: value is negative"
  | .secondsTooLong =>
    "cannot convert float seconds to Duration: value is either too big or NaN"

/-- The sum of spans, if it is below the limit. -/
def total (spans : List Span) : Except Fault Span :=
  if sum spans < limit then .ok (sum spans) else .error .sumTooLong

/-- The span nearest to a number of seconds, a half nanosecond going to the even neighbour. -/
def ofFloatSeconds (x : Float) : Except Fault Span :=
  match Double.ofFloat x with
  | .nan => .error .secondsTooLong
  | .infinite negative => .error (if negative then .secondsNegative else .secondsTooLong)
  | .finite negative m e =>
    if m = 0 then .ok zero
    else if negative then .error .secondsNegative
    else
      let r := Double.Ratio.ofScaled m e
      if Nat.pow 2 64 ≤ r.floor then .error .secondsTooLong
      else .ok ⟨(r.shift 9).roundHalfEven⟩

/-! ## Laws -/

theorem total_eq_ok_iff {spans : List Span} {s : Span} :
    total spans = .ok s ↔ s = sum spans ∧ sum spans < limit := by
  unfold total
  split <;> simp_all [eq_comm]

theorem wrapped_ofSeconds (n : Nat) : (ofSeconds n).wrapped = ofSeconds (n % Nat.pow 2 64) :=
  congrArg mk (Nat.mul_mod_mul_right ..)

theorem wrapped_lt_limit (s : Span) : s.wrapped < limit :=
  Nat.mod_lt s.nanos (Nat.mul_pos (Nat.two_pow_pos 64) (by decide))

/-- Only a span below the limit is kept as it is. -/
theorem wrapped_eq_iff {s : Span} : s.wrapped = s ↔ s < limit := by
  constructor
  · intro h
    rw [← h]
    exact s.wrapped_lt_limit
  · intro h
    exact congrArg mk (Nat.mod_eq_of_lt h)

theorem le_clamp {s low high : Span} (h : low ≤ high) :
    low ≤ s.clamp low high ∧ s.clamp low high ≤ high := by
  change low.nanos ≤ high.nanos at h
  unfold clamp
  split
  · exact ⟨Nat.le_refl _, h⟩
  · next hlow =>
    change ¬ s.nanos < low.nanos at hlow
    split
    · exact ⟨h, Nat.le_refl _⟩
    · next hhigh =>
      change ¬ high.nanos < s.nanos at hhigh
      exact ⟨Nat.le_of_not_lt hlow, Nat.le_of_not_lt hhigh⟩

end Span

end FedLoad
