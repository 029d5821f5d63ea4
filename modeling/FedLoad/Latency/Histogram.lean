import FedLoad.Keyed
import FedLoad.Span.Basic
/-!
# Latency histogram

Latencies are counted in whole microseconds from one to sixty million; a value outside is counted
at the nearer end. Values below 2048 have a bucket each. Above, the buckets of a binade are 1024
of equal width, so that a bucket is never wider than one part in 1024 of what it holds.

A bucket stands for its values in three ways: by its lowest value, by its highest, and by the value
halfway between. The smallest and the largest value ever recorded are remembered apart from the
counts, and clearing the counts does not forget them.
-/
namespace FedLoad.Latency

/-! ## Buckets -/

/-- The largest latency that is told apart from larger ones, in microseconds. -/
def longest : Nat := 60000000

/-- Microseconds in a word of sixty-four bits. -/
def wordMicros (s : Span) : Nat := s.micros % Nat.pow 2 64

/-- The value under which a latency is counted. -/
def tracked (micros : Nat) : Nat := min (max micros 1) longest

/-- The width of the bucket of a value: a power of two, one below 2048. -/
def bucketWidth (v : Nat) : Nat := Nat.pow 2 (v.log2 - 10)

/-- The lowest value in the bucket of `v`. -/
def bucketLow (v : Nat) : Nat := v - v % bucketWidth v

/-- The highest value in the bucket of `v`. -/
def bucketHigh (v : Nat) : Nat := bucketLow v + bucketWidth v - 1

/-- The value halfway through the bucket of `v`. -/
def bucketMid (v : Nat) : Nat := bucketLow v + bucketWidth v / 2

/-! ## Counts -/

/-- Counts by the lowest value of a bucket, ascending, and the extremes ever recorded. -/
structure Histogram where
  counts : List (Nat × Nat)
  extremes : Option (Nat × Nat)
deriving DecidableEq, Repr, Inhabited

namespace Histogram

def empty : Histogram := ⟨[], none⟩

/-- The extremes after one more value. -/
def widen (v : Nat) : Option (Nat × Nat) → Nat × Nat
  | none => (v, v)
  | some (least, most) => (min least v, max most v)

/-- Records a latency in microseconds. -/
def record (h : Histogram) (micros : Nat) : Histogram :=
  let v := tracked micros
  ⟨Keyed.bump (bucketLow v) 1 h.counts, some (widen v h.extremes)⟩

/-- Records a latency, whose microseconds are counted in a word. -/
def recordSpan (h : Histogram) (s : Span) : Histogram := h.record (wordMicros s)

/-- The largest value of sixty-four bits. -/
def wordMax : Nat := Nat.pow 2 64 - 1

/-- Records a latency in milliseconds; the product stays within sixty-four bits. -/
def recordMillis (h : Histogram) (millis : Nat) : Histogram :=
  h.record (min (millis * 1000) wordMax)

/-- Forgets the counts. -/
def clear (h : Histogram) : Histogram := { h with counts := [] }

/-- The number of values recorded since the last clearing. -/
def count (h : Histogram) : Nat := (h.counts.map Prod.snd).foldr (· + ·) 0

def isEmpty (h : Histogram) : Bool := h.counts.isEmpty

/-! ## Readings in microseconds -/

/-- The low end of the bucket of the smallest value. -/
def least (h : Histogram) : Nat :=
  match h.extremes with
  | some (v, _) => bucketLow v
  | none => 0

/-- The high end of the bucket of the largest value. -/
def most (h : Histogram) : Nat :=
  match h.extremes with
  | some (_, v) => bucketHigh v
  | none => 0

/-- The mean of the middles of the buckets, each with the weight of its part of the count. -/
def mean (α : Type) [Scalar α] (h : Histogram) : α :=
  h.counts.foldl
    (fun sum (low, n) =>
      sum + Scalar.ofNat (bucketMid low) * Scalar.ofNat n / Scalar.ofNat h.count)
    (Scalar.ofNat 0)

/-- The bucket in which the running count reaches `rank`. -/
def bucketAt? (rank : Nat) : List (Nat × Nat) → Option Nat
  | [] => none
  | (low, n) :: rest => if rank ≤ n then some low else bucketAt? (rank - n) rest

/-- The rank of a quantile among `n` values: at least the first. -/
def rankOf (q : Float) (n : Nat) : Nat := max 1 (ceilNat (q * floatOfNat n))

/-- The value at a quantile: the high end of its bucket, or the low end for quantile zero. -/
def quantile (h : Histogram) (q : Float) : Nat :=
  let q := if q > 1.0 then 1.0 else q
  match bucketAt? (rankOf q h.count) h.counts with
  | some low => if q == 0.0 then low else bucketHigh low
  | none => 0

/-! ## Readings in milliseconds -/

def millis (micros : Nat) : Float := floatOfNat micros / 1000.0

/-- A reading, if anything is recorded. -/
def reading {α : Type} (h : Histogram) (value : α) : Option α :=
  if h.isEmpty then none else some value

/-- Percentiles outside 0 to 100 count as the nearer end. -/
def clampPercent (p : Float) : Float := if p < 0.0 then 0.0 else if p > 100.0 then 100.0 else p

def percentileMillis (h : Histogram) (p : Float) : Option Float :=
  h.reading (millis (h.quantile (clampPercent p / 100.0)))

def meanMillis (h : Histogram) : Option Float := h.reading (h.mean Float / 1000.0)

def leastMillis (h : Histogram) : Option Float := h.reading (millis h.least)

def mostMillis (h : Histogram) : Option Float := h.reading (millis h.most)

end Histogram

end FedLoad.Latency
