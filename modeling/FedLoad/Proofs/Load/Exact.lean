import FedLoad.Load.Budget
import Mathlib.Algebra.Order.Archimedean.Real.Basic
/-!
# Load models without rounding

A schedule is a curve over time, and what comes due under it is an area. So the formulas of a load
are calculated here on real numbers, where nothing is rounded: they are the formulas that run, with
the operations of the reals for those of doubles.

Main statements: `Span.seconds_eq`, `LoadModel.interpolate_of_pos`, `LoadModel.rampFrom_cons`,
`LoadModel.perSecond_eq`.
-/
namespace FedLoad

/-- The division of the field. Reals divide as scalars too, so it is said which of the two is the
one to be found; they are the same. -/
noncomputable instance Scalar.divReal : Div ℝ := DivInvMonoid.toDiv

open Classical in
noncomputable instance : Scalar ℝ where
  ofNat n := n
  lt x y := decide (x < y)
  le x y := decide (x ≤ y)
  isFinite _ := true
  floor x := ⌊x⌋₊

namespace Scalar

variable {x y : ℝ}

theorem lt_iff : Scalar.lt x y = true ↔ x < y := decide_eq_true_iff

theorem le_iff : Scalar.le x y = true ↔ x ≤ y := decide_eq_true_iff

theorem ofNat_zero : (Scalar.ofNat 0 : ℝ) = 0 := Nat.cast_zero

theorem le_zero_iff : Scalar.le x (Scalar.ofNat 0) = true ↔ x ≤ 0 := by rw [le_iff, ofNat_zero]

end Scalar

/-! ## Seconds -/

namespace Span

/-- Whole seconds and the fraction together are the nanoseconds. -/
theorem seconds_eq (s : Span) : (s.seconds : ℝ) = s.nanos / 1000000000 := by
  have hparts : (s.nanos : ℝ) = 1000000000 * s.wholeSeconds + s.subNanos := by
    exact_mod_cast (Nat.div_add_mod s.nanos 1000000000).symm
  have hseconds : (s.seconds : ℝ) = s.wholeSeconds + s.subNanos / 1000000000 := by
    change (s.wholeSeconds : ℝ) + s.subNanos / ((1000000000 : ℕ) : ℝ) = _
    norm_num
  rw [hseconds, hparts]
  ring

theorem seconds_nonneg (s : Span) : (0 : ℝ) ≤ s.seconds := by
  rw [seconds_eq]
  positivity

theorem seconds_pos {s : Span} : (0 : ℝ) < s.seconds ↔ 0 < s.nanos := by
  rw [seconds_eq, div_pos_iff_of_pos_right (by norm_num), Nat.cast_pos]

end Span

/-! ## Rates -/

namespace LoadModel

variable {fromRate toRate elapsed duration start time : ℝ}

theorem interpolate_of_pos (h : 0 < duration) : interpolate fromRate toRate elapsed duration =
    fromRate + (toRate - fromRate) * (elapsed / duration) :=
  if_neg (mt Scalar.le_zero_iff.1 h.not_ge)

theorem rampFrom_cons (stage : Stage ℝ) (rest : List (Stage ℝ)) :
    rampFrom fromRate start time (stage :: rest) =
      if time < start + stage.duration.seconds then
        interpolate fromRate stage.target (time - start) stage.duration.seconds
      else rampFrom stage.target (start + stage.duration.seconds) time rest :=
  if_congr Scalar.lt_iff rfl rfl

theorem rateAt_ramping (startRate : ℝ) (timeUnit : Span) (stages : List (Stage ℝ)) (time : ℝ) :
    (ramping startRate timeUnit stages).rateAt time = rampFrom startRate 0 time stages := by
  rw [rateAt, Scalar.ofNat_zero]

/-- A unit without length divides to nothing, as zero does. -/
theorem perSecond_eq (m : LoadModel ℝ) (time : ℝ) :
    m.perSecond time = m.rateAt time / m.timeUnit.seconds := by
  obtain hzero | hpos := (Span.seconds_nonneg m.timeUnit).eq_or_lt
  · have hnone : m.perSecond time = Scalar.ofNat 0 := if_pos (Scalar.le_zero_iff.2 hzero.ge)
    rw [hnone, Scalar.ofNat_zero, ← hzero, div_zero]
  · exact if_neg (mt Scalar.le_zero_iff.1 hpos.not_ge)

end LoadModel

end FedLoad
