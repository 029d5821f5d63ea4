import FedLoad.Proofs.Except
import FedLoad.Proofs.Record.Order
/-!
# Thresholds on metrics without samples

What a threshold observes is changed by samples of its own metric only: a sample of another defect, a
check, a latency, or any other event leaves it as it was (`observe_record`). So after any events
among which there is no such sample, a threshold observes what it observes of an empty tally.

That is nothing at all, and the threshold passes, for every statistic but one. A count is there from
the beginning: it is zero, and zero is compared with the limit like any other number.

Main statement: `evaluate_unsampled`.
-/
namespace FedLoad

/-- Is this event a sample of this metric? -/
def Event.isSampleOf (e : Event) : Metric → Bool
  | .defects none => e.sample?.isSome
  | .defects (some d) => (e.sampleOf? d).isSome
  | .checks => e.check?.isSome
  | .latency => e.isLatency

namespace Threshold

/-- The rate of some defects is left alone by an event that is not a sample of one of them. -/
theorem defectRate_record {only : Option Defect} {e : Event}
    (h : ¬ e.isSampleOf (.defects only)) (tally : Tally) :
    defectRate (tally.record e) only = defectRate tally only := by
  cases e with
  | sample d passed =>
    cases only with
    | none => exact absurd rfl h
    | some chosen =>
      have hother : chosen ≠ d := by
        rintro rfl
        exact h (by simp [Event.isSampleOf, Event.sampleOf?])
      rw [defectRate, Tally.record, DefectRates.get_add, if_neg hother]
      rfl
  | _ => cases only <;> rfl

/-- An event that is not a sample of its metric leaves alone what a threshold observes. -/
theorem observe_record {t : Threshold} {e : Event} (h : ¬ e.isSampleOf t.metric) (tally : Tally) :
    t.observe (tally.record e) = t.observe tally := by
  unfold observe
  cases hmetric : t.metric with
  | defects only =>
    rw [hmetric] at h
    dsimp only
    rw [defectRate_record h]
  | checks =>
    rw [hmetric] at h
    cases e with
    | check name passed => exact absurd rfl h
    | _ => rfl
  | latency =>
    rw [hmetric] at h
    cases e with
    | latency took => exact absurd rfl h
    | _ => rfl

theorem observe_recordAll {t : Threshold} {events : List Event}
    (h : ∀ e ∈ events, ¬ e.isSampleOf t.metric) (tally : Tally) :
    t.observe (tally.recordAll events) = t.observe tally := by
  induction events generalizing tally with
  | nil => rfl
  | cons e rest ih =>
    obtain ⟨hfirst, hrest⟩ := List.forall_mem_cons.1 h
    exact (ih hrest (tally.record e)).trans (observe_record hfirst tally)

/-- Of an empty tally there is nothing to observe but counts, which are zero. -/
theorem observe_empty (t : Threshold) :
    t.observe .empty = if t.expression.statistic = .count then some 0.0 else none := by
  have hzero : floatOfNat 0 = 0.0 := by decide +kernel
  unfold observe
  rw [← hzero]
  cases t.metric with
  | defects only =>
    cases only with
    | none => cases t.expression.statistic <;> rfl
    | some d => cases d <;> cases t.expression.statistic <;> rfl
  | checks => cases t.expression.statistic <;> rfl
  | latency => cases t.expression.statistic <;> rfl

/-- As long as there is no sample of its metric, a threshold passes unless it is one on a count that
zero does not keep; nothing is observed, or the count zero. -/
theorem evaluate_unsampled {t : Threshold} {events : List Event}
    (h : ∀ e ∈ events, ¬ e.isSampleOf t.metric) :
    ((t.evaluate (Tally.empty.recordAll events)).passed ↔
        (t.expression.statistic = .count → t.expression.comparison.holds 0.0 t.expression.limit)) ∧
      (t.evaluate (Tally.empty.recordAll events)).observed =
        if t.expression.statistic = .count then some 0.0 else none := by
  have hobserved := (observe_recordAll h .empty).trans t.observe_empty
  refine ⟨?_, hobserved⟩
  unfold evaluate
  dsimp only
  rw [hobserved]
  by_cases hcount : t.expression.statistic = .count
  · rw [if_pos hcount, forall_prop_of_true hcount]
    rfl
  · rw [if_neg hcount, forall_prop_of_false hcount]
    exact iff_of_true rfl trivial

/-- A threshold on one defect, after samples of another one, a check and a latency. -/
theorem evaluate_unsampled_otherDefect :
    let events : List Event :=
      [.sample .status false, .check "has body" false, .latency (.ofSeconds 1), .iteration]
    (∀ e ∈ events, ¬ e.isSampleOf (defectDefault .bodySize).metric) ∧
      ((defectDefault .bodySize).evaluate (Tally.empty.recordAll events)).passed := by
  intro events
  have hothers : ∀ e ∈ events, ¬ e.isSampleOf (defectDefault .bodySize).metric := by decide
  exact ⟨hothers, (evaluate_unsampled hothers).1.2 nofun⟩

/-- Without a single check, more than five are asked for. -/
theorem not_passed_unsampled :
    ¬ ∀ metric expression aborts delay t events, read metric expression aborts delay = .ok t →
      (∀ e ∈ events, ¬ e.isSampleOf t.metric) →
      (t.evaluate (Tally.empty.recordAll events)).passed := by
  intro hall
  have hread : ((read "checks" "count > 5" false .zero).toOption.any fun t =>
      !(t.evaluate .empty).passed) = true := by decide +kernel
  obtain ⟨t, hread, hfails⟩ := any_toOption.1 hread
  rw [Bool.not_eq_true'] at hfails
  have hpasses := hall _ _ _ _ t [] hread (by simp)
  exact Bool.false_ne_true (hfails.symm.trans hpasses)

end Threshold

end FedLoad
