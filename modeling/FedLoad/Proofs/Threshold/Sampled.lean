import FedLoad.Proofs.Latency.Rank
import FedLoad.Proofs.Threshold.Grammar
import FedLoad.Proofs.Threshold.Unsampled
import Mathlib.Data.List.Induction
/-!
# Thresholds on metrics with samples

The statistic of a metric is defined on the samples themselves: on the outcomes among the events, or
on the latencies. The tally has exactly these samples in its rates and its histogram, so that the
statistic is what a threshold observes. Which statistics there are for a metric was decided when the
threshold was read, so that none is missing.

What is observed is a number: only positive counts are divided by, and nothing infinite is
subtracted from. Numbers compare one way or the other, and a threshold passes exactly if its
complement fails.

Main statement: `evaluate_sampled`.
-/
namespace FedLoad

open Latency Latency.Histogram

/-! ## Samples -/

namespace Event

/-- The outcome of a sample of one defect, or of any. -/
def outcome? : Option Defect → Event → Option Bool
  | none => sample?
  | some d => sampleOf? d

/-- The latency of a request, as it is tracked. -/
def tracked? : Event → Option Nat
  | .latency took => some (tracked (wordMicros took))
  | _ => none

theorem tracked?_le {e : Event} {v : Nat} (h : e.tracked? = some v) : v ≤ longest := by
  cases e with
  | latency took =>
    cases h
    exact Nat.min_le_right ..
  | _ => cases h

end Event

namespace Tally

/-- The histogram holds the latencies among the events. -/
theorem holds_recordAll (events : List Event) :
    (empty.recordAll events).latencies.Holds (events.filterMap Event.tracked?)
      (events.filterMap Event.tracked?) := by
  induction events using List.reverseRecOn with
  | nil => exact holds_empty
  | append_singleton events e ih =>
    have hstep : empty.recordAll (events ++ [e]) = (empty.recordAll events).record e :=
      List.foldl_append
    rw [hstep, filterMap_concat]
    cases e with
    | latency took => exact ih.record (wordMicros took)
    | _ =>
      change (empty.recordAll events).latencies.Holds (_ ++ []) (_ ++ [])
      rw [List.append_nil]
      exact ih

theorem defectRate_recordAll (only : Option Defect) (events : List Event) :
    Threshold.defectRate (empty.recordAll events) only =
      .ofOutcomes (events.filterMap (Event.outcome? only)) := by
  have hcounts := Counts.empty.recordAll balanced_empty events
  cases only with
  | none => exact hcounts.samples
  | some d => exact hcounts.byDefect d

end Tally

namespace Threshold

/-! ## Statistics of samples -/

/-- The failed part of some outcomes. -/
def failedShare (outcomes : List Bool) : Float :=
  floatOfNat (outcomes.count false) / floatOfNat outcomes.length

/-- A statistic of outcomes; `share` is what its rate means, `number` its count. -/
def ofOutcomes (share : Float) (number : Nat) : Statistic → Option Float
  | .rate => some share
  | .count => some (floatOfNat number)
  | _ => none

/-- A statistic of latencies in microseconds, as milliseconds. -/
def ofValues (values : List Nat) : Statistic → Option Float
  | .count => some (floatOfNat values.length)
  | .avg => some (bucketMean Float values / 1000.0)
  | .min => (ascending values).head?.map fun v => millis (bucketLow v)
  | .max => (ascending values).getLast?.map fun v => millis (bucketHigh v)
  | .med => some (millis (quantileOf values (clampPercent 50.0 / 100.0)))
  | .percentile p => some (millis (quantileOf values (clampPercent p / 100.0)))
  | .rate => none

/-- A statistic of the samples of a metric among some events. -/
def ofSamples (metric : Metric) (statistic : Statistic) (events : List Event) : Option Float :=
  match metric with
  | .defects only =>
    let outcomes := events.filterMap (Event.outcome? only)
    ofOutcomes (failedShare outcomes) (outcomes.count false) statistic
  | .checks =>
    let outcomes := events.filterMap Event.check?
    ofOutcomes (floatOfNat 1 - failedShare outcomes) outcomes.length statistic
  | .latency => ofValues (events.filterMap Event.tracked?) statistic

theorem filterMap_ne_nil {α : Type} {f : Event → Option α} {events : List Event}
    (h : ∃ e ∈ events, (f e).isSome = true) : events.filterMap f ≠ [] := by
  obtain ⟨e, he, hsome⟩ := h
  obtain ⟨a, ha⟩ := Option.isSome_iff_exists.1 hsome
  exact List.ne_nil_of_mem (List.mem_filterMap.2 ⟨e, he, ha⟩)

theorem outcomes_ne_nil {only : Option Defect} {events : List Event}
    (h : ∃ e ∈ events, e.isSampleOf (.defects only)) :
    events.filterMap (Event.outcome? only) ≠ [] := by
  cases only <;> exact filterMap_ne_nil h

theorem values_ne_nil {events : List Event} (h : ∃ e ∈ events, e.isSampleOf .latency) :
    events.filterMap Event.tracked? ≠ [] := by
  obtain ⟨e, he, hlatency⟩ := h
  refine filterMap_ne_nil ⟨e, he, ?_⟩
  cases e with
  | latency took => rfl
  | _ => cases hlatency

theorem failureShare_ofOutcomes {outcomes : List Bool} (h : outcomes ≠ []) :
    (Rate.ofOutcomes outcomes).failureShare Float = some (failedShare outcomes) :=
  if_neg (mt List.length_eq_zero_iff.1 h)

theorem ofLatencies_eq {h : Histogram} {values : List Nat} (hh : h.Holds values values)
    (hvalues : values ≠ []) (s : Statistic) : ofLatencies h s = ofValues values s := by
  have hempty : h.isEmpty = false := by
    rw [hh.isEmpty_eq]
    exact List.isEmpty_eq_false_iff.2 hvalues
  have hreading {α : Type} (value : α) : h.reading value = some value := by
    rw [reading, hempty]
    rfl
  have hsorted := ascending_ne_nil hvalues
  cases s with
  | rate => rfl
  | count => exact congrArg (fun n => some (floatOfNat n)) hh.count_eq
  | avg =>
    rw [ofLatencies, ofValues, meanMillis, hreading, hh.mean_eq Float]
  | min =>
    obtain ⟨v, rest, hv⟩ := List.exists_cons_of_ne_nil hsorted
    rw [ofLatencies, ofValues, leastMillis, hreading, hh.least_eq, hv]
    rfl
  | max =>
    have hlast := List.getLast?_eq_some_getLast hsorted
    rw [ofLatencies, ofValues, mostMillis, hreading, hh.most_eq, hlast]
    rfl
  | med => rw [ofLatencies, ofValues, percentileMillis, hreading, hh.quantile_eq]
  | percentile p => rw [ofLatencies, ofValues, percentileMillis, hreading, hh.quantile_eq]

/-- What is observed is the statistic of exactly the samples. -/
theorem observe_recordAll_eq {t : Threshold} {events : List Event}
    (hsupports : supports t.metric t.expression.statistic = true)
    (hsample : ∃ e ∈ events, e.isSampleOf t.metric) :
    t.observe (Tally.empty.recordAll events) =
      ofSamples t.metric t.expression.statistic events := by
  obtain ⟨metric, ⟨statistic, c, limit⟩, source, aborts, delay⟩ := t
  cases metric with
  | defects only =>
    have houtcomes := outcomes_ne_nil hsample
    unfold observe ofSamples
    dsimp only
    rw [Tally.defectRate_recordAll, failureShare_ofOutcomes houtcomes]
    cases statistic <;> first | rfl | cases hsupports
  | checks =>
    have houtcomes : events.filterMap Event.check? ≠ [] := filterMap_ne_nil hsample
    have hchecks := (Tally.Counts.empty.recordAll Tally.balanced_empty events).checks
    unfold observe ofSamples
    dsimp only
    rw [hchecks, Rate.passShare, List.nil_append, failureShare_ofOutcomes houtcomes]
    cases statistic <;> first | rfl | cases hsupports
  | latency => exact ofLatencies_eq (Tally.holds_recordAll events) (values_ne_nil hsample) statistic

theorem exists_ofSamples {metric : Metric} {statistic : Statistic} {events : List Event}
    (hsupports : supports metric statistic = true) (hsample : ∃ e ∈ events, e.isSampleOf metric) :
    ∃ x, ofSamples metric statistic events = some x := by
  cases metric with
  | defects only => cases statistic <;> first | exact ⟨_, rfl⟩ | cases hsupports
  | checks => cases statistic <;> first | exact ⟨_, rfl⟩ | cases hsupports
  | latency =>
    have hsorted := ascending_ne_nil (values_ne_nil hsample)
    cases statistic with
    | rate => cases hsupports
    | min =>
      exact ⟨_, congrArg (Option.map _) (List.head?_eq_some_head hsorted)⟩
    | max => exact ⟨_, congrArg (Option.map _) (List.getLast?_eq_some_getLast hsorted)⟩
    | count | avg | med | percentile p => exact ⟨_, rfl⟩

/-! ## Numbers -/

theorem isAmount_failedShare {outcomes : List Bool} (h : outcomes ≠ [])
    (hlength : outcomes.length < 2 ^ 64) : IsAmount (failedShare outcomes) := by
  have hfailed : outcomes.count false < 2 ^ 64 := Nat.lt_of_le_of_lt List.count_le_length hlength
  exact (isAmount_floatOfNat hfailed).div
    (isPositive_floatOfNat (mt List.length_eq_zero_iff.1 h) hlength)

theorem ofOutcomes_ne_nan {share : Float} {number : Nat} {s : Statistic} {x : Float}
    (hshare : Double.ofFloat share ≠ .nan) (hnumber : number < 2 ^ 64)
    (h : ofOutcomes share number s = some x) : Double.ofFloat x ≠ .nan := by
  cases s with
  | rate =>
    cases h
    exact hshare
  | count =>
    cases h
    exact (isAmount_floatOfNat hnumber).ne_nan
  | avg | min | max | med | percentile p => cases h

theorem isPositive_thousand : IsPositive 1000.0 := by
  have hthousand : Double.ofFloat 1000.0 = .finite false (1000 * 2 ^ 43) (-43) := rfl
  exact ⟨_, _, Nat.pos_of_ne_zero (by decide), (unpack_of_finite hthousand).trans
    (Double.ofParts_of_ne_zero _ (by decide))⟩

theorem isAmount_millis {n : Nat} (h : n < 2 ^ 64) : IsAmount (millis n) :=
  (isAmount_floatOfNat h).div isPositive_thousand

theorem isAmount_bucketMean {values : List Nat} (hvalues : values ≠ [])
    (hlength : values.length < 2 ^ 64) (hmost : ∀ v ∈ values, bucketMid v < 2 ^ 64) :
    IsAmount (bucketMean Float values) := by
  suffices hfold : ∀ lows : List Nat, (∀ low ∈ lows, low ∈ buckets values) →
      ∀ sum : Float, IsAmount sum →
      IsAmount (lows.foldl (fun sum low => sum + Scalar.ofNat (bucketMid low) *
        Scalar.ofNat (values.countP (bucketLow · = low)) / Scalar.ofNat values.length) sum) from
    hfold _ (fun _ h => h) _ (isAmount_floatOfNat (Nat.two_pow_pos 64))
  intro lows
  induction lows with
  | nil => exact fun _ _ hsum => hsum
  | cons low rest ih =>
    intro hlows sum hsum
    obtain ⟨hlow, hrest⟩ := List.forall_mem_cons.1 hlows
    obtain ⟨v, hv, rfl⟩ := mem_buckets hlow
    have hcount : values.countP (bucketLow · = bucketLow v) ≠ 0 := by
      rw [← Nat.pos_iff_ne_zero, List.countP_pos_iff]
      exact ⟨v, hv, by simp⟩
    have hmiddle : bucketMid (bucketLow v) < 2 ^ 64 := by
      rw [bucketMid_bucketLow]
      exact hmost v hv
    refine ih hrest _ (hsum.add (IsAmount.div (IsAmount.mul (isAmount_floatOfNat hmiddle) ?_) ?_))
    · exact isPositive_floatOfNat hcount (Nat.lt_of_le_of_lt List.countP_le_length hlength)
    · exact isPositive_floatOfNat (mt List.length_eq_zero_iff.1 hvalues) hlength

theorem ofValues_ne_nan {values : List Nat} {s : Statistic} {x : Float} (hvalues : values ≠ [])
    (hlength : values.length < 2 ^ 64) (hmost : ∀ v ∈ values, v ≤ longest)
    (h : ofValues values s = some x) : Double.ofFloat x ≠ .nan := by
  have hhigh : ∀ v ∈ values, bucketHigh v ≤ 2 * longest := fun v hv =>
    Nat.le_trans (bucketHigh_le v) (Nat.mul_le_mul_left 2 (hmost v hv))
  have hlarge : 2 * longest < 2 ^ 64 := by decide
  have hquantile (q : Float) := isAmount_millis
    (Nat.lt_of_le_of_lt (quantileOf_le hhigh q) hlarge)
  refine IsAmount.ne_nan ?_
  cases s with
  | rate => cases h
  | count =>
    cases h
    exact isAmount_floatOfNat hlength
  | avg =>
    cases h
    refine (isAmount_bucketMean hvalues hlength fun v hv => ?_).div isPositive_thousand
    exact Nat.lt_of_le_of_lt (Nat.le_trans (bucketMid_le v) (hhigh v hv)) hlarge
  | min =>
    obtain ⟨v, hv, rfl⟩ := Option.map_eq_some_iff.1 h
    have hmem := (ascending_perm values).mem_iff.1 (List.mem_of_head? hv)
    have hle := Nat.le_trans (bucketLow_le v) (hmost v hmem)
    exact isAmount_millis (Nat.lt_of_le_of_lt hle (by decide))
  | max =>
    obtain ⟨v, hv, rfl⟩ := Option.map_eq_some_iff.1 h
    have hmem := (ascending_perm values).mem_iff.1 (List.mem_of_getLast? hv)
    exact isAmount_millis (Nat.lt_of_le_of_lt (hhigh v hmem) hlarge)
  | med =>
    cases h
    exact hquantile _
  | percentile p =>
    cases h
    exact hquantile _

/-- What is observed is a number as long as the counts have sixty-four bits. -/
theorem ofSamples_ne_nan {metric : Metric} {statistic : Statistic} {events : List Event} {x : Float}
    (hsample : ∃ e ∈ events, e.isSampleOf metric) (hlength : events.length < 2 ^ 64)
    (h : ofSamples metric statistic events = some x) : Double.ofFloat x ≠ .nan := by
  have hshort {α : Type} (f : Event → Option α) : (events.filterMap f).length < 2 ^ 64 :=
    Nat.lt_of_le_of_lt (List.length_filterMap_le f events) hlength
  cases metric with
  | defects only =>
    have hshare := isAmount_failedShare (outcomes_ne_nil hsample) (hshort _)
    exact ofOutcomes_ne_nan hshare.ne_nan
      (Nat.lt_of_le_of_lt List.count_le_length (hshort (Event.outcome? only))) h
  | checks =>
    have hshare := isAmount_failedShare (filterMap_ne_nil hsample) (hshort Event.check?)
    have hone := isPositive_floatOfNat Nat.one_ne_zero (by decide)
    exact ofOutcomes_ne_nan (hone.sub_ne_nan hshare) (hshort Event.check?) h
  | latency => 
    refine ofValues_ne_nan (values_ne_nil hsample) (hshort _) (fun v hv => ?_) h
    obtain ⟨e, -, he⟩ := List.mem_filterMap.1 hv
    exact Event.tracked?_le he

/-! ## Verdicts -/

theorem limit_ne_nan {s : String} {e : Expression} (h : Expression.read s = .ok e) :
    Double.ofFloat e.limit ≠ .nan := by
  obtain ⟨d, -, -, -, -, y, hy, hlimit⟩ := Expression.read_eq_ok_iff.1 h
  rw [hlimit]
  split
  · exact hy.ne_nan.2
  · exact hy.ne_nan.1

/-- The threshold with the comparison that holds exactly when this one does not. -/
def complement (t : Threshold) : Threshold :=
  { t with expression := { t.expression with comparison := t.expression.comparison.negate } }

/-- The percentage at which a statistic is read off. -/
def percent? : Statistic → Option Float
  | .med => some 50.0
  | .percentile p => some p
  | _ => none

theorem isAmount_percent {s : String} {e : Expression} (h : Expression.read s = .ok e) {p : Float}
    (hp : percent? e.statistic = some p) : IsAmount p := by
  have hfifty : Double.ofFloat 50.0 = .finite false (50 * 2 ^ 47) (-47) := rfl
  obtain ⟨d, -, -, hstatistic, -, -⟩ := Expression.read_eq_ok_iff.1 h
  generalize e.statistic = statistic at hp hstatistic
  cases statistic with
  | med =>
    cases hp
    exact isAmount_of_finite hfifty
  | percentile q =>
    cases hp
    generalize d.statistic = w at hstatistic
    cases w with
    | plain s hs =>
      obtain rfl : Statistic.percentile p = s := hstatistic
      simp [Expression.words] at hs
    | percentile before n after =>
      obtain ⟨r, hr, hnear⟩ := hstatistic
      cases hr
      exact hnear.isAmount
  | rate | count | avg | min | max => cases hp

/-- No threshold passes silently. Once there is a sample of its metric, something is observed: the
statistic of exactly the samples. It decides by the comparison with the limit, and as long as the
counts have sixty-four bits it is a number, so that of a threshold and its complement exactly one
passes. The rank of a percentile is among the samples as long as floats count them exactly. -/
theorem evaluate_sampled {metric expression : String} {aborts : Bool} {delay : Span} {t : Threshold}
    {events : List Event} (hread : read metric expression aborts delay = .ok t)
    (hsample : ∃ e ∈ events, e.isSampleOf t.metric) :
    ∃ x, t.observe (Tally.empty.recordAll events) = some x ∧
      ofSamples t.metric t.expression.statistic events = some x ∧
      t.evaluate (Tally.empty.recordAll events) =
        ⟨some x, t.expression.comparison.holds x t.expression.limit⟩ ∧
      (events.length < 2 ^ 64 → Double.ofFloat x ≠ .nan ∧
        (t.complement.evaluate (Tally.empty.recordAll events)).passed =
          !(t.evaluate (Tally.empty.recordAll events)).passed) ∧
      (events.length < 2 ^ 53 → ∀ p, percent? t.expression.statistic = some p →
        rankOf (capped (clampPercent p / 100.0)) (events.filterMap Event.tracked?).length ≤
          (events.filterMap Event.tracked?).length) := by
  obtain ⟨-, hexpression, hsupports, -⟩ := read_eq_ok_iff.1 hread
  obtain ⟨x, hx⟩ := exists_ofSamples hsupports hsample
  have hobserved := (observe_recordAll_eq hsupports hsample).trans hx
  have hcomplement : t.complement.observe (Tally.empty.recordAll events) = some x := hobserved
  have hlimit : Double.ofFloat t.expression.limit ≠ .nan := limit_ne_nan hexpression
  refine ⟨x, hobserved, hx, ?_, fun hlength => ?_, fun hlength p hp => ?_⟩
  · rw [evaluate, hobserved]
    rfl
  · have hnumber := ofSamples_ne_nan hsample hlength hx
    refine ⟨hnumber, ?_⟩
    rw [evaluate, evaluate, hobserved, hcomplement]
    exact t.expression.comparison.holds_negate hnumber hlimit
  · have hlatency : t.metric = .latency := by
      generalize t.metric = m at hsupports
      generalize t.expression.statistic = s at hsupports hp
      cases m with
      | defects only | checks => cases s <;> simp_all [percent?, supports]
      | latency => rfl
    rw [hlatency] at hsample
    exact rankOf_clampPercent_le (isAmount_percent hexpression hp)
      (mt List.length_eq_zero_iff.1 (values_ne_nil hsample))
      (Nat.lt_of_le_of_lt (List.length_filterMap_le _ _) hlength)

/-- Two checks, one of them failed, and a sample that is none of theirs. -/
theorem evaluate_sampled_checks :
    let events : List Event :=
      [.check "has body" true, .sample .status false, .check "has body" false]
    let tally := Tally.empty.recordAll events
    ∃ t, read "checks" "rate >= 0.5" false .zero = .ok t ∧ (∃ e ∈ events, e.isSampleOf t.metric) ∧
      (∃ x, t.observe tally = some x ∧ Double.ofFloat x ≠ .nan) ∧
      (t.complement.evaluate tally).passed = !(t.evaluate tally).passed := by
  intro events tally
  have hread : ((read "checks" "rate >= 0.5" false .zero).toOption.any fun t =>
      decide (t.metric = .checks)) = true := by decide +kernel
  obtain ⟨t, hread, hmetric⟩ := any_toOption.1 hread
  have hsample : ∃ e ∈ events, e.isSampleOf t.metric := by
    rw [of_decide_eq_true hmetric]
    exact ⟨.check "has body" true, List.mem_cons_self, rfl⟩
  obtain ⟨x, hobserved, -, -, hnumber, -⟩ := evaluate_sampled hread hsample
  obtain ⟨hx, hcomplement⟩ := hnumber (by decide)
  exact ⟨t, hread, hsample, ⟨x, hobserved, hx⟩, hcomplement⟩

end Threshold

end FedLoad
