import FedLoad.Proofs.Latency.Ordered
/-!
# The accuracy of quantiles

A bucket above 2048 is one part in 1024 of its binade wide at most, and a bucket below holds a single
value. A quantile is the high end of the bucket of the value of its rank, so that it is not below
this value and above it by less than one part in 1024 of it. Every recording counts one value:
what is out of range is counted at the nearer end, and so is a product past sixty-four bits.

Main statement: `Histogram.quantile_accurate`.
-/
namespace FedLoad

open Double

namespace Latency

theorem log2_le_of_lt {v : Nat} (hv : v < 2048) : v.log2 ≤ 10 := by
  by_cases hzero : v = 0
  · subst hzero
    decide
  · exact Nat.le_of_lt_succ ((Nat.log2_lt hzero).2 hv)

/-- Below 2048 a bucket has one value. -/
theorem bucketHigh_eq {v : Nat} (hv : v < 2048) : bucketHigh v = v := by
  have hwidth : bucketWidth v = 1 := by
    rw [bucketWidth, Nat.sub_eq_zero_of_le (log2_le_of_lt hv), Nat.pow_eq, Nat.pow_zero]
  rw [bucketHigh, bucketLow, hwidth, Nat.mod_one]
  rfl

theorem bucketHigh_accurate {v : Nat} (hv : 0 < v) : 1024 * (bucketHigh v - v) < v := by
  obtain hsmall | hlarge := Nat.lt_or_ge v 2048
  · rw [bucketHigh_eq hsmall, Nat.sub_self]
    exact hv
  · have hlog : 11 ≤ v.log2 := (Nat.le_log2 hv.ne').2 hlarge
    have hwidth : 1024 * bucketWidth v = 2 ^ v.log2 := by
      rw [bucketWidth, show v.log2 = 10 + (v.log2 - 10) by omega, Nat.pow_add,
        Nat.add_sub_cancel_left]
      rfl
    have hbinade := Nat.log2_self_le hv.ne'
    have hrest : bucketHigh v - v < bucketWidth v := by
      have hlow := bucketLow_le v
      have hpos := bucketWidth_pos v
      rw [bucketHigh]
      omega
    omega

namespace Histogram

theorem count_enter (h : Histogram) (r : Recording) : (h.enter r).count = h.count + 1 := by
  have hlength := (expand_bump h.counts (bucketLow r.value)).length_eq
  rw [enter_eq, count, count, ← length_expand, ← length_expand]
  exact hlength

theorem recordMillis_eq (h : Histogram) (n : Nat) : h.recordMillis n = h.record (n * 1000) := by
  rw [recordMillis, record, tracked_min_wordMax, record]

theorem exists_quantile {q : Float} (hpos : 0.0 < q) (hle : q ≤ 1.0) :
    ∃ a, rational? q = some a ∧ 0 < a ∧ a ≤ 1 := by
  have hnumber := (ne_nan_of_le hle).1
  rw [lt_iff_place (ne_nan_of_rational? rational?_zero) hnumber,
    place_of_rational? rational?_zero] at hpos
  rw [le_iff_place hnumber (ne_nan_of_rational? rational?_one),
    place_of_rational? rational?_one] at hle
  have hbeyond : 1 < beyond := two_pow_lt_beyond (n := 0) (by decide)
  exact ⟨_, rational?_of_place hnumber (by linarith) (by linarith), hpos, hle⟩

/-- Every recording adds one value to any histogram, whatever the latency, and one in milliseconds
counts as its exact number of microseconds. A new histogram with some values gives, at any quantile
above zero, the value of its rank to one part in 1024, and exactly below 2048 microseconds. The rank
is calculated in floats (`rankOf_exact` compares it with the exact one); there is a value of that
rank as long as floats count the values exactly. -/
theorem quantile_accurate {q : Float} (hpos : 0.0 < q) (hle : q ≤ 1.0)
    (recordings : List Recording) :
    let h := after (recordings.map .record)
    let values := recordings.map Recording.value
    let rank := rankOf q values.length
    (∀ (other : Histogram) (r : Recording), (other.enter r).count = other.count + 1) ∧
    (∀ (other : Histogram) (n : Nat), other.recordMillis n = other.record (n * 1000)) ∧
    h.count = recordings.length ∧
    (∀ v, (ascending values)[rank - 1]? = some v →
      v ≤ h.quantile q ∧ 1024 * (h.quantile q - v) < v ∧ (v < 2048 → h.quantile q = v)) ∧
    (recordings ≠ [] → recordings.length < 2 ^ 53 →
      ∃ v, (ascending values)[rank - 1]? = some v) := by
  intro h values rank
  have hholds : h.Holds values values := by
    have hafter := holds_after (recordings.map .record)
    rwa [kept_record, seen_record] at hafter
  have hvalues : ∀ v ∈ values, 0 < v := by
    intro v hv
    obtain ⟨r, -, rfl⟩ := List.mem_map.1 hv
    exact r.value_within.1
  obtain ⟨a, hq, ha, hone⟩ := exists_quantile hpos hle
  refine ⟨count_enter, recordMillis_eq, ?_, fun v hv => ?_, fun hne hlt => ?_⟩
  · rw [hholds.count_eq, List.length_map]
  · have hquantile : h.quantile q = bucketHigh v := by
      rw [hholds.quantile_eq, quantileOf_eq hq ha hone, hv]
      rfl
    have hmem := (ascending_perm values).mem_iff.1 (List.mem_of_getElem? hv)
    rw [hquantile]
    exact ⟨le_bucketHigh v, bucketHigh_accurate (hvalues v hmem), bucketHigh_eq⟩
  · have hrank : rank ≤ values.length := by
      have hlength : values.length = recordings.length := List.length_map ..
      refine rankOf_le_of_rational? hq ha.le hone ?_ (hlength ▸ hlt)
      rw [hlength]
      exact mt List.length_eq_zero_iff.1 hne
    obtain ⟨v, -, hv, -⟩ := exists_quantileOf (not_gt_one hq hone) hrank
    exact ⟨v, hv⟩

/-- Three latencies and their median, which is the second. -/
theorem quantile_accurate_median :
    let recordings := [.micros 5000, .millis 3, .micros 1]
    let h := after (recordings.map .record)
    (0.0 : Float) < 0.5 ∧ (0.5 : Float) ≤ 1.0 ∧
      (ascending (recordings.map Recording.value))[rankOf 0.5 3 - 1]? = some 3000 ∧
      3000 ≤ h.quantile 0.5 ∧ 1024 * (h.quantile 0.5 - 3000) < 3000 := by
  intro recordings h
  have hpos : (0.0 : Float) < 0.5 := by decide
  have hle : (0.5 : Float) ≤ 1.0 := by decide
  have hsorted : ascending (recordings.map Recording.value) = [1, 3000, 5000] :=
    eq_of_ascending_perm (pairwise_ascending _) (by decide)
      ((ascending_perm _).trans (by decide))
  have hmedian : (ascending (recordings.map Recording.value))[rankOf 0.5 3 - 1]? = some 3000 := by
    rw [hsorted]
    decide +kernel
  obtain ⟨-, -, -, haccurate, -⟩ := quantile_accurate hpos hle recordings
  obtain ⟨hlow, hhigh, -⟩ := haccurate 3000 hmedian
  exact ⟨hpos, hle, hmedian, hlow, hhigh⟩

end Histogram

end Latency

end FedLoad
