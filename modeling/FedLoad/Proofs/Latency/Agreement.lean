import FedLoad.Proofs.Latency.Ordered
import FedLoad.Threshold.Basic
/-!
# Percentiles of the statistics and of the thresholds

Statistics are read at quantiles written as such, while a percentage that is asked for is divided by
a hundred. For 50, 90, 95 and 99 the quotient is the float written; for 99.9 it is the next float
above. Its rank is the same unless the number of values is a multiple of a thousand, where it may be
one more. The readings differ where the values of the two ranks lie in different buckets.

Main statement: `Histogram.percentiles_agree_iff`.
-/
namespace FedLoad

open Double

namespace Latency.Histogram

/-! ## Ranks near 999 in a thousand -/

section Ranks

variable {q : Float} {a : ℚ} {n : Nat}

theorem rational?_permille : rational? 0.999 = some (8998192055486251 / 2 ^ 53) := by decide +kernel

theorem rational?_percent_permille :
    rational? (99.9 / 100.0) = some (8998192055486252 / 2 ^ 53) := by decide +kernel

/-- The float nearest to 0.999 is below it, but by too little to lose a rank. -/
theorem permille_le_rankOf (hq : rational? q = some a) (hlow : 8998192055486251 / 2 ^ 53 ≤ a)
    (hone : a ≤ 1) (hn : n ≠ 0) (hlt : n < 2 ^ 40) : (999 * n + 999) / 1000 ≤ rankOf q n := by
  obtain ⟨k, hk, hbelow⟩ : ∃ k, (999 * n + 999) / 1000 = k + 1 ∧ 1000 * k + 1 ≤ 999 * n :=
    ⟨(999 * n - 1) / 1000, by omega, by omega⟩
  have hnonneg : 0 ≤ a := le_trans (by norm_num) hlow
  have hunit : (2 : ℚ) ^ (-10 : Int) = 1 / 1024 := by norm_num
  -- behind the whole number `k` there is a float that the product does not fall short of
  have hgrid : ((1024 * k + 1 : Nat) * 2 ^ (-10 : Int) : ℚ) ≤ a * n := by
    have hbelow : (1000 * k + 1 : ℚ) ≤ 999 * n := by exact_mod_cast hbelow
    have hlt : (n : ℚ) < 2 ^ 40 := by exact_mod_cast hlt
    have hproduct := mul_le_mul_of_nonneg_right hlow (Nat.cast_nonneg n)
    rw [hunit]
    push_cast
    linarith
  have hbehind : (k : ℚ) < (1024 * k + 1 : Nat) * 2 ^ (-10 : Int) := by
    rw [hunit]
    push_cast
    linarith
  have hceil := ceil_le_rankOf hq hnonneg hone hn (hlt.trans (by decide)) (by omega) (by decide)
    hgrid
  rw [hk]
  exact (Nat.lt_ceil.2 hbehind).trans_le hceil

theorem rankOf_permille (hn : n ≠ 0) (hlt : n < 2 ^ 40) :
    rankOf 0.999 n = (999 * n + 999) / 1000 := by
  have habove : (999 * n : ℚ) ≤ 1000 * ((999 * n + 999) / 1000 : Nat) := by
    exact_mod_cast (by omega : 999 * n ≤ 1000 * ((999 * n + 999) / 1000))
  refine Nat.le_antisymm ?_
    (permille_le_rankOf rational?_permille le_rfl (by norm_num) hn hlt)
  refine rankOf_le_of_mul_le rational?_permille (by norm_num) (by norm_num) hn
    (hlt.trans (by decide)) (by omega) ?_
  linarith

/-- The next float above it gains a rank only among multiples of a thousand. -/
theorem rankOf_percent_permille (hn : n ≠ 0) (hlt : n < 2 ^ 40) :
    rankOf (99.9 / 100.0) n = rankOf 0.999 n ∨
      1000 ∣ n ∧ rankOf (99.9 / 100.0) n = rankOf 0.999 n + 1 := by
  have hmore := permille_le_rankOf rational?_percent_permille (by norm_num) (by norm_num) hn hlt
  have hle {k : Nat} (hk : 0 < k) (hle : (8998192055486252 / 2 ^ 53 * n : ℚ) ≤ k) :
      rankOf (99.9 / 100.0) n ≤ k :=
    rankOf_le_of_mul_le rational?_percent_permille (by norm_num) (by norm_num) hn
      (hlt.trans (by decide)) hk hle
  have hcast : (n : ℚ) < 2 ^ 40 := by exact_mod_cast hlt
  rw [rankOf_permille hn hlt]
  by_cases hdvd : 1000 ∣ n
  · have habove : (999 * n : ℚ) ≤ 1000 * ((999 * n + 999) / 1000 : Nat) := by
      exact_mod_cast (by omega : 999 * n ≤ 1000 * ((999 * n + 999) / 1000))
    have hnext := hle (k := (999 * n + 999) / 1000 + 1) (Nat.succ_pos _) (by push_cast; linarith)
    omega
  · have habove : (999 * n + 1 : ℚ) ≤ 1000 * ((999 * n + 999) / 1000 : Nat) := by
      exact_mod_cast (by omega : 999 * n + 1 ≤ 1000 * ((999 * n + 999) / 1000))
    exact .inl (Nat.le_antisymm (hle (by omega) (by linarith)) hmore)

end Ranks

/-! ## Readings -/

section Readings

variable {h : Histogram} {values all : List Nat}

theorem map_reading {α β : Type} (h : Histogram) (f : α → β) (value : α) :
    (h.reading value).map f = h.reading (f value) := by
  unfold reading
  split <;> rfl

/-- Values share a bucket if and only if it ends at the same place. -/
theorem ends_eq_iff {x y : Option Nat} (hx : ∀ v ∈ x, 0 < v) (hy : ∀ v ∈ y, 0 < v) :
    (x.map bucketHigh).getD 0 = (y.map bucketHigh).getD 0 ↔ x.map bucketLow = y.map bucketLow := by
  have hpos {v : Nat} (hv : 0 < v) : bucketHigh v ≠ 0 := (hv.trans_le (le_bucketHigh v)).ne'
  cases x with
  | none =>
    cases y with
    | none => exact iff_of_true rfl rfl
    | some w => exact iff_of_false (hpos (hy w rfl)).symm nofun
  | some v =>
    cases y with
    | none => exact iff_of_false (hpos (hx v rfl)) nofun
    | some w => exact bucketHigh_eq_iff.trans Option.some_inj.symm

/-- Readings in milliseconds at two quantiles are the same if the values of their ranks share a
bucket, and only then. -/
theorem reading_quantile_eq_iff (hh : h.Holds values all)
    (hvalues : ∀ v ∈ values, 0 < v ∧ v ≤ longest) {q q' : Float} {a a' : ℚ}
    (hq : rational? q = some a) (ha : 0 < a) (hone : a ≤ 1)
    (hq' : rational? q' = some a') (ha' : 0 < a') (hone' : a' ≤ 1) :
    h.reading (millis (h.quantile q)) = h.reading (millis (h.quantile q')) ↔
      (ascending values)[rankOf q h.count - 1]?.map bucketLow =
        (ascending values)[rankOf q' h.count - 1]?.map bucketLow := by
  by_cases hnil : values = []
  · subst hnil
    have hempty (value : Float) : h.reading value = none := by
      rw [reading, hh.isEmpty_eq]
      exact if_pos rfl
    rw [hempty, hempty, ascending_nil, List.getElem?_nil, List.getElem?_nil]
    exact iff_of_true rfl rfl
  · have hmem {i v : Nat} (hv : (ascending values)[i]? = some v) : 0 < v :=
      (hvalues v ((ascending_perm values).mem_iff.1 (List.mem_of_getElem? hv))).1
    have hsmall (q : Float) : quantileOf values q < 2 ^ 40 := by
      have hlarge : 2 * longest < 2 ^ 40 := by decide
      refine (quantileOf_le (fun v hv => (bucketHigh_le v).trans ?_) q).trans_lt hlarge
      exact Nat.mul_le_mul_left 2 (hvalues v hv).2
    rw [reading_eq hh hnil, reading_eq hh hnil, Option.some_inj, hh.quantile_eq, hh.quantile_eq,
      millis_inj (hsmall q) (hsmall q'), quantileOf_eq hq ha hone, quantileOf_eq hq' ha' hone',
      hh.count_eq]
    exact ends_eq_iff (fun _ => hmem) fun _ => hmem

end Readings

/-- For any uses, a percentage of 50, 90, 95 or 99 is read exactly as the statistics have it, and the
median exactly as the percentage of 50. The percentage of 99.9 is so if and only if the value of its
rank shares a bucket with the value that the statistics are read off; this is so for every number of
values that is no multiple of a thousand. -/
theorem percentiles_agree_iff (uses : List Use) :
    let h := after uses
    let bucket (q : Float) := (ascending (kept uses))[rankOf q h.count - 1]?.map bucketLow
    (h.percentileMillis 50.0 = h.stats.map (fun s => millis s.p50) ∧
      h.percentileMillis 90.0 = h.stats.map (fun s => millis s.p90) ∧
      h.percentileMillis 95.0 = h.stats.map (fun s => millis s.p95) ∧
      h.percentileMillis 99.0 = h.stats.map (fun s => millis s.p99)) ∧
    (h.percentileMillis 99.9 = h.stats.map (fun s => millis s.p999) ↔
      bucket (99.9 / 100.0) = bucket 0.999) ∧
    (¬ 1000 ∣ h.count → h.count < 2 ^ 40 →
      h.percentileMillis 99.9 = h.stats.map (fun s => millis s.p999)) ∧
    Threshold.ofLatencies h (.percentile 50.0) = Threshold.ofLatencies h .med := by
  intro h bucket
  have h50 : clampPercent 50.0 / 100.0 = 0.5 := by decide +kernel
  have h90 : clampPercent 90.0 / 100.0 = 0.9 := by decide +kernel
  have h95 : clampPercent 95.0 / 100.0 = 0.95 := by decide +kernel
  have h99 : clampPercent 99.0 / 100.0 = 0.99 := by decide +kernel
  have h999 : clampPercent 99.9 = 99.9 := by decide +kernel
  have hiff : h.percentileMillis 99.9 = h.stats.map (fun s => millis s.p999) ↔
      bucket (99.9 / 100.0) = bucket 0.999 := by
    rw [percentileMillis, h999, stats, map_reading]
    exact reading_quantile_eq_iff (holds_after uses)
      (fun v hv => within_of_mem_seen ((kept_suffix uses).subset hv)) rational?_percent_permille
      (by norm_num) (by norm_num) rational?_permille (by norm_num) (by norm_num)
  refine ⟨⟨?_, ?_, ?_, ?_⟩, hiff, fun hdvd hlt => hiff.2 ?_, rfl⟩
  · rw [percentileMillis, h50, stats, map_reading]
  · rw [percentileMillis, h90, stats, map_reading]
  · rw [percentileMillis, h95, stats, map_reading]
  · rw [percentileMillis, h99, stats, map_reading]
  · have hcount : h.count ≠ 0 := fun hzero => hdvd (hzero ▸ Nat.dvd_zero 1000)
    have hrank := (rankOf_percent_permille hcount hlt).resolve_right fun hmore => hdvd hmore.1
    exact congrArg (fun rank => (ascending (kept uses))[rank - 1]?.map bucketLow) hrank

/-- The slowest of a thousand values is at one of the two ranks and past the other. -/
theorem not_percentiles_agree :
    let h := after (List.replicate 999 (.record (.micros 1)) ++ [.record (.micros 2)])
    h.percentileMillis 99.9 ≠ h.stats.map (fun s => millis s.p999) := by
  decide +kernel

end Latency.Histogram

end FedLoad
