import FedLoad.Proofs.Latency.History
import FedLoad.Proofs.Latency.Rank
import Mathlib.Algebra.Order.BigOperators.Group.List
/-!
# Readings in order

A larger percentage has no smaller rank, a larger rank no smaller value, a larger value no lower
bucket, and milliseconds are rounded in order; so percentiles ascend. Each of them, and the middle of
each bucket, lies within the bucket of a value, and the buckets of all values lie within those of
the extremes, which may have been recorded before the last clearing.

Ranks are calculated in floats. They are among the values as long as these are fewer than `2 ^ 53`,
and for the percentages of the statistics as long as they can be counted in sixty-four bits.

Main statement: `Histogram.readings_ordered`.
-/
namespace FedLoad

open Double

namespace Latency

open Histogram

/-! ## Quantiles of values -/

section Values

variable {values : List Nat} {q q' : Float} {a a' : ℚ}

theorem ascending_mono {i j v w : Nat} (hle : i ≤ j) (hv : (ascending values)[i]? = some v)
    (hw : (ascending values)[j]? = some w) : v ≤ w := by
  obtain ⟨hi, rfl⟩ := List.getElem?_eq_some_iff.1 hv
  obtain ⟨hj, rfl⟩ := List.getElem?_eq_some_iff.1 hw
  obtain heq | hlt := hle.eq_or_lt
  · subst heq
    exact Nat.le_refl _
  · exact List.pairwise_iff_getElem.1 (pairwise_ascending values) i j hi hj hlt

/-- A quantile with a rank among the values is read off the bucket of the value of that rank. -/
theorem exists_quantileOf (hq : ¬ q > 1.0) (hrank : rankOf q values.length ≤ values.length) :
    ∃ v ∈ values, (ascending values)[rankOf q values.length - 1]? = some v ∧
      quantileOf values q = if q == 0.0 then bucketLow v else bucketHigh v := by
  have hpos : 0 < rankOf q values.length := Nat.lt_of_lt_of_le Nat.one_pos (Nat.le_max_left ..)
  have hlt : rankOf q values.length - 1 < (ascending values).length := by
    rw [(ascending_perm values).length_eq]
    omega
  have hfound := List.getElem?_eq_getElem hlt
  refine ⟨_, (ascending_perm values).mem_iff.1 (List.getElem_mem hlt), hfound, ?_⟩
  rw [quantileOf, capped, if_neg hq, hfound]
  rfl

theorem quantileOf_within (hq : ¬ q > 1.0) (hrank : rankOf q values.length ≤ values.length) :
    ∃ v ∈ values, bucketLow v ≤ quantileOf values q ∧ quantileOf values q ≤ bucketHigh v := by
  obtain ⟨v, hv, -, hvalue⟩ := exists_quantileOf hq hrank
  have hle := Nat.le_trans (bucketLow_le v) (le_bucketHigh v)
  refine ⟨v, hv, ?_⟩
  rw [hvalue]
  split
  · exact ⟨Nat.le_refl _, hle⟩
  · exact ⟨hle, Nat.le_refl _⟩

theorem beq_zero_iff (hq : rational? q = some a) : (q == 0.0) = true ↔ a = 0 := by
  rw [beq_iff_compare, compare_place (ne_nan_of_rational? hq) (ne_nan_of_rational? rational?_zero),
    place_of_rational? hq, place_of_rational? rational?_zero, Option.some_inj, compare_eq_iff_eq]

/-- Above zero it is the high end of that bucket. -/
theorem quantileOf_eq (hq : rational? q = some a) (ha : 0 < a) (hone : a ≤ 1) :
    quantileOf values q =
      ((ascending values)[rankOf q values.length - 1]?.map bucketHigh).getD 0 := by
  have hzero : ¬ (q == 0.0) = true := mt (beq_zero_iff hq).1 ha.ne'
  rw [quantileOf, capped, if_neg (not_gt_one hq hone)]
  simp only [if_neg hzero]

theorem quantileOf_mono (hq : rational? q = some a) (hq' : rational? q' = some a') (ha : 0 ≤ a)
    (hle : a ≤ a') (hone : a' ≤ 1) (hvalues : values ≠ []) (hlt : values.length < 2 ^ 64)
    (hrank : rankOf q' values.length ≤ values.length) :
    quantileOf values q ≤ quantileOf values q' := by
  have hmono := rankOf_mono hq hq' ha hle hone (mt List.length_eq_zero_iff.1 hvalues) hlt
  obtain ⟨v, -, hv, hvalue⟩ :=
    exists_quantileOf (not_gt_one hq (hle.trans hone)) (hmono.trans hrank)
  obtain ⟨w, -, hw, hvalue'⟩ := exists_quantileOf (not_gt_one hq' hone) hrank
  have hvw := ascending_mono (Nat.sub_le_sub_right hmono 1) hv hw
  rw [hvalue, hvalue']
  by_cases hzero : a = 0
  · rw [if_pos ((beq_zero_iff hq).2 hzero)]
    split
    · exact bucketLow_mono hvw
    · exact (bucketLow_le v).trans (hvw.trans (le_bucketHigh w))
  · have hzero' : ¬ a' = 0 := fun h => hzero (le_antisymm (hle.trans_eq h) ha)
    rw [if_neg (mt (beq_zero_iff hq).1 hzero), if_neg (mt (beq_zero_iff hq').1 hzero')]
    exact bucketHigh_mono hvw

end Values

/-! ## Milliseconds -/

namespace Histogram

theorem exists_millis {n : Nat} (hn : n < 2 ^ 53) :
    ∃ r, Rounded (n / 1000) r ∧ rational? (millis n) = some r := by
  have hthousand : rational? 1000.0 = some 1000 := by decide +kernel
  exact rational?_div (rational?_floatOfNat hn) (Nat.cast_nonneg n) hthousand (by norm_num)

theorem millis_mono {m n : Nat} (h : m ≤ n) (hn : n < 2 ^ 53) : millis m ≤ millis n := by
  obtain ⟨r, hround, hr⟩ := exists_millis (h.trans_lt hn)
  obtain ⟨t, hround', ht⟩ := exists_millis hn
  rw [le_iff_place (ne_nan_of_rational? hr) (ne_nan_of_rational? ht), place_of_rational? hr,
    place_of_rational? ht]
  exact hround.mono hround' (by gcongr)

/-- As long as floats tell thousandths apart, they tell these milliseconds apart. -/
theorem millis_lt {m n : Nat} (h : m < n) (hn : n < 2 ^ 40) : millis m < millis n := by
  obtain ⟨r, hround, hr⟩ := exists_millis (h.trans (hn.trans (by decide)))
  obtain ⟨t, hround', ht⟩ := exists_millis (hn.trans (by decide))
  rw [lt_iff_place (ne_nan_of_rational? hr) (ne_nan_of_rational? ht), place_of_rational? hr,
    place_of_rational? ht]
  -- two neighbours on a grid of 4096ths lie between one value and the next
  obtain ⟨k, hk, hk'⟩ : ∃ k, 4096 * m ≤ 1000 * k ∧ 1000 * (k + 1) ≤ 4096 * n :=
    ⟨(4096 * m + 999) / 1000, by omega, by omega⟩
  have hgrid {j : Nat} (hj : j ≤ k + 1) : Rounded (j * 2 ^ (-12 : Int)) (j * 2 ^ (-12 : Int)) :=
    rounded_self (by omega) (by decide)
  have hunit : (2 : ℚ) ^ (-12 : Int) = 1 / 4096 := by norm_num
  have hlow : (m : ℚ) / 1000 ≤ k * 2 ^ (-12 : Int) := by
    have hcast : (4096 * m : ℚ) ≤ 1000 * k := by exact_mod_cast hk
    rw [hunit]
    linarith
  have hhigh : ((k + 1 : Nat) * 2 ^ (-12 : Int) : ℚ) ≤ n / 1000 := by
    have hcast : (1000 * (k + 1 : Nat) : ℚ) ≤ 4096 * n := by exact_mod_cast hk'
    rw [hunit]
    linarith
  calc r ≤ k * 2 ^ (-12 : Int) := hround.mono (hgrid (Nat.le_succ k)) hlow
    _ < (k + 1 : Nat) * 2 ^ (-12 : Int) := by
      rw [hunit]
      push_cast
      linarith
    _ ≤ t := (hgrid (Nat.le_refl _)).mono hround' hhigh

theorem millis_inj {m n : Nat} (hm : m < 2 ^ 40) (hn : n < 2 ^ 40) :
    millis m = millis n ↔ m = n := by
  have hirrefl : ¬ millis n < millis n := by
    obtain ⟨t, -, ht⟩ := exists_millis (hn.trans (by decide))
    rw [lt_iff_place (ne_nan_of_rational? ht) (ne_nan_of_rational? ht)]
    exact lt_irrefl _
  refine ⟨fun h => ?_, fun h => h ▸ rfl⟩
  obtain hlt | heq | hgt := lt_trichotomy m n
  · have hbefore := millis_lt hlt hn
    rw [h] at hbefore
    exact absurd hbefore hirrefl
  · exact heq
  · have hbehind := millis_lt hgt hm
    rw [h] at hbehind
    exact absurd hbehind hirrefl

/-! ## Readings -/

section Readings

variable {h : Histogram} {values all : List Nat}

theorem isSome_reading {α : Type} (hh : h.Holds values all) (value : α) :
    (h.reading value).isSome = decide (0 < h.count) := by
  rw [reading, hh.isEmpty_eq, hh.count_eq]
  cases values with
  | nil => rfl
  | cons v rest => exact (decide_eq_true (Nat.succ_pos _)).symm

theorem reading_eq {α : Type} (hh : h.Holds values all) (hvalues : values ≠ []) (value : α) :
    h.reading value = some value := by
  rw [reading, hh.isEmpty_eq, List.isEmpty_eq_false_iff.2 hvalues]
  rfl

/-- A mean lies between what all its parts lie between. -/
theorem mean_within (hh : h.Holds values all) (hvalues : values ≠ [])
    (hall : ∀ v ∈ values, v ∈ all) : h.least ≤ h.mean ℚ ∧ h.mean ℚ ≤ h.most := by
  have hlength : (0 : ℚ) < values.length := by
    exact_mod_cast List.length_pos_of_ne_nil hvalues
  have hlow : ∀ x ∈ values.map fun v => (bucketMid v : ℚ), (h.least : ℚ) ≤ x := by
    intro x hx
    obtain ⟨v, hv, rfl⟩ := List.mem_map.1 hx
    have hle : bucketLow v ≤ bucketMid v := Nat.le_add_right _ _
    exact_mod_cast (hh.within (hall v hv)).1.trans hle
  have hhigh : ∀ x ∈ values.map fun v => (bucketMid v : ℚ), x ≤ (h.most : ℚ) := by
    intro x hx
    obtain ⟨v, hv, rfl⟩ := List.mem_map.1 hx
    exact_mod_cast (bucketMid_le v).trans (hh.within (hall v hv)).2
  have hsum := List.card_nsmul_le_sum _ _ hlow
  have hsum' := List.sum_le_card_nsmul _ _ hhigh
  rw [List.length_map, nsmul_eq_mul, mul_comm] at hsum hsum'
  rw [hh.mean_exact]
  exact ⟨(le_div_iff₀ hlength).2 hsum, (div_le_iff₀ hlength).2 hsum'⟩

end Readings

end Histogram

/-- Do the statistics ascend? -/
structure Stats.Ordered (s : Stats) : Prop where
  least_le : s.least ≤ s.p50
  p50_le : s.p50 ≤ s.p90
  p90_le : s.p90 ≤ s.p95
  p95_le : s.p95 ≤ s.p99
  p99_le : s.p99 ≤ s.p999
  p999_le : s.p999 ≤ s.most

namespace Histogram

variable {h : Histogram} {values all : List Nat}

theorem ordered_stats (hh : h.Holds values all) (hvalues : values ≠ [])
    (hall : ∀ v ∈ values, v ∈ all) (hlt : values.length < 2 ^ 64) {s : Stats}
    (hs : h.stats = some s) : s.Ordered := by
  have hn : values.length ≠ 0 := mt List.length_eq_zero_iff.1 hvalues
  have h50 : rational? 0.5 = some (1 / 2) := by decide +kernel
  have h90 : rational? 0.9 = some (8106479329266893 / 2 ^ 53) := by decide +kernel
  have h95 : rational? 0.95 = some (8556839292003942 / 2 ^ 53) := by decide +kernel
  have h99 : rational? 0.99 = some (8917127262193582 / 2 ^ 53) := by decide +kernel
  have h999 : rational? 0.999 = some (8998192055486251 / 2 ^ 53) := by decide +kernel
  have hrank {q : Float} {a : ℚ} (hq : rational? q = some a) (ha : 0 ≤ a) (hle : a ≤ 999 / 1000) :=
    rankOf_le_of_le hq ha hle hn hlt
  have hmono {q q' : Float} {a a' : ℚ} (hq : rational? q = some a) (hq' : rational? q' = some a')
      (ha : 0 ≤ a) (hle : a ≤ a') (hmost : a' ≤ 999 / 1000) : h.quantile q ≤ h.quantile q' := by
    rw [hh.quantile_eq, hh.quantile_eq]
    exact quantileOf_mono hq hq' ha hle (hmost.trans (by norm_num)) hvalues hlt
      (hrank hq' (ha.trans hle) hmost)
  have hwithin {q : Float} {a : ℚ} (hq : rational? q = some a) (ha : 0 ≤ a)
      (hle : a ≤ 999 / 1000) : h.least ≤ h.quantile q ∧ h.quantile q ≤ h.most := by
    obtain ⟨v, hv, hlow, hhigh⟩ := quantileOf_within (not_gt_one hq (hle.trans (by norm_num)))
      (hrank hq ha hle)
    rw [hh.quantile_eq]
    exact ⟨(hh.within (hall v hv)).1.trans hlow, hhigh.trans (hh.within (hall v hv)).2⟩
  rw [stats, reading_eq hh hvalues] at hs
  obtain rfl := Option.some_inj.1 hs
  exact {
    least_le := (hwithin h50 (by norm_num) (by norm_num)).1
    p50_le := hmono h50 h90 (by norm_num) (by norm_num) (by norm_num)
    p90_le := hmono h90 h95 (by norm_num) (by norm_num) (by norm_num)
    p95_le := hmono h95 h99 (by norm_num) (by norm_num) (by norm_num)
    p99_le := hmono h99 h999 (by norm_num) (by norm_num) (by norm_num)
    p999_le := (hwithin h999 (by norm_num) (by norm_num)).2 }

/-! ## Percentiles -/

/-- Has a percentage a rank among `n` values? -/
def Ranked (p : Float) (n : Nat) : Prop := rankOf (clampPercent p / 100.0) n ≤ n

theorem percentile_mono (hh : h.Holds values all) (hvalues : values ≠ [])
    (hlt : values.length < 2 ^ 64) {p p' : Float} (hle : p ≤ p') (hrank : Ranked p' values.length) :
    h.quantile (clampPercent p / 100.0) ≤ h.quantile (clampPercent p' / 100.0) := by
  obtain ⟨hp, hp'⟩ := ne_nan_of_le hle
  have hplace := (le_iff_place hp hp').1 hle
  obtain ⟨a, hround, hq, hnonneg, -⟩ := exists_percent hp
  obtain ⟨a', hround', hq', -, hone⟩ := exists_percent hp'
  have hparts : a ≤ a' := hround.mono hround' (by gcongr)
  rw [hh.quantile_eq, hh.quantile_eq]
  exact quantileOf_mono hq hq' hnonneg hparts hone hvalues hlt hrank

theorem percentile_within (hh : h.Holds values all) (hall : ∀ v ∈ values, v ∈ all) {p : Float}
    (hrank : Ranked p values.length) :
    h.least ≤ h.quantile (clampPercent p / 100.0) ∧
      h.quantile (clampPercent p / 100.0) ≤ h.most := by
  obtain ⟨v, hv, hlow, hhigh⟩ := quantileOf_within (not_percent_gt_one p) hrank
  rw [hh.quantile_eq]
  exact ⟨(hh.within (hall v hv)).1.trans hlow, hhigh.trans (hh.within (hall v hv)).2⟩

/-- Readings are there exactly if something is counted, and then they are in order, whatever was
recorded and cleared before: the mean, calculated exactly, and every percentile lie between the
extremes, and percentiles ascend with the percentage, of which those outside 0 to 100 count as the
nearer end. A count has sixty-four bits; a percentage past 99.9 may lack a rank among the values from
`2 ^ 53` of them on, where floats no longer count exactly. -/
theorem readings_ordered (uses : List Use) :
    let h := after uses
    (h.stats.isSome = decide (0 < h.count) ∧ h.meanMillis.isSome = decide (0 < h.count) ∧
      h.leastMillis.isSome = decide (0 < h.count) ∧ h.mostMillis.isSome = decide (0 < h.count) ∧
      ∀ p, (h.percentileMillis p).isSome = decide (0 < h.count)) ∧
    (0 < h.count →
      (h.least ≤ h.mean ℚ ∧ h.mean ℚ ≤ h.most) ∧
      (h.count < 2 ^ 64 →
        (∀ s, h.stats = some s → s.Ordered) ∧
        (∀ p p', p ≤ p' → Ranked p' h.count →
          ∃ x x', h.percentileMillis p = some x ∧ h.percentileMillis p' = some x' ∧ x ≤ x') ∧
        ∀ p, Ranked p h.count → ∃ low x high, h.leastMillis = some low ∧
          h.percentileMillis p = some x ∧ h.mostMillis = some high ∧ low ≤ x ∧ x ≤ high) ∧
      (h.count < 2 ^ 53 → ∀ p, Ranked p h.count)) := by
  intro h
  have hh : h.Holds (kept uses) (seen uses) := holds_after uses
  have hall : ∀ v ∈ kept uses, v ∈ seen uses := fun v hv => (kept_suffix uses).subset hv
  refine ⟨⟨isSome_reading hh _, isSome_reading hh _, isSome_reading hh _, isSome_reading hh _,
    fun p => isSome_reading hh _⟩, fun hcount => ?_⟩
  rw [hh.count_eq] at hcount ⊢
  have hvalues : kept uses ≠ [] := List.ne_nil_of_length_pos hcount
  have hreading {α : Type} (value : α) := reading_eq hh hvalues value
  have hmost : h.most < 2 ^ 53 := by
    have hseen : seen uses ≠ [] := fun hnil => hvalues (by simpa [hnil] using kept_suffix uses)
    obtain ⟨v, hv, hvalue⟩ := hh.most_mem hseen
    have hlarge : 2 * longest < 2 ^ 53 := by decide
    have hle := (within_of_mem_seen hv).2
    have hhigh := bucketHigh_le v
    omega
  refine ⟨mean_within hh hvalues hall, fun hlt => ⟨fun s hs => ordered_stats hh hvalues hall hlt hs,
    fun p p' hle hrank => ?_, fun p hrank => ?_⟩, fun hlt p => rankOf_percent_le p hcount.ne' hlt⟩
  · have hbound := (percentile_within hh hall hrank).2
    exact ⟨_, _, hreading _, hreading _,
      millis_mono (percentile_mono hh hvalues hlt hle hrank) (hbound.trans_lt hmost)⟩
  · obtain ⟨hlow, hhigh⟩ := percentile_within hh hall hrank
    exact ⟨_, _, _, hreading _, hreading _, hreading _,
      millis_mono hlow (hhigh.trans_lt hmost), millis_mono hhigh hmost⟩

/-- A value from before the clearing remains the largest and is past every percentile. -/
theorem readings_ordered_cleared :
    let h := after [.record (.millis 2), .clear, .record (.micros 5), .record (.micros 1000)]
    0 < h.count ∧ h.count < 2 ^ 53 ∧ (∃ s, h.stats = some s ∧ s.Ordered) ∧
      (h.least ≤ h.mean ℚ ∧ h.mean ℚ ≤ h.most) ∧
      ∃ x x', h.percentileMillis 50.0 = some x ∧ h.percentileMillis 100.0 = some x' ∧ x ≤ x' := by
  intro h
  have hcount : h.count = 2 := by decide +kernel
  have hpos : 0 < h.count := hcount ▸ Nat.two_pos
  have hlt : h.count < 2 ^ 53 := hcount ▸ (by decide)
  have hle : (50.0 : Float) ≤ 100.0 := by decide
  obtain ⟨⟨hstats, -⟩, hordered⟩ := readings_ordered
    [.record (.millis 2), .clear, .record (.micros 5), .record (.micros 1000)]
  obtain ⟨hmean, hcounted, hranked⟩ := hordered hpos
  obtain ⟨hascend, hmono, -⟩ := hcounted (hlt.trans (by decide))
  obtain ⟨s, hs⟩ := Option.isSome_iff_exists.1 (hstats.trans (decide_eq_true hpos))
  exact ⟨hpos, hlt, ⟨s, hs, hascend s hs⟩, hmean, hmono 50.0 100.0 hle (hranked hlt 100.0)⟩

end Histogram

end Latency

end FedLoad
