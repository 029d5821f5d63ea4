import FedLoad.Proofs.Decimal.Rounded
import FedLoad.Proofs.Latency.Samples
/-!
# Ranks

The rank of a quantile is a product of floats, rounded up. Products are rounded in order, so that
larger quantiles have no smaller ranks. As long as the number of values is a float itself, no product
is rounded past a whole number: the rank is among the values, and it is the exact one, or one less
where a product just above a whole number is rounded to it. Beyond that the number of values may be
rounded up, and the rank of the last quantiles with it; but a quantile of at most 0.999 leaves room
for that in any count of sixty-four bits.

Main statements: `Histogram.rankOf_mono`, `Histogram.rankOf_exact` and `Histogram.rankOf_le_of_le`.
-/
namespace FedLoad

open Float.Model Float.Model.UnpackedFloat

open Double

namespace Latency.Histogram

section Ranks

variable {q q' : Float} {a a' : ℚ} {n : Nat}

/-- A rank is the product with the number of values, rounded to a float and then up. -/
theorem exists_rankOf (hq : rational? q = some a) (ha : 0 ≤ a) (hone : a ≤ 1) (hn : n ≠ 0)
    (hlt : n < 2 ^ 64) :
    ∃ total r, Rounded n total ∧ Rounded (a * total) r ∧ rankOf q n = max 1 ⌈r⌉₊ := by
  obtain ⟨total, hround, htotal⟩ := exists_rational?_floatOfNat hlt
  have hpos : (1 : ℚ) ≤ total :=
    rounded_one.mono hround (by exact_mod_cast Nat.pos_of_ne_zero hn)
  obtain ⟨r, hproduct, hr⟩ := rational?_mul hq ha hone htotal (zero_lt_one.trans_le hpos)
  exact ⟨total, r, hround, hproduct, by rw [rankOf, ceilNat_eq hr]⟩

theorem rankOf_mono (hq : rational? q = some a) (hq' : rational? q' = some a') (ha : 0 ≤ a)
    (hle : a ≤ a') (hone : a' ≤ 1) (hn : n ≠ 0) (hlt : n < 2 ^ 64) : rankOf q n ≤ rankOf q' n := by
  obtain ⟨total, r, htotal, hr, hrank⟩ := exists_rankOf hq ha (hle.trans hone) hn hlt
  obtain ⟨total', r', htotal', hr', hrank'⟩ := exists_rankOf hq' (ha.trans hle) hone hn hlt
  obtain rfl := htotal.unique htotal'
  rw [hrank, hrank']
  exact max_le_max_left 1 (Nat.ceil_mono (hr.mono hr' (by gcongr; exact htotal.nonneg)))

/-- As long as floats count exactly, a rank is the exact product, rounded to a float and then up. -/
theorem exists_rankOf_of_lt (hq : rational? q = some a) (ha : 0 ≤ a) (hone : a ≤ 1) (hn : n ≠ 0)
    (hlt : n < 2 ^ 53) : ∃ r, Rounded (a * n) r ∧ rankOf q n = max 1 ⌈r⌉₊ := by
  obtain ⟨total, r, htotal, hr, hrank⟩ := exists_rankOf hq ha hone hn (hlt.trans (by decide))
  obtain rfl := htotal.unique (rounded_natCast hlt)
  exact ⟨r, hr, hrank⟩

/-- A product is not rounded above a whole number. -/
theorem rankOf_le_of_mul_le (hq : rational? q = some a) (ha : 0 ≤ a) (hone : a ≤ 1) (hn : n ≠ 0)
    (hlt : n < 2 ^ 53) {k : Nat} (hk : 0 < k) (hle : a * n ≤ k) : rankOf q n ≤ k := by
  obtain ⟨r, hr, hrank⟩ := exists_rankOf_of_lt hq ha hone hn hlt
  rw [hrank]
  refine Nat.max_le.2 ⟨hk, Nat.ceil_le.2 ?_⟩
  obtain hsmall | hlarge := Nat.lt_or_ge k (2 ^ 53)
  · exact hr.mono (rounded_natCast hsmall) hle
  · have hmost : a * n ≤ n := mul_le_of_le_one_left (Nat.cast_nonneg n) hone
    exact (hr.mono (rounded_natCast hlt) hmost).trans (by exact_mod_cast (hlt.trans_le hlarge).le)

/-- A product is not rounded below a float. -/
theorem ceil_le_rankOf (hq : rational? q = some a) (ha : 0 ≤ a) (hone : a ≤ 1) (hn : n ≠ 0)
    (hlt : n < 2 ^ 53) {k : Nat} {e : Int} (hk : k < 2 ^ 53) (he : -1074 ≤ e)
    (hle : k * 2 ^ e ≤ a * n) : ⌈(k * 2 ^ e : ℚ)⌉₊ ≤ rankOf q n := by
  obtain ⟨r, hr, hrank⟩ := exists_rankOf_of_lt hq ha hone hn hlt
  rw [hrank]
  exact (Nat.ceil_mono ((rounded_self hk he).mono hr hle)).trans (Nat.le_max_right ..)

/-- As long as floats count exactly, a rank is the exact one, or one less. -/
theorem rankOf_exact (hq : rational? q = some a) (ha : 0 ≤ a) (hone : a ≤ 1) (hn : n ≠ 0)
    (hlt : n < 2 ^ 53) :
    rankOf q n ≤ max 1 ⌈a * n⌉₊ ∧ max 1 ⌈a * n⌉₊ ≤ rankOf q n + 1 := by
  have hnonneg : 0 ≤ a * n := mul_nonneg ha (Nat.cast_nonneg n)
  have hfloor : ⌊a * n⌋₊ < 2 ^ 53 := by
    refine (Nat.floor_le_of_le ?_).trans_lt hlt
    exact mul_le_of_le_one_left (Nat.cast_nonneg n) hone
  have hlow := ceil_le_rankOf hq ha hone hn hlt (e := 0) hfloor (by decide)
    (by simpa using Nat.floor_le hnonneg)
  rw [zpow_zero, mul_one, Nat.ceil_natCast] at hlow
  have hceil := Nat.ceil_le_floor_add_one (a * n)
  refine ⟨rankOf_le_of_mul_le hq ha hone hn hlt (Nat.lt_of_lt_of_le Nat.one_pos
    (Nat.le_max_left ..)) ?_, by omega⟩
  exact (Nat.le_ceil _).trans (by exact_mod_cast Nat.le_max_right ..)

/-- As long as floats count exactly, no rank is past the last value. -/
theorem rankOf_le_of_rational? (hq : rational? q = some a) (ha : 0 ≤ a) (hone : a ≤ 1) (hn : n ≠ 0)
    (hlt : n < 2 ^ 53) : rankOf q n ≤ n :=
  rankOf_le_of_mul_le hq ha hone hn hlt (Nat.pos_of_ne_zero hn)
    (mul_le_of_le_one_left (Nat.cast_nonneg n) hone)

/-- Below the last part in a thousand, no rank is past the last value of as many as can be counted:
what rounding adds is less than that part. -/
theorem rankOf_le_of_le (hq : rational? q = some a) (ha : 0 ≤ a) (hle : a ≤ 999 / 1000)
    (hn : n ≠ 0) (hlt : n < 2 ^ 64) : rankOf q n ≤ n := by
  have hone : (1 : ℚ) ≤ n := by exact_mod_cast Nat.pos_of_ne_zero hn
  obtain ⟨total, r, htotal, hr, hrank⟩ := exists_rankOf hq ha (hle.trans (by norm_num)) hn hlt
  rw [hrank]
  refine Nat.max_le.2 ⟨Nat.pos_of_ne_zero hn, Nat.ceil_le.2 ?_⟩
  obtain hsmall | hlarge := le_total (a * total) 1
  · exact (hr.mono rounded_one hsmall).trans hone
  · have hcount := htotal.mul_le hone
    have hproduct := hr.mul_le hlarge
    have hpart := mul_le_mul_of_nonneg_right hle htotal.nonneg
    linarith

theorem not_gt_one (hq : rational? q = some a) (hone : a ≤ 1) : ¬ q > 1.0 := by
  rw [gt_iff_lt, lt_iff_place (ne_nan_of_rational? rational?_one) (ne_nan_of_rational? hq),
    place_of_rational? rational?_one, place_of_rational? hq]
  exact not_lt.2 hone

end Ranks

/-! ## Percentages -/

section Percent

variable {p : Float} {n : Nat}

theorem rational?_hundred : rational? 100.0 = some 100 := by decide +kernel

theorem rational?_clampPercent (hp : ofFloat p ≠ .nan) :
    rational? (clampPercent p) = some (max 0 (min (ofFloat p).place 100)) := by
  have hlow : p < 0.0 ↔ (ofFloat p).place < 0 := by
    rw [lt_iff_place hp (ne_nan_of_rational? rational?_zero), place_of_rational? rational?_zero]
  have hhigh : p > 100.0 ↔ 100 < (ofFloat p).place := by
    rw [gt_iff_lt, lt_iff_place (ne_nan_of_rational? rational?_hundred) hp,
      place_of_rational? rational?_hundred]
  have hbeyond : 100 < beyond := lt_trans (by norm_num) (two_pow_lt_beyond (n := 7) (by decide))
  unfold clampPercent
  split
  · next hnegative =>
    rw [rational?_zero, max_eq_left (min_le_of_left_le (hlow.1 hnegative).le)]
  · next hnegative =>
    have hnonneg := not_lt.1 (mt hlow.2 hnegative)
    split
    · next hlarge =>
      rw [rational?_hundred, min_eq_right (hhigh.1 hlarge).le]
      rfl
    · next hlarge =>
      have hmost := not_lt.1 (mt hhigh.2 hlarge)
      rw [min_eq_left hmost, max_eq_right hnonneg]
      exact rational?_of_place hp (by linarith) (by linarith)

/-- A percentage within its bounds is divided by a hundred. -/
theorem exists_percent (hp : ofFloat p ≠ .nan) :
    ∃ a, Rounded (max 0 (min (ofFloat p).place 100) / 100) a ∧
      rational? (clampPercent p / 100.0) = some a ∧ 0 ≤ a ∧ a ≤ 1 := by
  obtain ⟨a, hround, ha⟩ :=
    rational?_div (rational?_clampPercent hp) (le_max_left ..) rational?_hundred (by norm_num)
  refine ⟨a, hround, ha, hround.nonneg, hround.mono rounded_one ?_⟩
  rw [div_le_one (by norm_num)]
  exact max_le (by norm_num) (min_le_right ..)

theorem clampPercent_nan (hp : ofFloat p = .nan) : ofFloat (clampPercent p / 100.0) = .nan := by
  unfold clampPercent
  rw [if_neg (not_lt_of_nan hp).1, if_neg (not_lt_of_nan hp).2]
  exact ofFloat_div_nan hp

theorem rankOf_nan {q : Float} (hq : ofFloat q = .nan) (n : Nat) : rankOf q n = 1 := by
  rw [rankOf, ceilNat, ofFloat_mul_nan hq]
  rfl

/-- As long as floats count exactly, every percentile has a rank among the values. -/
theorem rankOf_percent_le (p : Float) (hn : n ≠ 0) (hlt : n < 2 ^ 53) :
    rankOf (clampPercent p / 100.0) n ≤ n := by
  by_cases hp : ofFloat p = .nan
  · rw [rankOf_nan (clampPercent_nan hp)]
    exact Nat.pos_of_ne_zero hn
  · obtain ⟨a, -, hq, hnonneg, hone⟩ := exists_percent hp
    exact rankOf_le_of_rational? hq hnonneg hone hn hlt

theorem not_percent_gt_one (p : Float) : ¬ clampPercent p / 100.0 > 1.0 := by
  by_cases hp : ofFloat p = .nan
  · exact (not_lt_of_nan (clampPercent_nan hp)).2
  · obtain ⟨a, -, hq, -, hone⟩ := exists_percent hp
    exact not_gt_one hq hone

theorem rankOf_clampPercent_le (hp : IsAmount p) (hn : n ≠ 0) (hlt : n < 2 ^ 53) :
    rankOf (capped (clampPercent p / 100.0)) n ≤ n := by
  obtain ⟨a, -, hq, hnonneg, hone⟩ := exists_percent hp.ne_nan
  rw [capped, if_neg (not_gt_one hq hone)]
  exact rankOf_le_of_rational? hq hnonneg hone hn hlt

end Percent

end Latency.Histogram

end FedLoad
