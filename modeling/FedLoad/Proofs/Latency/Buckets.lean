import FedLoad.Latency.Histogram
import Mathlib.Algebra.Ring.Nat
/-!
# The buckets of a histogram

The low end of a bucket lies in the bucket, so that a bucket is known from it: its width, its high
end and its middle are those of any of its values. Larger values have buckets that begin no earlier.
-/
namespace FedLoad.Latency

variable {v w : Nat}

theorem bucketWidth_pos (v : Nat) : 0 < bucketWidth v := Nat.two_pow_pos _

theorem bucketLow_eq (v : Nat) : bucketLow v = bucketWidth v * (v / bucketWidth v) := by
  have hparts := Nat.div_add_mod v (bucketWidth v)
  rw [bucketLow]
  omega

theorem bucketLow_le (v : Nat) : bucketLow v ≤ v := Nat.sub_le _ _

theorem le_bucketHigh (v : Nat) : v ≤ bucketHigh v := by
  have hrest := Nat.mod_lt v (bucketWidth_pos v)
  rw [bucketHigh, bucketLow]
  omega

theorem bucketMid_le (v : Nat) : bucketMid v ≤ bucketHigh v := by
  have hpos := bucketWidth_pos v
  rw [bucketMid, bucketHigh]
  omega

/-- A bucket does not begin before its binade. -/
theorem two_pow_le_bucketLow (hv : v ≠ 0) : 2 ^ v.log2 ≤ bucketLow v := by
  have hdvd : bucketWidth v ∣ 2 ^ v.log2 := Nat.pow_dvd_pow 2 (Nat.sub_le _ _)
  rw [bucketLow_eq]
  obtain ⟨k, hk⟩ := hdvd
  rw [hk]
  refine Nat.mul_le_mul_left _ ((Nat.le_div_iff_mul_le (bucketWidth_pos v)).2 ?_)
  rw [Nat.mul_comm, ← hk]
  exact Nat.log2_self_le hv

theorem log2_bucketLow (v : Nat) : (bucketLow v).log2 = v.log2 := by
  by_cases hv : v = 0
  · subst hv
    rfl
  · have hlow := two_pow_le_bucketLow hv
    have hpos : bucketLow v ≠ 0 := Nat.ne_of_gt (Nat.lt_of_lt_of_le (Nat.two_pow_pos _) hlow)
    exact (Nat.log2_eq_iff hpos).2 ⟨hlow, Nat.lt_of_le_of_lt (bucketLow_le v) Nat.lt_log2_self⟩

theorem bucketWidth_bucketLow (v : Nat) : bucketWidth (bucketLow v) = bucketWidth v := by
  rw [bucketWidth, log2_bucketLow, bucketWidth]

/-- The low end of a bucket is in the bucket. -/
theorem bucketLow_bucketLow (v : Nat) : bucketLow (bucketLow v) = bucketLow v := by
  rw [bucketLow_eq (bucketLow v), bucketWidth_bucketLow, bucketLow_eq v,
    Nat.mul_div_cancel_left _ (bucketWidth_pos v)]

theorem bucketHigh_bucketLow (v : Nat) : bucketHigh (bucketLow v) = bucketHigh v := by
  rw [bucketHigh, bucketLow_bucketLow, bucketWidth_bucketLow, bucketHigh]

theorem bucketMid_bucketLow (v : Nat) : bucketMid (bucketLow v) = bucketMid v := by
  rw [bucketMid, bucketLow_bucketLow, bucketWidth_bucketLow, bucketMid]

theorem bucketHigh_le (v : Nat) : bucketHigh v ≤ 2 * v := by
  by_cases hv : v = 0
  · subst hv
    decide
  · have hwidth : bucketWidth v ≤ v :=
      Nat.le_trans (Nat.pow_le_pow_right (by decide) (Nat.sub_le _ _)) (Nat.log2_self_le hv)
    have hlow := bucketLow_le v
    rw [bucketHigh]
    omega

theorem bucketLow_mono (h : v ≤ w) : bucketLow v ≤ bucketLow w := by
  by_cases hv : v = 0
  · subst hv
    exact Nat.zero_le _
  · have hw : w ≠ 0 := by omega
    obtain hlog | hlog : v.log2 < w.log2 ∨ v.log2 = w.log2 := by
      have hle : v.log2 ≤ w.log2 := (Nat.le_log2 hw).2 (Nat.le_trans (Nat.log2_self_le hv) h)
      omega
    · calc bucketLow v ≤ v := bucketLow_le v
        _ ≤ 2 ^ (v.log2 + 1) := Nat.le_of_lt Nat.lt_log2_self
        _ ≤ 2 ^ w.log2 := Nat.pow_le_pow_right (by decide) hlog
        _ ≤ bucketLow w := two_pow_le_bucketLow hw
    · have hwidth : bucketWidth v = bucketWidth w := by rw [bucketWidth, hlog, bucketWidth]
      rw [bucketLow_eq, bucketLow_eq, hwidth]
      exact Nat.mul_le_mul_left _ (Nat.div_le_div_right h)

theorem bucketHigh_succ (v : Nat) : bucketHigh v + 1 = bucketWidth v * (v / bucketWidth v + 1) := by
  have hpos := bucketWidth_pos v
  rw [bucketHigh, bucketLow_eq, Nat.mul_add, Nat.mul_one]
  omega

/-- A bucket ends within its binade. -/
theorem bucketHigh_lt_two_pow (v : Nat) : bucketHigh v < 2 ^ (v.log2 + 1) := by
  have hdvd : bucketWidth v ∣ 2 ^ (v.log2 + 1) :=
    Nat.pow_dvd_pow 2 (Nat.le_succ_of_le (Nat.sub_le _ _))
  obtain ⟨k, hk⟩ := hdvd
  have hlt : v < bucketWidth v * k := hk ▸ Nat.lt_log2_self
  rw [← Nat.succ_le_iff, Nat.succ_eq_add_one, bucketHigh_succ, hk]
  exact Nat.mul_le_mul_left _ (Nat.div_lt_of_lt_mul hlt)

theorem bucketHigh_mono (h : v ≤ w) : bucketHigh v ≤ bucketHigh w := by
  by_cases hv : v = 0
  · subst hv
    exact Nat.zero_le _
  · have hw : w ≠ 0 := by omega
    obtain hlog | hlog : v.log2 < w.log2 ∨ v.log2 = w.log2 := by
      have hle : v.log2 ≤ w.log2 := (Nat.le_log2 hw).2 (Nat.le_trans (Nat.log2_self_le hv) h)
      omega
    · calc bucketHigh v ≤ 2 ^ (v.log2 + 1) := Nat.le_of_lt (bucketHigh_lt_two_pow v)
        _ ≤ 2 ^ w.log2 := Nat.pow_le_pow_right (by decide) hlog
        _ ≤ w := Nat.log2_self_le hw
        _ ≤ bucketHigh w := le_bucketHigh w
    · have hwidth : bucketWidth v = bucketWidth w := by rw [bucketWidth, hlog, bucketWidth]
      rw [← Nat.succ_le_succ_iff, Nat.succ_eq_add_one, Nat.succ_eq_add_one, bucketHigh_succ,
        bucketHigh_succ, hwidth]
      exact Nat.mul_le_mul_left _ (Nat.succ_le_succ (Nat.div_le_div_right h))

theorem log2_bucketHigh (v : Nat) : (bucketHigh v).log2 = v.log2 := by
  by_cases hv : v = 0
  · subst hv
    rfl
  · have hle := le_bucketHigh v
    have hhigh : bucketHigh v ≠ 0 := by omega
    exact (Nat.log2_eq_iff hhigh).2
      ⟨Nat.le_trans (Nat.log2_self_le hv) hle, bucketHigh_lt_two_pow v⟩

/-- Buckets that end together begin together. -/
theorem bucketHigh_eq_iff : bucketHigh v = bucketHigh w ↔ bucketLow v = bucketLow w := by
  constructor
  · intro h
    have hwidth : bucketWidth v = bucketWidth w := by
      rw [bucketWidth, ← log2_bucketHigh v, h, log2_bucketHigh, bucketWidth]
    have hpos := bucketWidth_pos w
    rw [bucketHigh, bucketHigh, hwidth] at h
    omega
  · intro h
    rw [← bucketHigh_bucketLow v, h, bucketHigh_bucketLow]

end FedLoad.Latency
