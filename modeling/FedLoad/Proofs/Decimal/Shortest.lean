import FedLoad.Proofs.Decimal.Reading
/-!
# Shortest digits round to their double

What is looked for on a grid is a number in the interval of a double, so whatever is found rounds to
the double. Something is found on the grid of seventeen digits at the latest: there the double has
more units than it has mantissas, so that both of its ends are more than half a unit away, and
rounding to the grid goes by at most half a unit.

Main statement: `shortest_roundsTo`.
-/
namespace FedLoad

open Decimal

namespace Double.Ratio

variable {r : Ratio} {n : Nat}

/-! ## Fractions and whole numbers -/

theorem value_le_natCast (h : r.den ≠ 0) : r.value ≤ n ↔ r.num ≤ n * r.den := by
  have hden : (0 : ℚ) < r.den := Nat.cast_pos.2 (Nat.pos_of_ne_zero h)
  rw [value, Rat.mkRat_eq_div, div_le_iff₀ hden]
  exact_mod_cast Iff.rfl

theorem natCast_le_value (h : r.den ≠ 0) : n ≤ r.value ↔ n * r.den ≤ r.num := by
  have hden : (0 : ℚ) < r.den := Nat.cast_pos.2 (Nat.pos_of_ne_zero h)
  rw [value, Rat.mkRat_eq_div, le_div_iff₀ hden]
  exact_mod_cast Iff.rfl

theorem floor_le_value (h : r.den ≠ 0) : r.floor ≤ r.value :=
  (natCast_le_value h).2 (Nat.div_mul_le_self _ _)

theorem value_lt_floor_add_one (h : r.den ≠ 0) : r.value < (r.floor + 1 : Nat) := by
  rw [← not_le, natCast_le_value h, Nat.not_le]
  exact (Nat.div_lt_iff_lt_mul (Nat.pos_of_ne_zero h)).1 (Nat.lt_succ_self _)

/-! ## Shifts -/

theorem shift_den_ne_zero (h : r.den ≠ 0) (k : Int) : (r.shift k).den ≠ 0 := by
  unfold shift
  split
  · exact h
  · exact Nat.mul_ne_zero h (Nat.pow_pos (by decide)).ne'

theorem value_shift (r : Ratio) (k : Int) : (r.shift k).value = r.value * 10 ^ k := by
  unfold shift value
  split
  · next hk =>
    obtain ⟨n, rfl⟩ := Int.eq_ofNat_of_zero_le hk
    rw [Rat.mkRat_eq_div, Rat.mkRat_eq_div]
    simp
    ring
  · next hk =>
    obtain ⟨n, rfl⟩ := Int.exists_eq_neg_ofNat (Int.not_le.1 hk).le
    rw [Rat.mkRat_eq_div, Rat.mkRat_eq_div]
    simp [div_eq_mul_inv]
    ring

end Double.Ratio

open Double

namespace Decimal

/-! ## Intervals on a grid -/

namespace Interval

/-- Are the ends and the value of an interval numbers? -/
structure IsProper (i : Interval) : Prop where
  low : i.low.den ≠ 0
  value : i.value.den ≠ 0
  high : i.high.den ≠ 0

theorem isProper_around (m : Nat) (e : Int) : (around m e).IsProper :=
  ⟨Ratio.ofScaled_den_ne_zero _ _, Ratio.ofScaled_den_ne_zero _ _, Ratio.ofScaled_den_ne_zero _ _⟩

variable {i : Interval} {k : Int} {v : ℚ} {n d : Nat} {tie : Tie}

theorem IsProper.shift (h : i.IsProper) (k : Int) : (i.shift k).IsProper :=
  ⟨Ratio.shift_den_ne_zero h.low k, Ratio.shift_den_ne_zero h.value k,
    Ratio.shift_den_ne_zero h.high k⟩

theorem contains_of_lt (hlow : i.low.value < v) (hhigh : v < i.high.value) : i.Contains v := by
  unfold Contains
  split
  · exact ⟨hlow.le, hhigh.le⟩
  · exact ⟨hlow, hhigh⟩

theorem contains_shift (i : Interval) (k : Int) (v : ℚ) :
    (i.shift k).Contains (v * 10 ^ k) ↔ i.Contains v := by
  have hpow : (0 : ℚ) < 10 ^ k := zpow_pos (by norm_num) k
  unfold Contains Interval.shift
  simp only [Ratio.value_shift, mul_le_mul_iff_left₀ hpow, mul_lt_mul_iff_left₀ hpow]

theorem holds_iff (h : i.IsProper) : i.holds n = true ↔ i.Contains n := by
  unfold holds Contains
  split
  · rw [Bool.and_eq_true, decide_eq_true_iff, decide_eq_true_iff, Ratio.value_le_natCast h.low,
      Ratio.natCast_le_value h.high]
  · rw [Bool.and_eq_true, decide_eq_true_iff, decide_eq_true_iff, ← not_le (b := i.low.value),
      ← not_le (a := i.high.value), Ratio.natCast_le_value h.low, Ratio.value_le_natCast h.high,
      Nat.not_le, Nat.not_le]

theorem pos_and_holds_of_nearest? (h : i.nearest? tie = some d) : 0 < d ∧ i.holds d = true := by
  simp only [nearest?] at h
  split at h
  · cases h
  · next hbelow _ =>
    cases h
    simpa using hbelow
  · next _ habove =>
    cases h
    exact ⟨Nat.succ_pos _, habove⟩
  · next hbelow habove =>
    obtain rfl | rfl : d = i.value.floor ∨ d = i.value.floor + 1 := by
      grind
    · simpa using hbelow
    · exact ⟨Nat.succ_pos _, habove⟩

theorem exists_nearest? (hpos : 0 < i.value.floor)
    (h : i.holds i.value.floor = true ∨ i.holds (i.value.floor + 1) = true) :
    ∃ d, i.nearest? tie = some d := by
  rw [← Option.isSome_iff_exists]
  simp only [nearest?, decide_eq_true hpos, Bool.true_and]
  split
  · next hbelow habove => simp [hbelow, habove] at h
  · rfl
  · rfl
  · grind

end Interval

/-! ## The grid of a magnitude -/

theorem pow_magnitude_le {r : Ratio} (h : r.value ≠ 0) : (10 : ℚ) ^ (magnitude r - 1) ≤ r.value := by
  have hden : r.den ≠ 0 := fun hzero => h (by rw [Ratio.value, hzero, Rat.mkRat_zero])
  have hnum : r.num ≠ 0 := fun hzero => h (by rw [Ratio.value, hzero, Nat.cast_zero, Rat.zero_mkRat])
  unfold magnitude
  split
  · next hle =>
    have hfloor : 0 < r.floor := Nat.div_pos hle (Nat.pos_of_ne_zero hden)
    have hwidth : 0 < width r.floor := Nat.pos_of_ne_zero fun h => by
      have := lt_pow_width r.floor
      rw [h] at this
      omega
    have hpow : 10 ^ (width r.floor - 1) ≤ r.floor := pow_le_of_width (by omega)
    calc (10 : ℚ) ^ (width r.floor - 1 : Int) = (10 ^ (width r.floor - 1) : Nat) := by
          rw [← Nat.cast_pred hwidth, zpow_natCast]
          push_cast
          rfl
      _ ≤ r.floor := Nat.cast_le.2 hpow
      _ ≤ r.value := Ratio.floor_le_value hden
  · have hnum₀ : 0 < r.num := Nat.pos_of_ne_zero hnum
    have hceil : r.den ≤ (r.den + r.num - 1) / r.num * r.num := by
      have hrest := Nat.mod_lt (r.den + r.num - 1) hnum₀
      have hparts := Nat.div_add_mod (r.den + r.num - 1) r.num
      rw [Nat.mul_comm] at hparts
      omega
    have hpow := lt_pow_width ((r.den + r.num - 1) / r.num - 1)
    generalize (r.den + r.num - 1) / r.num = q at *
    generalize width (q - 1) = k at *
    have hle : r.den ≤ 10 ^ k * r.num :=
      hceil.trans (Nat.mul_le_mul_right _ (by omega))
    have hten : (0 : ℚ) < 10 ^ k := by positivity
    have hexponent : (1 - k - 1 : Int) = -k := by omega
    rw [hexponent, zpow_neg, zpow_natCast, Ratio.value, Rat.mkRat_eq_div, inv_le_iff_one_le_mul₀ hten,
      div_mul_eq_mul_div, le_div_iff₀ (Nat.cast_pos.2 (Nat.pos_of_ne_zero hden)), one_mul]
    exact_mod_cast hle.trans_eq (Nat.mul_comm _ _)

/-! ## The shortest decimal -/

section Seventeen

variable {m : Nat} {e k : Int}

theorem value_shift_around (m : Nat) (e k : Int) :
    ((Interval.around m e).shift k).low.value = lowQuarters m e * (2 ^ (e - 2) * 10 ^ k) ∧
      ((Interval.around m e).shift k).value.value = (4 * m : Nat) * (2 ^ (e - 2) * 10 ^ k) ∧
      ((Interval.around m e).shift k).high.value = (4 * m + 2 : Nat) * (2 ^ (e - 2) * 10 ^ k) := by
  simp only [← mul_assoc, ← Ratio.value_ofScaled, ← Ratio.value_shift]
  exact ⟨rfl, rfl, rfl⟩

/-- Where a double has at least `10^16` units, its interval goes on for more than half a unit on
both sides. -/
theorem half_lt_of_pow_le (h : Canonical m e) (hm : m ≠ 0)
    (hv : 10 ^ 16 ≤ ((Interval.around m e).shift k).value.value) :
    ((Interval.around m e).shift k).low.value + 1 / 2 < ((Interval.around m e).shift k).value.value ∧
      ((Interval.around m e).shift k).value.value + 1 / 2 <
        ((Interval.around m e).shift k).high.value := by
  obtain ⟨hlow, hvalue, hhigh⟩ := value_shift_around m e k
  rw [hvalue] at hv
  rw [hlow, hvalue, hhigh]
  have hu : (0 : ℚ) < 2 ^ (e - 2) * 10 ^ k := by positivity
  generalize (2 ^ (e - 2) * 10 ^ k : ℚ) = u at hv hu
  have hquarter : 1 / 4 < u := by
    have hfits : ((4 * m : Nat) : ℚ) ≤ (2 ^ 55 - 4 : Nat) := Nat.cast_le.2 (by have := h.lt; omega)
    have hle : (10 ^ 16 : ℚ) ≤ (2 ^ 55 - 4 : Nat) * u :=
      hv.trans (mul_le_mul_of_nonneg_right hfits hu.le)
    norm_num at hle
    linarith
  refine ⟨?_, by push_cast; linarith⟩
  unfold lowQuarters
  split
  · next hfirst =>
    rw [hfirst.1] at hv ⊢
    norm_num at hv ⊢
    linarith
  · rw [Nat.cast_sub (by omega)]
    push_cast
    linarith

/-- On the grid of seventeen digits there is a number in the interval. -/
theorem exists_nearest?_seventeen (h : Canonical m e) (hm : m ≠ 0) (tie : Tie) :
    ∃ d, ((Interval.around m e).shift (17 - magnitude (Interval.around m e).value)).nearest? tie =
      some d := by
  have hproper := (Interval.isProper_around m e).shift (17 - magnitude (Interval.around m e).value)
  have hunits : (10 : ℚ) ^ 16 ≤ ((Interval.around m e).shift
      (17 - magnitude (Interval.around m e).value)).value.value := by
    have hvalue : (Interval.around m e).value.value ≠ 0 :=
      mt Ratio.ofScaled_eq_zero.1 (Nat.mul_ne_zero (by decide) hm)
    have hpow := pow_magnitude_le hvalue
    change _ ≤ ((Interval.around m e).value.shift _).value
    rw [Ratio.value_shift]
    generalize magnitude (Interval.around m e).value = top at hpow
    have hexponent : top - 1 + (17 - top) = 16 := by omega
    calc (10 : ℚ) ^ 16 = 10 ^ (top - 1) * 10 ^ (17 - top) := by
          rw [← zpow_add₀ (by norm_num), hexponent, zpow_ofNat]
      _ ≤ (Interval.around m e).value.value * 10 ^ (17 - top) := by gcongr
  obtain ⟨hlow, hhigh⟩ := half_lt_of_pow_le h hm hunits
  generalize (Interval.around m e).shift (17 - magnitude (Interval.around m e).value) = i at *
  have hle := Ratio.floor_le_value hproper.value
  have hlt := Ratio.value_lt_floor_add_one hproper.value
  refine Interval.exists_nearest? ?_ ?_
  · have hpos : (1 : ℚ) < (i.value.floor + 1 : Nat) := by linarith
    have := Nat.cast_lt.1 (Nat.cast_one (R := ℚ) ▸ hpos)
    omega
  · rw [Interval.holds_iff hproper, Interval.holds_iff hproper]
    push_cast at hlt ⊢
    by_cases hnear : i.value.value ≤ i.value.floor + 1 / 2
    · exact .inl (Interval.contains_of_lt (by linarith) (by linarith))
    · exact .inr (Interval.contains_of_lt (by linarith) (by linarith))

end Seventeen

theorem shortest_roundsTo {m : Nat} {e : Int} (h : Canonical m e) (hm : m ≠ 0) (tie : Tie) :
    (shortest tie m e).coefficient ≠ 0 ∧
      RoundsTo ((shortest tie m e).coefficient * 10 ^ (shortest tie m e).exponent) m e := by
  unfold shortest
  dsimp only
  split
  · next s hfound =>
    obtain ⟨count, -, hgrid⟩ := List.exists_of_findSome?_eq_some hfound
    obtain ⟨d, hnearest, rfl⟩ := Option.map_eq_some_iff.1 hgrid
    generalize magnitude (Interval.around m e).value - (count : Int) - 1 = exponent at hnearest
    obtain ⟨hpos, hholds⟩ := Interval.pos_and_holds_of_nearest? hnearest
    rw [Interval.holds_iff ((Interval.isProper_around m e).shift _)] at hholds
    have hunits : (d : ℚ) = d * 10 ^ exponent * 10 ^ (-exponent) := by
      rw [mul_assoc, ← zpow_add₀ (by norm_num), add_neg_cancel, zpow_zero, mul_one]
    rw [hunits, Interval.contains_shift] at hholds
    exact ⟨hpos.ne', h, hholds⟩
  · next hnone =>
    obtain ⟨d, hd⟩ := exists_nearest?_seventeen h hm tie
    have hgrid := List.findSome?_eq_none_iff.1 hnone 16 (by decide)
    have hexponent : -(magnitude (Interval.around m e).value - (16 : Nat) - 1) =
        17 - magnitude (Interval.around m e).value := by omega
    rw [hexponent, hd] at hgrid
    cases hgrid

end Decimal

end FedLoad
