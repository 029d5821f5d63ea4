import FedLoad.Decimal.Shortest
import FedLoad.Proofs.Decimal.Reciprocal
import Mathlib.Tactic.Linarith
import Mathlib.Tactic.Ring
import Mathlib.Tactic.GCongr
import Mathlib.Tactic.FieldSimp
/-!
# The numbers that round to a double

The numbers that round to `m · 2^e` lie between the halves of the ways to its two neighbours, and
the ends are among them when `m` is even. Below the first number of a binade the neighbour is half as
far away. The intervals of two doubles have no number in common and lie in the order of the doubles,
so that a number rounds to one double only.

Rounding keeps as many digits as a double has room for, together with a note on what is cut off. As
long as the note is true of the exact number, what comes out is the double that the number rounds
to.

Main statements: `RoundsTo.lt_of_before`, `RoundsTo.unique` and `exists_roundWithAccuracy`.
-/
namespace FedLoad

open Float.Model Float.Model.UnpackedFloat

open Decimal (Interval)

namespace Double

/-! ## The interval of a double -/

/-- The exact value of a fraction. -/
def Ratio.value (r : Ratio) : ℚ := mkRat r.num r.den

theorem Ratio.value_ofScaled (m : Nat) (e : Int) : (ofScaled m e).value = m * 2 ^ e :=
  mkRat_ofScaled m e

theorem Ratio.ofScaled_den_ne_zero (m : Nat) (e : Int) : (ofScaled m e).den ≠ 0 := by
  unfold ofScaled
  split
  · exact Nat.one_ne_zero
  · exact (Nat.two_pow_pos _).ne'

end Double

open Double

/-- Does this number lie in the interval? -/
def Decimal.Interval.Contains (i : Interval) (v : ℚ) : Prop :=
  if i.closed then i.low.value ≤ v ∧ v ≤ i.high.value else i.low.value < v ∧ v < i.high.value

namespace Double

variable {v w : ℚ} {m n : Nat} {e f : Int}

/-- The lower end of the interval of a double, in quarters of its last place. -/
def lowQuarters (m : Nat) (e : Int) : Nat :=
  if m = 2 ^ 52 ∧ e ≠ -1074 then 4 * m - 1 else 4 * m - 2

theorem Canonical.lt (h : Canonical m e) : m < 2 ^ 53 :=
  Nat.lt_of_lt_of_le Nat.lt_log2_self (Nat.pow_le_pow_right (by decide) (Nat.succ_le_succ h.digits))

/-- Is this the double that the number rounds to? -/
structure RoundsTo (v : ℚ) (m : Nat) (e : Int) : Prop where
  canonical : Canonical m e
  contains : (Interval.around m e).Contains v

theorem contains_around : (Interval.around m e).Contains v ↔
    (lowQuarters m e : ℚ) * 2 ^ (e - 2) ≤ v ∧ v ≤ (4 * m + 2 : Nat) * 2 ^ (e - 2) ∧
      (m % 2 = 1 → (lowQuarters m e : ℚ) * 2 ^ (e - 2) < v ∧
        v < (4 * m + 2 : Nat) * 2 ^ (e - 2)) := by
  unfold Interval.Contains Interval.around
  dsimp only
  rw [Ratio.value_ofScaled, Ratio.value_ofScaled]
  change (if decide (m % 2 = 0) = true then
    (lowQuarters m e : ℚ) * 2 ^ (e - 2) ≤ v ∧ v ≤ _ else
    (lowQuarters m e : ℚ) * 2 ^ (e - 2) < v ∧ v < _) ↔ _
  by_cases heven : m % 2 = 0
  · rw [decide_eq_true heven, if_pos rfl]
    have hodd : ¬ m % 2 = 1 := by omega
    simp [hodd]
  · have hodd : m % 2 = 1 := by omega
    rw [decide_eq_false heven, if_neg Bool.false_ne_true]
    exact ⟨fun h => ⟨h.1.le, h.2.le, fun _ => h⟩, fun h => h.2.2 hodd⟩

theorem lowQuarters_of_leading (hn : Canonical n f) (hf : -1074 < f) :
    2 ^ 54 - 1 ≤ lowQuarters n f := by
  have hleading : 2 ^ 52 ≤ n := by
    rw [← hn.leading hf]
    refine Nat.log2_self_le ?_
    rintro rfl
    exact absurd (hn.leading hf) (by decide)
  unfold lowQuarters
  split <;> omega

/-- Where one interval ends, the next may begin, but no number is in both. -/
theorem RoundsTo.lt_of_before (h : RoundsTo v m e) (h' : RoundsTo w n f)
    (hbefore : e < f ∨ e = f ∧ m < n) : v < w := by
  obtain ⟨hm, hv⟩ := h
  obtain ⟨hn, hw⟩ := h'
  obtain ⟨-, hv, hvodd⟩ := contains_around.1 hv
  obtain ⟨hw, -, hwodd⟩ := contains_around.1 hw
  have hunit : (0 : ℚ) < 2 ^ (e - 2) := zpow_pos (by norm_num) _
  have hle {a b : Nat} (hab : a ≤ b) : (a : ℚ) * 2 ^ (e - 2) ≤ b * 2 ^ (e - 2) :=
    mul_le_mul_of_nonneg_right (Nat.cast_le.2 hab) hunit.le
  have hlt {a b : Nat} (hab : a < b) : (a : ℚ) * 2 ^ (e - 2) < b * 2 ^ (e - 2) :=
    mul_lt_mul_of_pos_right (Nat.cast_lt.2 hab) hunit
  obtain hexponent | ⟨rfl, hmn⟩ := hbefore
  · have hhigh : m < 2 ^ 53 := hm.lt
    have htwice : (2 : ℚ) * 2 ^ (e - 2) ≤ 2 ^ (f - 2) := by
      rw [← zpow_one_add₀ (by norm_num)]
      exact zpow_le_zpow_right₀ (by norm_num) (by omega)
    have hnext : ((2 ^ 55 - 2 : Nat) : ℚ) * 2 ^ (e - 2) ≤ w := by
      refine le_trans ?_ hw
      have hlow : ((2 ^ 54 - 1 : Nat) : ℚ) ≤ lowQuarters n f :=
        Nat.cast_le.2 (lowQuarters_of_leading hn (by have := hm.least; omega))
      calc ((2 ^ 55 - 2 : Nat) : ℚ) * 2 ^ (e - 2) = (2 ^ 54 - 1 : Nat) * (2 * 2 ^ (e - 2)) := by
            norm_num; ring
        _ ≤ lowQuarters n f * 2 ^ (f - 2) := by gcongr
    -- the last number of a binade is odd, so that its interval is open
    by_cases hodd : m % 2 = 1
    · exact ((hvodd hodd).2.trans_le (hle (by omega))).trans_le hnext
    · exact (hv.trans_lt (hlt (by omega))).trans_le hnext
  · have hlow : 4 * n - 2 ≤ lowQuarters n e := by
      unfold lowQuarters
      split <;> omega
    -- of two neighbours one is odd
    by_cases hodd : m % 2 = 1
    · exact ((hvodd hodd).2.trans_le (hle (by omega))).trans_le hw
    · by_cases hodd' : n % 2 = 1
      · exact (hv.trans (hle (by omega))).trans_lt (hwodd hodd').1
      · exact (hv.trans_lt (hlt (by omega))).trans_le hw

theorem RoundsTo.unique (h : RoundsTo v m e) (h' : RoundsTo v n f) : m = n ∧ e = f := by
  have hmn : ¬ (e < f ∨ e = f ∧ m < n) := fun hlt => lt_irrefl v (h.lt_of_before h' hlt)
  have hnm : ¬ (f < e ∨ f = e ∧ n < m) := fun hlt => lt_irrefl v (h'.lt_of_before h hlt)
  omega

/-! ## Rounding to the nearest -/

/-- Is `x` equal to `m` and a part of one more that is about as large as `a` says? -/
def Approximates (x : ℚ) (m : Nat) : Accuracy → Prop
  | .exact => x = m
  | .inexact .lt => m < x ∧ x < m + 1 / 2
  | .inexact .eq => x = m + 1 / 2
  | .inexact .gt => m + 1 / 2 < x ∧ x < m + 1

variable {x : ℚ} {a : Accuracy}

theorem approximates_ofMantissaAndAccuracy (h : Approximates x m a) :
    Approximates x (ExtendedMantissa.ofMantissaAndAccuracy m a).mantissa
      (ExtendedMantissa.ofMantissaAndAccuracy m a).accuracy := by
  obtain - | (_ | _ | _) := a <;> exact h

/-- A shift takes the last digit from the mantissa, and the accuracy takes it up. -/
theorem approximates_shiftRightOne {em : ExtendedMantissa}
    (h : Approximates x em.mantissa em.accuracy) :
    Approximates (x / 2) em.shiftRightOne.mantissa em.shiftRightOne.accuracy := by
  obtain ⟨m, round, sticky⟩ := em
  have hdigits : (m : ℚ) = 2 * (m / 2 : Nat) + (m % 2 : Nat) := by
    exact_mod_cast (Nat.div_add_mod m 2).symm
  unfold ExtendedMantissa.shiftRightOne
  generalize m / 2 = half at hdigits
  obtain hlast | hlast := Nat.mod_two_eq_zero_or_one m
  all_goals
    rw [hlast] at hdigits ⊢
    cases round <;> cases sticky
  all_goals
    simp [ExtendedMantissa.accuracy, Approximates] at h hdigits ⊢
    first | linarith | constructor <;> linarith

theorem approximates_shiftRight {em : ExtendedMantissa} (h : Approximates x em.mantissa em.accuracy)
    (k : Nat) : Approximates (x / 2 ^ k) (em >>> k).mantissa (em >>> k).accuracy := by
  change Approximates _ (k.repeat ExtendedMantissa.shiftRightOne em).mantissa
    (k.repeat ExtendedMantissa.shiftRightOne em).accuracy
  induction k with
  | zero =>
    rw [pow_zero, div_one]
    exact h
  | succ k ih =>
    rw [pow_succ, ← div_div]
    exact approximates_shiftRightOne ih

theorem mantissa_shiftRight (em : ExtendedMantissa) (k : Nat) :
    (em >>> k).mantissa = em.mantissa / 2 ^ k := by
  change (k.repeat ExtendedMantissa.shiftRightOne em).mantissa = _
  induction k with
  | zero => exact (Nat.div_one _).symm
  | succ k ih =>
    rw [pow_succ, ← Nat.div_div_eq_div_mul, ← ih]
    rfl

/-- Rounding goes to the nearer whole number, and to the even one from halfway. -/
theorem approximates_roundToNearestEven (h : Approximates x m a) :
    (a.roundToNearestEven m : ℚ) - 1 / 2 ≤ x ∧ x ≤ a.roundToNearestEven m + 1 / 2 ∧
      (a.roundToNearestEven m % 2 = 1 →
        (a.roundToNearestEven m : ℚ) - 1 / 2 < x ∧ x < a.roundToNearestEven m + 1 / 2) := by
  obtain - | (_ | _ | _) := a
  · simp only [Accuracy.roundToNearestEven, Approximates] at h ⊢
    refine ⟨?_, ?_, fun _ => ⟨?_, ?_⟩⟩ <;> linarith
  · simp only [Accuracy.roundToNearestEven, Approximates] at h ⊢
    refine ⟨?_, ?_, fun _ => ⟨?_, ?_⟩⟩ <;> linarith
  · simp only [Accuracy.roundToNearestEven, Approximates] at h ⊢
    have heven : ¬ (m + m % 2) % 2 = 1 := by omega
    refine ⟨?_, ?_, fun hodd => absurd hodd heven⟩
    · obtain hlast | hlast := Nat.mod_two_eq_zero_or_one m <;> rw [hlast] <;> push_cast <;> linarith
    · obtain hlast | hlast := Nat.mod_two_eq_zero_or_one m <;> rw [hlast] <;> push_cast <;> linarith
  · simp only [Accuracy.roundToNearestEven, Approximates] at h ⊢
    push_cast
    refine ⟨?_, ?_, fun _ => ⟨?_, ?_⟩⟩ <;> linarith

/-- A number lies in the interval of what it was rounded to. -/
theorem contains_around_of_rounded (hx : 0 ≤ v / 2 ^ e)
    (hleading : m = 2 ^ 52 → e ≠ -1074 → (2 ^ 52 - 1 / 4 : ℚ) ≤ v / 2 ^ e)
    (hlow : (m : ℚ) - 1 / 2 ≤ v / 2 ^ e) (hhigh : v / 2 ^ e ≤ m + 1 / 2)
    (hodd : m % 2 = 1 → (m : ℚ) - 1 / 2 < v / 2 ^ e ∧ v / 2 ^ e < m + 1 / 2) :
    (Interval.around m e).Contains v := by
  have hunit : (0 : ℚ) < 2 ^ (e - 2) := zpow_pos (by norm_num) _
  have hquarters : v / 2 ^ (e - 2) = 4 * (v / 2 ^ e) := by
    rw [zpow_sub₀ (by norm_num)]
    field_simp
    norm_num
  rw [contains_around, ← le_div_iff₀ hunit, ← div_le_iff₀ hunit, ← lt_div_iff₀ hunit,
    ← div_lt_iff₀ hunit, hquarters]
  generalize v / 2 ^ e = x at *
  refine ⟨?_, by push_cast; linarith, fun hm => ?_⟩
  · unfold lowQuarters
    split
    · next hfirst =>
      have := hleading hfirst.1 hfirst.2
      rw [hfirst.1]
      norm_num at this ⊢
      linarith
    · obtain rfl | hpos := Nat.eq_zero_or_pos m
      · norm_num
        exact hx
      · rw [Nat.cast_sub (by omega)]
        push_cast
        linarith
  · obtain ⟨hlow, hhigh⟩ := hodd hm
    refine ⟨?_, by push_cast; linarith⟩
    have hother : ¬ (m = 2 ^ 52 ∧ e ≠ -1074) := fun h => by omega
    rw [lowQuarters, if_neg hother, Nat.cast_sub (by omega)]
    push_cast
    linarith

theorem approximates_le (h : Approximates x m a) : (m : ℚ) ≤ x := by
  obtain - | (_ | _ | _) := a <;> simp only [Approximates] at h <;> linarith

/-- With digits enough, rounding goes to the double that a number rounds to. -/
theorem exists_roundWithAccuracy (h : Approximates (v / 2 ^ e) m a)
    (hroom : 52 ≤ m.log2 ∨ e ≤ -1074) :
    ∃ r t, RoundsTo v r t ∧ roundWithAccuracy Format.binary64 .positive m e a = ofParts r t := by
  obtain ⟨t, ht⟩ : ∃ t, t = max ((m.log2 : Int) + e - 52) (-1074) := ⟨_, rfl⟩
  obtain ⟨k, hk⟩ : ∃ k : Nat, t = e + k := ⟨(t - e).toNat, by omega⟩
  have hshift : shiftToTargetExponent Format.binary64 m e a =
      (ExtendedMantissa.ofMantissaAndAccuracy m a >>> k, t) := by
    have hamount : (t - e).toNat = k := by omega
    rw [shiftToTargetExponent, targetExponent_totalExponent, ← ht, shiftToExponent, hamount, hk]
  have hx : Approximates (v / 2 ^ t) (ExtendedMantissa.ofMantissaAndAccuracy m a >>> k).mantissa
      (ExtendedMantissa.ofMantissaAndAccuracy m a >>> k).accuracy := by
    rw [hk, zpow_add₀ (by norm_num), zpow_natCast, ← div_div]
    exact approximates_shiftRight (approximates_ofMantissaAndAccuracy h) k
  have hmantissa : (ExtendedMantissa.ofMantissaAndAccuracy m a >>> k).mantissa = m / 2 ^ k := by
    rw [mantissa_shiftRight]
    obtain - | (_ | _ | _) := a <;> rfl
  generalize ExtendedMantissa.ofMantissaAndAccuracy m a >>> k = em at hshift hx hmantissa
  have hfits : em.mantissa < 2 ^ 53 := by
    rw [hmantissa]
    refine Nat.div_lt_of_lt_mul (Nat.lt_log2_self.trans_le ?_)
    rw [← Nat.pow_add]
    exact Nat.pow_le_pow_right (by decide) (by omega)
  have hleading : -1074 < t → 2 ^ 52 ≤ em.mantissa := by
    intro hnormal
    have hm : m ≠ 0 := by
      rintro rfl
      have hlog : Nat.log2 0 = 0 := rfl
      omega
    rw [hmantissa, Nat.le_div_iff_mul_le (Nat.two_pow_pos k), ← Nat.pow_add]
    refine le_trans (Nat.pow_le_pow_right (by decide) ?_) (Nat.log2_self_le hm)
    omega
  have hleast : -1074 ≤ t := by omega
  have hle : (em.mantissa : ℚ) ≤ v / 2 ^ t := approximates_le hx
  have hnonneg : 0 ≤ v / 2 ^ t := (Nat.cast_nonneg _).trans hle
  obtain ⟨hlow, hhigh, hodd⟩ := approximates_roundToNearestEven hx
  have hround := le_roundToNearestEven em.mantissa em.accuracy
  change em.mantissa ≤ em.roundedMantissa ∧ em.roundedMantissa ≤ em.mantissa + 1 at hround
  change (em.roundedMantissa : ℚ) - 1 / 2 ≤ _ at hlow
  change _ ≤ (em.roundedMantissa : ℚ) + 1 / 2 at hhigh
  change em.roundedMantissa % 2 = 1 → (em.roundedMantissa : ℚ) - 1 / 2 < _ ∧ _ at hodd
  by_cases hfull : em.roundedMantissa < 2 ^ 53
  · have hcanonical : Canonical em.roundedMantissa t :=
      canonical_of_lt hfull hleast fun h => (hleading h).trans hround.1
    refine ⟨_, t, ⟨hcanonical, ?_⟩, roundWithAccuracy_of_shift hshift hcanonical⟩
    refine contains_around_of_rounded hnonneg (fun _ hnormal => ?_) hlow hhigh hodd
    have hlead : (2 ^ 52 : ℚ) ≤ em.mantissa := by exact_mod_cast hleading (by omega)
    linarith
  -- rounding up has given a digit too many, all of them zero but the first
  · have htop : em.roundedMantissa = 2 ^ 53 := by omega
    refine ⟨2 ^ 52, t + 1, ⟨?_, ?_⟩, roundWithAccuracy_of_shift_two_pow hshift htop hleast⟩
    · exact canonical_of_lt (by decide) (by omega) fun _ => Nat.le_refl _
    · have hhalf : v / 2 ^ (t + 1) = v / 2 ^ t / 2 := by
        rw [zpow_add_one₀ (by norm_num), div_div]
      rw [htop] at hlow hhigh
      have heven : ¬ 2 ^ 52 % 2 = 1 := by decide
      refine contains_around_of_rounded ?_ (fun _ _ => ?_) ?_ ?_ (absurd · heven) <;> rw [hhalf] <;>
        norm_num at hlow hhigh ⊢ <;> linarith

/-! ## Order -/

/-- A double rounds to itself. -/
theorem Canonical.roundsTo (h : Canonical m e) : RoundsTo (m * 2 ^ e) m e := by
  refine ⟨h, ?_⟩
  have hpow : (2 : ℚ) ^ e ≠ 0 := (zpow_pos (by norm_num) e).ne'
  have hself : (m * 2 ^ e : ℚ) / 2 ^ e = m := mul_div_cancel_right₀ _ hpow
  refine contains_around_of_rounded ?_ ?_ ?_ ?_ fun _ => ?_ <;> rw [hself]
  · exact Nat.cast_nonneg m
  · rintro rfl -
    norm_num
  · linarith
  · linarith
  · constructor <;> linarith

theorem Canonical.before_of_lt (hm : Canonical m e) (hn : Canonical n f)
    (h : (m * 2 ^ e : ℚ) < n * 2 ^ f) : e < f ∨ e = f ∧ m < n := by
  by_contra hbefore
  obtain hafter | ⟨rfl, rfl⟩ : (f < e ∨ f = e ∧ n < m) ∨ e = f ∧ m = n := by omega
  · exact lt_asymm h (hn.roundsTo.lt_of_before hm.roundsTo hafter)
  · exact lt_irrefl _ h

/-- Of two numbers the larger is not rounded to the smaller double. -/
theorem RoundsTo.value_le (h : RoundsTo v m e) (h' : RoundsTo w n f) (hle : v ≤ w) :
    (m * 2 ^ e : ℚ) ≤ n * 2 ^ f := by
  by_contra hlt
  have hafter := h'.canonical.before_of_lt h.canonical (not_le.1 hlt)
  exact absurd (h'.lt_of_before h hafter) (not_lt.2 hle)

end Double

end FedLoad
