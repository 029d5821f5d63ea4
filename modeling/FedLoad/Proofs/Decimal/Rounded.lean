import FedLoad.Proofs.Decimal.Order
import Mathlib.Algebra.Order.Floor.Semiring
import Mathlib.Data.Rat.Floor
/-!
# Arithmetic on exact values

Rounding takes a number to a number: it keeps the order, and it leaves alone what a float can hold.
A product with a factor of at most one and a quotient by a divisor of at least one do not leave the
finite floats, so that their exact values are the rounded product and quotient of the exact values.

Main statements: `Rounded.mono`, `rational?_mul` and `rational?_div`.
-/
namespace FedLoad

open Float.Model Float.Model.UnpackedFloat

open Double

/-! ## Rounding -/

/-- Is the second number the one that the first is rounded to? -/
def Rounded (v r : ℚ) : Prop := ∃ m e, RoundsTo v m e ∧ r = m * 2 ^ e

variable {v w r t : ℚ}

theorem Rounded.mono (h : Rounded v r) (h' : Rounded w t) (hle : v ≤ w) : r ≤ t := by
  obtain ⟨m, e, hv, rfl⟩ := h
  obtain ⟨n, f, hw, rfl⟩ := h'
  exact hv.value_le hw hle

theorem Rounded.unique (h : Rounded v r) (h' : Rounded v t) : r = t :=
  le_antisymm (h.mono h' le_rfl) (h'.mono h le_rfl)

theorem Rounded.nonneg (h : Rounded v r) : 0 ≤ r := by
  obtain ⟨m, e, -, rfl⟩ := h
  positivity

/-- Multiples of a power of two with at most fifty-three digits stay as they are. -/
theorem rounded_self {k : Nat} {e : Int} (hk : k < 2 ^ 53) (he : -1074 ≤ e) :
    Rounded (k * 2 ^ e) (k * 2 ^ e) := by
  suffices h : ∃ m f, Canonical m f ∧ (k * 2 ^ e : ℚ) = m * 2 ^ f by
    obtain ⟨m, f, hcanonical, hvalue⟩ := h
    rw [hvalue]
    exact ⟨m, f, hcanonical.roundsTo, rfl⟩
  obtain rfl | hpos := Nat.eq_zero_or_pos k
  · exact ⟨0, -1074, canonical_of_lt (by decide) (Int.le_refl _) (by omega), by simp⟩
  · -- the digits are moved up until all fifty-three places are taken or the exponent is the least
    obtain ⟨s, hs⟩ : ∃ s, s = min (52 - k.log2) (e + 1074).toNat := ⟨_, rfl⟩
    have hlog : k.log2 ≤ 52 := Nat.le_of_lt_succ ((Nat.log2_lt hpos.ne').2 hk)
    have hdigits : (k * 2 ^ s).log2 = k.log2 + s := log2_mul_two_pow hpos.ne' s
    refine ⟨k * 2 ^ s, e - s, ⟨by omega, by omega, by omega⟩, ?_⟩
    rw [zpow_sub₀ (by norm_num), zpow_natCast]
    push_cast
    field_simp

theorem rounded_natCast {n : Nat} (hn : n < 2 ^ 53) : Rounded n n := by
  have hself := rounded_self hn (e := 0) (by decide)
  rwa [zpow_zero, mul_one] at hself

theorem rounded_one : Rounded 1 1 := by
  have hself := rounded_natCast (n := 1) (by decide)
  rwa [Nat.cast_one] at hself

/-- Numbers from one on are moved up by at most one part in `2 ^ 53` of the result. -/
theorem Rounded.mul_le (h : Rounded v r) (hone : 1 ≤ v) : r * (2 ^ 53 - 1) ≤ v * 2 ^ 53 := by
  obtain ⟨m, e, ⟨hcanonical, hcontains⟩, rfl⟩ := h
  by_cases he : -1074 < e
  · obtain ⟨hlow, -, -⟩ := contains_around.1 hcontains
    have hleading : 2 ^ 52 ≤ m := by
      rw [← hcanonical.leading he]
      refine Nat.log2_self_le ?_
      rintro rfl
      exact absurd (hcanonical.leading he) (by decide)
    have hquarters : (4 * m - 2 : ℚ) ≤ lowQuarters m e := by
      have hle : 4 * m ≤ lowQuarters m e + 2 := by
        unfold lowQuarters
        split <;> omega
      have hcast : (4 * m : ℚ) ≤ lowQuarters m e + 2 := by exact_mod_cast hle
      linarith
    have hunit : (0 : ℚ) < 2 ^ (e - 2) := zpow_pos (by norm_num) _
    have hpow : (2 : ℚ) ^ e = 4 * 2 ^ (e - 2) := by
      rw [zpow_sub₀ (by norm_num)]
      norm_num
      ring
    have hv := (mul_le_mul_of_nonneg_right hquarters hunit.le).trans hlow
    have hm : (2 ^ 52 : ℚ) * 2 ^ (e - 2) ≤ m * 2 ^ (e - 2) :=
      mul_le_mul_of_nonneg_right (by exact_mod_cast hleading) hunit.le
    rw [hpow]
    linarith
  · have hleast : e = -1074 := le_antisymm (not_lt.1 he) hcanonical.least
    have hm : (m : ℚ) ≤ 2 ^ 53 := by exact_mod_cast hcanonical.lt.le
    have hle : (m * 2 ^ e : ℚ) ≤ 1 := by
      rw [hleast]
      calc (m * 2 ^ (-1074 : Int) : ℚ) ≤ 2 ^ 53 * 2 ^ (-1074 : Int) := by gcongr
        _ = 2 ^ (-1021 : Int) := by rw [← zpow_natCast, ← zpow_add₀ (by norm_num)]; norm_num
        _ ≤ 1 := zpow_le_one_of_nonpos₀ (by norm_num) (by norm_num)
    have hnonneg : (0 : ℚ) ≤ m * 2 ^ e := by positivity
    linarith

/-! ## Exact values -/

section Values

variable {x y : Float}

theorem rational?_zero : rational? 0.0 = some 0 := by decide +kernel

theorem rational?_one : rational? 1.0 = some 1 := by decide +kernel

theorem rational?_of_finite {negative : Bool} {m : Nat} {e : Int}
    (h : ofFloat x = .finite negative m e) :
    rational? x = some (if negative then -(m * 2 ^ e) else m * 2 ^ e : ℚ) := by
  unfold rational?
  rw [h]
  dsimp only
  rw [Ratio.mkRat_ofScaled]

theorem exists_of_rational? (h : rational? x = some v) (hv : 0 ≤ v) :
    ∃ negative m e, ofFloat x = .finite negative m e ∧ v = m * 2 ^ e := by
  cases hx : ofFloat x with
  | nan => exact absurd hx (ne_nan_of_rational? h)
  | infinite negative =>
    unfold rational? at h
    rw [hx] at h
    cases h
  | finite negative m e =>
    refine ⟨negative, m, e, rfl, ?_⟩
    have hvalue := Option.some_inj.1 (h.symm.trans (rational?_of_finite hx))
    have hnonneg : (0 : ℚ) ≤ m * 2 ^ e := by positivity
    split at hvalue <;> linarith

/-- What is nearest to a number below a finite float is finite itself. -/
theorem IsNearest.exists_rational? (h : IsNearest x v) (hv : 0 ≤ v) (hle : v ≤ w)
    (hw : rational? y = some w) : ∃ r, Rounded v r ∧ rational? x = some r := by
  obtain ⟨m, e, hround, hx⟩ := h
  obtain ⟨negative, n, f, hy, rfl⟩ := exists_of_rational? hw (hv.trans hle)
  obtain ⟨hcanonical, hbound⟩ := canonical_of_ofFloat hy
  have hsmall : ¬ 971 < e := fun hbig =>
    absurd (hcanonical.roundsTo.lt_of_before hround (.inl (by omega))) (not_lt.2 hle)
  rw [if_neg hsmall] at hx
  exact ⟨_, ⟨m, e, hround, rfl⟩, rational?_of_finite hx⟩

theorem unpack_of_rational?_zero (h : rational? x = some 0) : ∃ s, x.toModel.unpack = .zero s := by
  obtain ⟨negative, m, e, hx, hvalue⟩ := exists_of_rational? h le_rfl
  have hm : m = 0 := by
    have hpow : (2 : ℚ) ^ e ≠ 0 := (zpow_pos (by norm_num) e).ne'
    exact_mod_cast (mul_eq_zero.1 hvalue.symm).resolve_right hpow
  rw [ofFloat_eq] at hx
  cases hunpack : x.toModel.unpack with
  | zero s => exact ⟨s, rfl⟩
  | notANumber | infinity s =>
    rw [hunpack] at hx
    cases hx
  | finite s n f hn =>
    rw [hunpack] at hx
    exact absurd ((finite.inj hx).2.1.trans hm) hn.ne'

theorem rational?_of_pack_zero {s : Sign} (h : x.toModel = .pack (.zero s)) :
    rational? x = some 0 := by
  have hx : ofFloat x = .finite (s == .negative) 0 (-1074) := by
    rw [ofFloat_eq, h]
    cases s <;> rfl
  rw [rational?_of_finite hx]
  simp

theorem rational?_mul (hx : rational? x = some v) (hv : 0 ≤ v) (hone : v ≤ 1)
    (hy : rational? y = some w) (hw : 0 < w) :
    ∃ r, Rounded (v * w) r ∧ rational? (x * y) = some r := by
  obtain ⟨n, f, hy', hn, hw'⟩ := ofFloat_of_pos hy hw
  rw [Ratio.mkRat_ofScaled] at hw'
  obtain rfl | hpos := hv.eq_or_lt
  · obtain ⟨s, hs⟩ := unpack_of_rational?_zero hx
    refine ⟨0, by simpa using rounded_natCast (n := 0) (by decide), ?_⟩
    refine rational?_of_pack_zero (s := s * .positive) ?_
    change Float.Model.pack (UnpackedFloat.mul Format.binary64 x.toModel.unpack
      y.toModel.unpack) = _
    rw [hs, unpack_of_ofFloat hy' hn, ofParts_of_ne_zero f hn]
    rfl
  · obtain ⟨m, e, hx', hm, hv'⟩ := ofFloat_of_pos hx hpos
    rw [Ratio.mkRat_ofScaled] at hv'
    have hnearest := isNearest_mul hx' hm hy' hn
    rw [← hv', ← hw'] at hnearest
    exact hnearest.exists_rational? (mul_pos hpos hw).le (mul_le_of_le_one_left hw.le hone) hy

theorem rational?_div (hx : rational? x = some v) (hv : 0 ≤ v) (hy : rational? y = some w)
    (hone : 1 ≤ w) : ∃ r, Rounded (v / w) r ∧ rational? (x / y) = some r := by
  have hw : 0 < w := zero_lt_one.trans_le hone
  obtain ⟨n, f, hy', hn, hw'⟩ := ofFloat_of_pos hy hw
  rw [Ratio.mkRat_ofScaled] at hw'
  obtain rfl | hpos := hv.eq_or_lt
  · obtain ⟨s, hs⟩ := unpack_of_rational?_zero hx
    refine ⟨0, by simpa using rounded_natCast (n := 0) (by decide), ?_⟩
    refine rational?_of_pack_zero (s := s * .positive) ?_
    change Float.Model.pack (UnpackedFloat.div Format.binary64 x.toModel.unpack
      y.toModel.unpack) = _
    rw [hs, unpack_of_ofFloat hy' hn, ofParts_of_ne_zero f hn]
    rfl
  · obtain ⟨m, e, hx', hm, hv'⟩ := ofFloat_of_pos hx hpos
    rw [Ratio.mkRat_ofScaled] at hv'
    have hnearest := isNearest_div hx' hm hy' hn
    rw [← hv', ← hw'] at hnearest
    exact hnearest.exists_rational? (div_pos hpos hw).le (div_le_self hpos.le hone) hx

theorem rational?_floatOfNat {n : Nat} (hn : n < 2 ^ 53) :
    rational? (floatOfNat n) = some (n : ℚ) := by
  obtain rfl | hpos := Nat.eq_zero_or_pos n
  · have hzero : rational? (floatOfNat 0) = some 0 := by decide +kernel
    simpa using hzero
  · have hword : n < Nat.pow 2 64 := Nat.lt_trans hn (by decide)
    obtain ⟨m, e, hfloat, -, hvalue⟩ := exists_toFloat_exact hpos.ne' hn
    rw [floatOfNat, if_pos hword, rational?_of_finite hfloat, if_neg Bool.false_ne_true, hvalue]

/-- A whole number of sixty-four bits is rounded to a finite float. -/
theorem exists_rational?_floatOfNat {n : Nat} (hn : n < 2 ^ 64) :
    ∃ r, Rounded n r ∧ rational? (floatOfNat n) = some r := by
  have hword : n.toUInt64.toNat = n := UInt64.toNat_ofNat_of_lt' hn
  have hlast : rational? 18446744073709551616.0 = some (2 ^ 64) := by decide +kernel
  have hle : (n : ℚ) ≤ 2 ^ 64 := by exact_mod_cast hn.le
  have hnearest := isNearest_toFloat n.toUInt64
  rw [hword] at hnearest
  have hsmall : n < Nat.pow 2 64 := hn
  rw [floatOfNat, if_pos hsmall]
  exact hnearest.exists_rational? (Nat.cast_nonneg n) hle hlast

theorem ofFloat_of_pack_nan (h : x.toModel = .pack .notANumber) : ofFloat x = .nan := by
  rw [ofFloat_eq, h]
  rfl

/-- What is calculated from no number is none. -/
theorem ofFloat_mul_nan (hx : ofFloat x = .nan) : ofFloat (x * y) = .nan := by
  refine ofFloat_of_pack_nan ?_
  change Float.Model.pack (UnpackedFloat.mul Format.binary64 x.toModel.unpack y.toModel.unpack) = _
  rw [unpack_of_nan hx]
  rfl

theorem ofFloat_div_nan (hx : ofFloat x = .nan) : ofFloat (x / y) = .nan := by
  refine ofFloat_of_pack_nan ?_
  change Float.Model.pack (UnpackedFloat.div Format.binary64 x.toModel.unpack y.toModel.unpack) = _
  rw [unpack_of_nan hx]
  rfl

end Values

/-! ## Rounding up -/

theorem Ratio.ceil_eq {r : Ratio} (h : r.den ≠ 0) : r.ceil = ⌈r.value⌉₊ := by
  refine eq_of_forall_ge_iff fun n => ?_
  have hden : (0 : ℚ) < r.den := Nat.cast_pos.2 (Nat.pos_of_ne_zero h)
  rw [Nat.ceil_le, Ratio.value, Rat.mkRat_eq_div, div_le_iff₀ hden, Ratio.ceil,
    ← Nat.lt_succ_iff, Nat.div_lt_iff_lt_mul (Nat.pos_of_ne_zero h), Nat.succ_mul]
  push_cast
  norm_cast
  omega

theorem ceilNat_eq {x : Float} (h : rational? x = some v) : ceilNat x = ⌈v⌉₊ := by
  cases hx : ofFloat x with
  | nan => exact absurd hx (ne_nan_of_rational? h)
  | infinite negative =>
    unfold rational? at h
    rw [hx] at h
    cases h
  | finite negative m e =>
    obtain rfl := Option.some_inj.1 (h.symm.trans (rational?_of_finite hx))
    rw [ceilNat, hx]
    cases negative with
    | true =>
      have hnonneg : (0 : ℚ) ≤ m * 2 ^ e := by positivity
      rw [if_pos rfl]
      exact (Nat.ceil_eq_zero.2 (neg_nonpos.2 hnonneg)).symm
    | false =>
      rw [if_neg Bool.false_ne_true, ← Ratio.value_ofScaled]
      exact Ratio.ceil_eq (Ratio.ofScaled_den_ne_zero m e)

end FedLoad
