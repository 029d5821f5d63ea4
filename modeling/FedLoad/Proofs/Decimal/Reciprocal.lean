import FedLoad.Proofs.Decimal.Rounding
import Mathlib.Algebra.Order.Field.Power
/-!
# Reciprocals of floats

A float is divided by shifting one mantissa to the left, dividing by the other, and rounding what
comes out to fifty-three digits. Of a reciprocal all of this can be followed exactly: the quotient has
just the digits that there is room for (`le_quotient`, `quotient_succ_lt`), but for a power of two,
whose reciprocal is a power of two (`two_pow_quotientShift`). So rounding moves no digit to another
place, and the reciprocal reaches a power of two exactly if the float is at most the inverse of it.

For numbers between powers of two this rests on how many digits a float has. The inverse of a float
just above `2^-n` is far enough below `2^n` to be rounded to something below it.

Main statement: `Double.reaches_reciprocal_iff`.
-/
namespace FedLoad

open Float.Model Float.Model.UnpackedFloat

namespace Double

/-! ## Dividing one -/

section Quotient

variable {m : Nat} {e : Int}

/-- The exponent of the digits of `1 / (m · 2^e)`. -/
def quotientExponent (m : Nat) (e : Int) : Int := max (-53 - m.log2 - e) (-1074)

/-- By how many places a one is shifted to the left before it is divided. -/
def quotientShift (m : Nat) (e : Int) : Nat := (-e - quotientExponent m e).toNat

theorem quotientExponent_eq (m : Nat) (e : Int) :
    quotientExponent m e = max (-53 - m.log2 - e) (-1074) := rfl

theorem quotientShift_eq (m : Nat) (e : Int) :
    quotientShift m e = (-e - quotientExponent m e).toNat := rfl

theorem divCore_one (he : e ≤ 971) :
    divCore Format.binary64 (2 ^ 52) (-52) m e = (2 ^ quotientShift m e / m, quotientExponent m e,
      accuracyOfFraction (2 ^ quotientShift m e % m) m) := by
  have hexponent := quotientExponent_eq m e
  have htarget : min (-52 - e) (Format.binary64.targetExponent
      (totalExponent (2 ^ 52) (-52) - totalExponent m e)) = quotientExponent m e := by
    have hone : totalExponent (2 ^ 52) (-52) = 1 := by decide
    rw [hone]
    change min _ (max (1 - ((m.log2 : Int) + 1 + e) - 53) (-1074)) = _
    omega
  have hshift : 2 ^ 52 <<< (-52 - e - quotientExponent m e).toNat = 2 ^ quotientShift m e := by
    rw [Nat.shiftLeft_eq, ← Nat.pow_add, quotientShift_eq]
    congr 1
    omega
  rw [divCore, htarget, hshift]

/-- Of a power of two the quotient is one as well, with a digit too many. -/
theorem two_pow_quotientShift (hpower : m = 2 ^ m.log2) (h : -1074 ≤ -53 - m.log2 - e) :
    2 ^ quotientShift m e = 2 ^ 53 * m := by
  have hexponent := quotientExponent_eq m e
  have hshift : quotientShift m e = 53 + m.log2 := by
    rw [quotientShift_eq]
    omega
  rw [hshift, Nat.pow_add, ← hpower]

/-- Of any other number there is room for the quotient and for what it may be rounded up to. -/
theorem quotient_succ_lt (hm : m ≠ 0) (hdigits : m.log2 ≤ 52)
    (h : ¬ (m = 2 ^ m.log2 ∧ -1074 ≤ -53 - m.log2 - e)) :
    2 ^ quotientShift m e / m + 1 < 2 ^ 53 := by
  have hexponent := quotientExponent_eq m e
  have hlow : 2 ^ m.log2 ≤ m := Nat.log2_self_le hm
  have hhigh : m < 2 ^ 53 :=
    Nat.lt_of_lt_of_le Nat.lt_log2_self (Nat.pow_le_pow_right (by decide) (by omega))
  have hshifted {k : Nat} (hle : quotientShift m e ≤ k + m.log2) :
      2 ^ quotientShift m e ≤ 2 ^ k * 2 ^ m.log2 := by
    rw [← Nat.pow_add]
    exact Nat.pow_le_pow_right (by decide) hle
  have hone : 2 ^ quotientShift m e < (2 ^ 53 - 1) * m := by
    rw [quotientShift_eq] at hshifted ⊢
    -- either there is a digit besides the highest, or one is shifted by a place less
    obtain hpower | hsmall := not_and_or.1 h
    · have hle := hshifted (k := 53) (by omega)
      omega
    · have hle := hshifted (k := 52) (by omega)
      omega
  have hlt : 2 ^ quotientShift m e / m < 2 ^ 53 - 1 :=
    Nat.div_lt_of_lt_mul (by rwa [Nat.mul_comm])
  omega

/-- Above the least exponent the quotient has all digits. -/
theorem le_quotient (hm : m ≠ 0) (h : -1074 < quotientExponent m e) :
    2 ^ 52 ≤ 2 ^ quotientShift m e / m := by
  have hexponent := quotientExponent_eq m e
  have hshift : quotientShift m e = 52 + (m.log2 + 1) := by
    rw [quotientShift_eq]
    omega
  refine (Nat.le_div_iff_mul_le (Nat.pos_of_ne_zero hm)).2 ?_
  rw [hshift, Nat.pow_add]
  exact Nat.mul_le_mul_left _ (Nat.le_of_lt Nat.lt_log2_self)

/-- One divided by a positive number, and the powers of two that the result reaches. -/
theorem exists_one_div (hm : m ≠ 0) (hdigits : m.log2 ≤ 52) (he : e ≤ 971) :
    ∃ r t, Canonical r t ∧
      div Format.binary64 (ofParts (2 ^ 52) (-52)) (ofParts m e) = ofParts r t ∧
      ∀ n : Nat, r ≠ 0 ∧ (n : Int) ≤ r.log2 + t ↔
        m.log2 + e < -n ∨ m.log2 + e = -n ∧ m = 2 ^ m.log2 := by
  have hexponent := quotientExponent_eq m e
  have hdiv : div Format.binary64 (ofParts (2 ^ 52) (-52)) (ofParts m e) =
      roundWithAccuracy Format.binary64 .positive (2 ^ quotientShift m e / m) (quotientExponent m e)
        (accuracyOfFraction (2 ^ quotientShift m e % m) m) := by
    rw [ofParts_of_ne_zero (-52) (by decide), ofParts_of_ne_zero e hm]
    change (let p := divCore Format.binary64 (2 ^ 52) (-52) m e;
      roundWithAccuracy Format.binary64 .positive p.1 p.2.1 p.2.2) = _
    rw [divCore_one he]
  by_cases hpower : m = 2 ^ m.log2 ∧ -1074 ≤ -53 - m.log2 - e
  · have hlog : Nat.log2 (2 ^ 52) = 52 := by decide
    refine ⟨2 ^ 52, quotientExponent m e + 1, ?_, ?_, fun n => ?_⟩
    · exact canonical_of_lt (by decide) (by omega) fun _ => Nat.le_refl _
    · rw [hdiv, two_pow_quotientShift hpower.1 hpower.2, Nat.mul_mod_left,
        Nat.mul_div_cancel _ (Nat.pos_of_ne_zero hm)]
      exact roundWithAccuracy_two_pow (by omega)
    · rw [hlog, and_iff_right (by decide), and_iff_left hpower.1]
      omega
  · generalize accuracyOfFraction (2 ^ quotientShift m e % m) m = a at hdiv
    have hlt := quotient_succ_lt hm hdigits hpower
    have hlow := le_quotient (e := e) hm
    generalize 2 ^ quotientShift m e / m = q at hdiv hlt hlow
    have hbounds := le_roundToNearestEven q a
    have hquotient : Canonical q (quotientExponent m e) :=
      canonical_of_lt (by omega) (by omega) hlow
    have hround : Canonical (a.roundToNearestEven q) (quotientExponent m e) :=
      canonical_of_lt (by omega) (by omega) fun h => (hlow h).trans hbounds.1
    refine ⟨_, _, hround, hdiv.trans (hquotient.roundWithAccuracy hround), fun n => ?_⟩
    obtain ⟨hle, -, hleading⟩ := hround
    by_cases hleast : quotientExponent m e = -1074
    · refine iff_of_false (fun h => ?_) (fun h => ?_) <;> omega
    · have hlog := hleading (by omega)
      have hother : m ≠ 2 ^ m.log2 := fun h => hpower ⟨h, by omega⟩
      have hne : a.roundToNearestEven q ≠ 0 := by
        have hleading := hlow (by omega)
        omega
      rw [and_iff_right hne, or_iff_left (fun h => hother h.2)]
      omega

end Quotient

/-! ## Powers of two below and above -/

/-- Is this at least `2^n`? -/
def Reaches (n : Nat) : Double → Prop
  | .finite negative m e => negative = false ∧ 2 ^ n ≤ (Ratio.ofScaled m e).floor
  | .infinite negative => negative = false
  | .nan => False

theorem log2_mul_two_pow {m : Nat} (hm : m ≠ 0) (d : Nat) : (m * 2 ^ d).log2 = m.log2 + d := by
  have hpow : 0 < 2 ^ d := Nat.two_pow_pos d
  refine (Nat.log2_eq_iff (Nat.mul_ne_zero hm hpow.ne')).2 ⟨?_, ?_⟩
  · rw [Nat.pow_add]
    exact Nat.mul_le_mul_right _ (Nat.log2_self_le hm)
  · rw [Nat.add_right_comm, Nat.pow_add]
    exact Nat.mul_lt_mul_of_pos_right Nat.lt_log2_self hpow

theorem Ratio.floor_ofScaled_zero (e : Int) : (ofScaled 0 e).floor = 0 := by
  unfold ofScaled floor
  split <;> simp

/-- The highest digit says which powers of two are not above a number. -/
theorem Ratio.two_pow_le_floor {m n : Nat} {e : Int} :
    2 ^ n ≤ (ofScaled m e).floor ↔ m ≠ 0 ∧ (n : Int) ≤ m.log2 + e := by
  by_cases hm : m = 0
  · rw [hm, floor_ofScaled_zero]
    exact iff_of_false (Nat.not_le_of_lt (Nat.two_pow_pos n)) (fun h => h.1 rfl)
  · rw [and_iff_right hm]
    unfold ofScaled floor
    split
    · next he =>
      change 2 ^ n ≤ m * 2 ^ e.toNat / 1 ↔ _
      have hne : m * 2 ^ e.toNat ≠ 0 := Nat.mul_ne_zero hm (Nat.two_pow_pos _).ne'
      rw [Nat.div_one, ← Nat.le_log2 hne, log2_mul_two_pow hm]
      omega
    · next he =>
      change 2 ^ n ≤ m / 2 ^ (-e).toNat ↔ _
      rw [Nat.le_div_iff_mul_le (Nat.two_pow_pos _), ← Nat.pow_add, ← Nat.le_log2 hm]
      omega

theorem Ratio.mkRat_ofScaled (m : Nat) (e : Int) :
    mkRat (ofScaled m e).num (ofScaled m e).den = (m : ℚ) * 2 ^ e := by
  rw [Rat.mkRat_eq_div]
  unfold ofScaled
  split
  · next he =>
    obtain ⟨d, rfl⟩ := Int.eq_ofNat_of_zero_le he
    simp
  · next he =>
    obtain ⟨d, hd⟩ := Int.eq_ofNat_of_zero_le (a := -e) (by omega)
    obtain rfl : e = -d := by omega
    simp [div_eq_mul_inv]

/-- The highest digit, and whether there is any other, say which powers of two a number is at most. -/
theorem natCast_le_two_zpow {m : Nat} {j : Int} (hm : m ≠ 0) :
    (m : ℚ) ≤ 2 ^ j ↔ m.log2 < j ∨ m.log2 = j ∧ m = 2 ^ m.log2 := by
  have hlow : (2 : ℚ) ^ (m.log2 : Int) ≤ m := by
    rw [zpow_natCast]
    exact_mod_cast Nat.log2_self_le hm
  have hhigh : (m : ℚ) < 2 ^ ((m.log2 : Int) + 1) := by
    rw [← Nat.cast_succ, zpow_natCast]
    exact_mod_cast Nat.lt_log2_self
  obtain hlt | rfl | hgt := lt_trichotomy (m.log2 : Int) j
  · exact iff_of_true (hhigh.le.trans (zpow_le_zpow_right₀ (by norm_num) hlt)) (.inl hlt)
  · have hle : (m : ℚ) ≤ 2 ^ m.log2 ↔ m ≤ 2 ^ m.log2 := by exact_mod_cast Iff.rfl
    rw [or_iff_right (lt_irrefl _), and_iff_right rfl, zpow_natCast, hle]
    exact ⟨fun h => h.antisymm (Nat.log2_self_le hm), Eq.le⟩
  · have hbelow : (2 : ℚ) ^ j < 2 ^ (m.log2 : Int) := zpow_lt_zpow_right₀ (by norm_num) hgt
    exact iff_of_false (hbelow.trans_le hlow).not_ge (by omega)

theorem Ratio.mkRat_le_inv_two_pow {m n : Nat} {e : Int} (hm : m ≠ 0) :
    mkRat (ofScaled m e).num (ofScaled m e).den ≤ 1 / 2 ^ n ↔
      m.log2 + e < -n ∨ m.log2 + e = -n ∧ m = 2 ^ m.log2 := by
  have hpow : (0 : ℚ) < 2 ^ e := zpow_pos (by norm_num) e
  have hinv : (1 : ℚ) / 2 ^ n = 2 ^ (-n - e : Int) * 2 ^ e := by
    rw [← zpow_add₀ (by norm_num), Int.sub_add_cancel, zpow_neg, zpow_natCast, one_div]
  rw [mkRat_ofScaled, hinv, mul_le_mul_iff_left₀ hpow, natCast_le_two_zpow hm]
  omega

/-! ## Reciprocals of floats -/

theorem ofFloat_of_pos {x : Float} {q : ℚ} (h : rational? x = some q) (hpos : 0 < q) :
    ∃ m e, ofFloat x = .finite false m e ∧ m ≠ 0 ∧
      q = mkRat (Ratio.ofScaled m e).num (Ratio.ofScaled m e).den := by
  unfold rational? at h
  split at h
  · next negative m e hfinite =>
    cases h
    have hnonneg := Ratio.nonneg (Ratio.ofScaled m e)
    cases negative with
    | true => exact absurd hpos (neg_nonpos.2 hnonneg).not_gt
    | false =>
      refine ⟨m, e, hfinite, fun hm => hpos.ne' ?_, rfl⟩
      exact Ratio.ofScaled_eq_zero.2 hm
  · cases h

theorem unpack_of_ofFloat {x : Float} {m : Nat} {e : Int} (h : ofFloat x = .finite false m e)
    (hm : m ≠ 0) : x.toModel.unpack = ofParts m e := by
  rw [ofFloat_eq] at h
  cases hunpack : x.toModel.unpack with
  | notANumber | infinity s =>
    rw [hunpack] at h
    cases h
  | zero s =>
    rw [hunpack] at h
    exact absurd (finite.inj h).2.1.symm hm
  | finite s m' e' hpos =>
    rw [hunpack] at h
    obtain ⟨hsign, rfl, rfl⟩ := finite.inj h
    cases s with
    | positive => exact (ofParts_of_ne_zero _ hm).symm
    | negative => exact absurd hsign (by decide)

/-- The reciprocal of a positive double, and the powers of two that it reaches. -/
theorem ofFloat_reciprocal {x : Float} {q : ℚ} (h : rational? x = some q) (hpos : 0 < q) :
    ∃ r t, ofFloat (1.0 / x) = (if 971 < t then .infinite false else .finite false r t) ∧
      Canonical r t ∧ ∀ n : Nat, r ≠ 0 ∧ (n : Int) ≤ r.log2 + t ↔ q ≤ 1 / 2 ^ n := by
  obtain ⟨m, e, hparts, hm, rfl⟩ := ofFloat_of_pos h hpos
  obtain ⟨hfits, he⟩ := canonical_of_ofFloat hparts
  obtain ⟨r, t, hcanonical, hdiv, hreaches⟩ := exists_one_div hm hfits.digits he
  have hone : (1.0 : Float).toModel.unpack = ofParts (2 ^ 52) (-52) := rfl
  refine ⟨r, t, ?_, hcanonical, fun n =>
    (hreaches n).trans (Ratio.mkRat_le_inv_two_pow hm).symm⟩
  rw [ofFloat_eq]
  change ofUnpacked (Float.Model.pack (div Format.binary64 (1.0 : Float).toModel.unpack
    x.toModel.unpack)).unpack = _
  rw [hone, unpack_of_ofFloat hparts hm, hdiv, unpack_pack hcanonical]
  split
  · rfl
  · exact hcanonical.ofUnpacked_ofParts

/-- Rounding takes the reciprocal of a double neither up to a power of two nor down from it. -/
theorem reaches_reciprocal_iff {x : Float} {q : ℚ} (h : rational? x = some q) (hpos : 0 < q)
    {n : Nat} (hn : n ≤ 1024) : (ofFloat (1.0 / x)).Reaches n ↔ q ≤ 1 / 2 ^ n := by
  obtain ⟨r, t, hreciprocal, hcanonical, hreaches⟩ := ofFloat_reciprocal h hpos
  rw [← hreaches, hreciprocal]
  split
  · next hbig =>
    have hdigits := hcanonical.leading (by omega)
    have hr : r ≠ 0 := by
      rintro rfl
      have hleast := hcanonical.least_of_zero
      omega
    exact iff_of_true rfl ⟨hr, by omega⟩
  · exact (and_iff_right rfl).trans Ratio.two_pow_le_floor

end Double

/-! ## Positive floats -/

/-- A float is finite and above zero exactly if its exact value is so. -/
theorem rational?_pos (x : Float) :
    isFinite x = true ∧ 0.0 < x ↔ ∃ q, rational? x = some q ∧ 0 < q := by
  have hzero : (0.0 : Float).toModel.unpack = .zero .positive := rfl
  have hlt : 0.0 < x ↔ (UnpackedFloat.zero .positive).lt x.toModel.unpack := by
    rw [← hzero]
    exact decide_eq_true_iff
  unfold isFinite rational?
  rw [Double.ofFloat_eq, hlt]
  cases x.toModel.unpack with
  | notANumber => exact iff_of_false (fun h => Bool.false_ne_true h.1) (fun ⟨_, h, _⟩ => nomatch h)
  | infinity s => exact iff_of_false (fun h => Bool.false_ne_true h.1) (fun ⟨_, h, _⟩ => nomatch h)
  | zero s =>
    refine iff_of_false (fun h => Bool.false_ne_true h.2) ?_
    rintro ⟨q, hq, hpos⟩
    cases hq
    rw [Double.Ratio.ofScaled_eq_zero.2 rfl] at hpos
    cases s <;> exact absurd hpos (by decide)
  | finite s m e hm =>
    have hvalue : 0 < mkRat (Double.Ratio.ofScaled m e).num (Double.Ratio.ofScaled m e).den :=
      (Double.Ratio.nonneg _).lt_of_ne' (mt Double.Ratio.ofScaled_eq_zero.1 hm.ne')
    cases s with
    | positive => exact iff_of_true ⟨rfl, rfl⟩ ⟨_, rfl, hvalue⟩
    | negative =>
      refine iff_of_false (fun h => Bool.false_ne_true h.2) ?_
      rintro ⟨q, hq, hpos⟩
      cases hq
      exact absurd hpos (neg_neg_of_pos hvalue).not_gt

end FedLoad
