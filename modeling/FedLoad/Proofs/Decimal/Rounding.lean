import FedLoad.Proofs.Decimal.Unpacked
import Mathlib.Tactic.NormNum
/-!
# Rounding to a float

A float has room for fifty-three digits, fewer at the least exponent only. A number of that form is
left alone by rounding if what its digits are rounded to has that form too, and it survives being
packed into sixty-four bits and taken out of them again, unless its exponent is too large: then it is
infinite.

Main statements: `Canonical.roundWithAccuracy` and `unpack_pack`.
-/
namespace FedLoad

open Float.Model Float.Model.UnpackedFloat

namespace Double

/-! ## Numbers that a double has room for -/

/-- Is this how a double writes `m · 2^e`: with fifty-three digits, or fewer at the least exponent? -/
structure Canonical (m : Nat) (e : Int) : Prop where
  digits : m.log2 ≤ 52
  least : -1074 ≤ e
  leading : -1074 < e → m.log2 = 52

/-- The number `m · 2^e`. -/
def ofParts (m : Nat) (e : Int) : UnpackedFloat :=
  if h : m = 0 then .zero .positive else .finite .positive m e (Nat.pos_of_ne_zero h)

theorem ofParts_of_ne_zero {m : Nat} (e : Int) (h : m ≠ 0) :
    ofParts m e = .finite .positive m e (Nat.pos_of_ne_zero h) := dif_neg h

theorem targetExponent_totalExponent (m : Nat) (e : Int) :
    Format.binary64.targetExponent (totalExponent m e) = max (m.log2 + e - 52) (-1074) := by
  change max ((m.log2 : Int) + 1 + e - 53) (-1074) = _
  congr 1
  omega

/-- Numbers with at most fifty-three digits, and no fewer above the least exponent. -/
theorem canonical_of_lt {m : Nat} {e : Int} (hhigh : m < 2 ^ 53) (hleast : -1074 ≤ e)
    (hlow : -1074 < e → 2 ^ 52 ≤ m) : Canonical m e where
  digits := by
    by_cases hm : m = 0
    · rw [hm]
      decide
    · exact Nat.le_of_lt_succ ((Nat.log2_lt hm).2 hhigh)
  least := hleast
  leading h := by
    have hm : m ≠ 0 := Nat.ne_of_gt (Nat.lt_of_lt_of_le (by decide) (hlow h))
    exact (Nat.log2_eq_iff hm).2 ⟨hlow h, hhigh⟩

namespace Canonical

variable {m : Nat} {e : Int}

theorem least_of_zero (h : Canonical 0 e) : e = -1074 := by
  have hnot : ¬ -1074 < e := fun hlt => absurd (h.leading hlt) (by decide)
  have hleast := h.least
  omega

theorem targetExponent (h : Canonical m e) :
    Format.binary64.targetExponent (totalExponent m e) = e := by
  obtain ⟨hdigits, hleast, hleading⟩ := h
  rw [targetExponent_totalExponent]
  omega

theorem shiftToTargetExponent (h : Canonical m e) (a : Accuracy) :
    shiftToTargetExponent Format.binary64 m e a = (.ofMantissaAndAccuracy m a, e) := by
  rw [UnpackedFloat.shiftToTargetExponent, h.targetExponent, shiftToExponent, Int.sub_self]
  exact congrArg _ (Int.add_zero e)

end Canonical

theorem le_roundToNearestEven (m : Nat) (a : Accuracy) :
    m ≤ a.roundToNearestEven m ∧ a.roundToNearestEven m ≤ m + 1 := by
  obtain - | (_ | _ | _) := a <;> simp only [Accuracy.roundToNearestEven] <;> omega

theorem roundedMantissa_ofMantissaAndAccuracy (m : Nat) (a : Accuracy) :
    (ExtendedMantissa.ofMantissaAndAccuracy m a).roundedMantissa = a.roundToNearestEven m := by
  obtain - | (_ | _ | _) := a <;> rfl

/-- Rounding is over once what was rounded has room at the exponent that was aimed at. -/
theorem roundWithAccuracy_of_shift {m : Nat} {e t : Int} {a : Accuracy} {em : ExtendedMantissa}
    (hshift : shiftToTargetExponent Format.binary64 m e a = (em, t))
    (hround : Canonical em.roundedMantissa t) :
    roundWithAccuracy Format.binary64 .positive m e a = ofParts em.roundedMantissa t := by
  rw [roundWithAccuracy, hshift]
  dsimp only
  rw [hround.shiftToTargetExponent]
  rfl

/-- Where both the digits and what they are rounded to have room, rounding moves nothing. -/
theorem Canonical.roundWithAccuracy {m : Nat} {e : Int} {a : Accuracy} (h : Canonical m e)
    (hround : Canonical (a.roundToNearestEven m) e) :
    roundWithAccuracy Format.binary64 .positive m e a = ofParts (a.roundToNearestEven m) e := by
  rw [← roundedMantissa_ofMantissaAndAccuracy] at hround ⊢
  exact roundWithAccuracy_of_shift (h.shiftToTargetExponent a) hround

/-- A digit too many is taken off by going up one exponent. -/
theorem shiftToTargetExponent_two_pow {t : Int} (h : -1074 ≤ t) :
    shiftToTargetExponent Format.binary64 (2 ^ 53) t .exact =
      (.ofMantissaAndAccuracy (2 ^ 52) .exact, t + 1) := by
  have htarget : Format.binary64.targetExponent (totalExponent (2 ^ 53) t) = t + 1 := by
    have hdigits : Nat.log2 (2 ^ 53) = 53 := by decide
    rw [targetExponent_totalExponent, hdigits]
    omega
  have hone : (t + 1 - t).toNat = 1 := by omega
  rw [shiftToTargetExponent, htarget, shiftToExponent, hone]
  rfl

theorem roundWithAccuracy_two_pow {t : Int} (h : -1074 ≤ t) :
    roundWithAccuracy Format.binary64 .positive (2 ^ 53) t .exact = ofParts (2 ^ 52) (t + 1) :=
  roundWithAccuracy_of_shift (shiftToTargetExponent_two_pow h)
    (canonical_of_lt (by decide) (by omega) fun _ => Nat.le_refl _)

/-- It may also be rounding up that gives a digit too many. -/
theorem roundWithAccuracy_of_shift_two_pow {m : Nat} {e t : Int} {a : Accuracy}
    {em : ExtendedMantissa} (hshift : shiftToTargetExponent Format.binary64 m e a = (em, t))
    (hround : em.roundedMantissa = 2 ^ 53) (ht : -1074 ≤ t) :
    roundWithAccuracy Format.binary64 .positive m e a = ofParts (2 ^ 52) (t + 1) := by
  rw [roundWithAccuracy, hshift]
  dsimp only
  rw [hround, shiftToTargetExponent_two_pow ht]
  rfl

/-! ## Packing -/

theorem unpackSign_packComponents {spec : Format} {sign : Sign} {exponent : BitVec spec.exponentBits}
    {mantissa : BitVec spec.mantissaBitsWithoutImplicit} :
    unpackSign (packComponents spec sign exponent mantissa) = sign.toBitVec := by
  ext i hi
  have hindex : spec.mantissaBitsWithoutImplicit + spec.exponentBits + i -
      spec.mantissaBitsWithoutImplicit - spec.exponentBits = i := by omega
  unfold unpackSign packComponents
  simp only [BitVec.getElem_cast, BitVec.getElem_extract, BitVec.getLsbD_append]
  rw [if_neg (by omega), if_neg (by omega), hindex, BitVec.getLsbD_eq_getElem]

/-- What bits without a sign stand for. -/
theorem unpack_of_unsigned {b : BitVec 64} (h : @unpackSign Format.binary64 b = 0#1) :
    unpack Format.binary64 b =
      if @unpackExponent Format.binary64 b = -1#11 then
        if @unpackMantissa Format.binary64 b = 0#52 then .infinity .positive else .notANumber
      else if @unpackExponent Format.binary64 b = 0#11 then
        ofParts (@unpackMantissa Format.binary64 b).toNat (-1074)
      else ofParts (Nat.pow 2 52 + (@unpackMantissa Format.binary64 b).toNat)
        ((@unpackExponent Format.binary64 b).toNat - 1075) := by
  unfold UnpackedFloat.unpack
  dsimp only
  rw [h]
  by_cases hlast : @unpackExponent Format.binary64 b = -1#11
  · rw [if_pos hlast, if_pos hlast]
    rfl
  · rw [if_neg hlast, if_neg hlast]
    by_cases hfirst : @unpackExponent Format.binary64 b = 0#11
    · rw [if_pos hfirst, if_pos hfirst]
      by_cases hzero : @unpackMantissa Format.binary64 b = 0#52
      · rw [dif_pos hzero, hzero]
        rfl
      · have hne : (@unpackMantissa Format.binary64 b).toNat ≠ 0 := fun h =>
          hzero (BitVec.eq_of_toNat_eq h)
        rw [dif_neg hzero, hfirst, ofParts_of_ne_zero _ hne]
        rfl
    · have hne : (1#1 ++ @unpackMantissa Format.binary64 b).toNat ≠ 0 := by
        rw [toNat_leadingOne]
        exact Nat.ne_of_gt (Nat.add_pos_left (Nat.two_pow_pos 52) _)
      rw [if_neg hfirst, if_neg hfirst, ← toNat_leadingOne, ofParts_of_ne_zero _ hne]
      rfl

theorem unpack_packComponents (exponent : BitVec 11) (fraction : BitVec 52) :
    unpack Format.binary64 (packComponents Format.binary64 .positive exponent fraction) =
      if exponent = -1#11 then
        if fraction = 0#52 then .infinity .positive else .notANumber
      else if exponent = 0#11 then ofParts fraction.toNat (-1074)
      else ofParts (Nat.pow 2 52 + fraction.toNat) (exponent.toNat - 1075) := by
  have hexponent : @unpackExponent Format.binary64
      (packComponents Format.binary64 .positive exponent fraction) = exponent :=
    unpackExponent_packComponents
  have hfraction : @unpackMantissa Format.binary64
      (packComponents Format.binary64 .positive exponent fraction) = fraction :=
    unpackMantissa_packComponents
  rw [unpack_of_unsigned unpackSign_packComponents, hexponent, hfraction]

/-- The bits of a number that is not negative. -/
theorem pack_ofParts {m : Nat} {e : Int} (h : Canonical m e) :
    pack Format.binary64 (ofParts m e) =
      if 971 < e then packedInfinity Format.binary64 .positive
      else packComponents Format.binary64 .positive
        (if m.log2 = 52 then BitVec.ofNat 11 (e + 1075).toNat else 0#11) (BitVec.ofNat 52 m) := by
  by_cases hm : m = 0
  · subst hm
    rw [h.least_of_zero]
    rfl
  · obtain ⟨hdigits, hleast, hleading⟩ := h
    rw [ofParts_of_ne_zero e hm]
    have hbias : e + 1023 + 52 = e + 1075 := Int.add_assoc e 1023 52
    change (if 2 ^ 11 ≤ (e + 1023 + 52).toNat + 1 then packedInfinity Format.binary64 .positive
      else if m.log2 + 1 = 53 then packComponents Format.binary64 .positive
        (BitVec.ofNat 11 (e + 1023 + 52).toNat) (BitVec.ofNat 52 m)
      else packComponents Format.binary64 .positive 0#11 (BitVec.ofNat 52 m)) = _
    rw [hbias]
    by_cases hbig : 971 < e
    · rw [if_pos hbig, if_pos (by omega)]
    · rw [if_neg hbig, if_neg (by omega)]
      by_cases hdigit : m.log2 = 52
      · rw [if_pos (by omega), if_pos hdigit]
      · rw [if_neg (by omega), if_neg hdigit]

/-- Without its leading one a number of fifty-three digits has fifty-two of them. -/
theorem leadingOne_add_fraction {m : Nat} (h : m.log2 = 52) :
    Nat.pow 2 52 + (BitVec.ofNat 52 m).toNat = m := by
  have hm : m ≠ 0 := by
    rintro rfl
    exact absurd h (by decide)
  obtain ⟨hlow, hhigh⟩ := (Nat.log2_eq_iff hm).1 h
  rw [BitVec.toNat_ofNat]
  change 2 ^ 52 + m % 2 ^ 52 = m
  omega

/-- What has room in a double comes out of it again, unless its exponent is too large. -/
theorem unpack_pack {m : Nat} {e : Int} (h : Canonical m e) :
    (Float.Model.pack (ofParts m e)).unpack =
      if 971 < e then .infinity .positive else ofParts m e := by
  change UnpackedFloat.unpack Format.binary64 (UnpackedFloat.pack Format.binary64 (ofParts m e)) = _
  rw [pack_ofParts h]
  obtain ⟨hdigits, hleast, hleading⟩ := h
  by_cases hbig : 971 < e
  · rw [if_pos hbig, if_pos hbig, packedInfinity]
    exact (unpack_packComponents _ _).trans rfl
  · rw [if_neg hbig, if_neg hbig, unpack_packComponents]
    by_cases hdigit : m.log2 = 52
    · have hscale : (BitVec.ofNat 11 (e + 1075).toNat).toNat = (e + 1075).toNat := by
        rw [BitVec.toNat_ofNat]
        omega
      have hlast : BitVec.ofNat 11 (e + 1075).toNat ≠ -1#11 := fun h => by
        have hnat : (e + 1075).toNat = 2047 := hscale.symm.trans (congrArg BitVec.toNat h)
        omega
      have hfirst : BitVec.ofNat 11 (e + 1075).toNat ≠ 0#11 := fun h => by
        have hnat : (e + 1075).toNat = 0 := hscale.symm.trans (congrArg BitVec.toNat h)
        omega
      rw [if_pos hdigit, if_neg hlast, if_neg hfirst, hscale, leadingOne_add_fraction hdigit]
      congr 1
      omega
    · have hlt : m < 2 ^ 52 :=
        Nat.lt_of_lt_of_le Nat.lt_log2_self (Nat.pow_le_pow_right (by decide) (by omega))
      have he : e = -1074 := by omega
      rw [if_neg hdigit, if_neg (by decide), if_pos rfl, BitVec.toNat_ofNat, Nat.mod_eq_of_lt hlt,
        he]

/-! ## Floats taken apart -/

theorem Canonical.ofUnpacked_ofParts {m : Nat} {e : Int} (h : Canonical m e) :
    ofUnpacked (ofParts m e) = .finite false m e := by
  by_cases hm : m = 0
  · subst hm
    rw [h.least_of_zero]
    rfl
  · rw [ofParts_of_ne_zero e hm]
    rfl

/-- What a float is taken apart into has room in a float. -/
theorem canonical_of_ofFloat {x : Float} {negative : Bool} {m : Nat} {e : Int}
    (h : ofFloat x = .finite negative m e) : Canonical m e ∧ e ≤ 971 := by
  have hfraction : x.toBits.toNat % Nat.pow 2 52 < 2 ^ 52 := Nat.mod_lt _ (Nat.two_pow_pos 52)
  have hscale : x.toBits.toNat / Nat.pow 2 52 % Nat.pow 2 11 < 2 ^ 11 :=
    Nat.mod_lt _ (Nat.two_pow_pos 11)
  unfold ofFloat at h
  dsimp only at h
  generalize x.toBits.toNat / Nat.pow 2 52 % Nat.pow 2 11 = scale at h hscale
  generalize x.toBits.toNat % Nat.pow 2 52 = fraction at h hfraction
  split at h
  · split at h <;> cases h
  · split at h
    · cases h
      exact ⟨canonical_of_lt (by omega) (Int.le_refl _) (absurd · (Int.lt_irrefl _)), by decide⟩
    · cases h
      have hleading : 2 ^ 52 ≤ Nat.pow 2 52 + fraction := Nat.le_add_right _ _
      have hdigits : Nat.pow 2 52 + fraction < 2 ^ 53 := by
        change 2 ^ 52 + fraction < 2 ^ 53
        omega
      exact ⟨canonical_of_lt hdigits (by omega) fun _ => hleading, by omega⟩

end Double

end FedLoad
