import FedLoad.Decimal.Double
/-!
# Doubles and the comparison of floats

Exact statements about a float are made on what its bits are taken apart into, while floats are
compared on unpacked numbers that tell zero from other finite values. Both views are the same, so
that a float is below zero exactly if its exact value is.

Main statements: `Double.ofFloat_eq`, and `rational?_nonneg` for rates.
-/
namespace FedLoad

open Float.Model Float.Model.UnpackedFloat

namespace Double

/-- What an unpacked number stands for. -/
def ofUnpacked : UnpackedFloat → Double
  | .notANumber => .nan
  | .infinity s => .infinite (s == .negative)
  | .zero s => .finite (s == .negative) 0 (-1074)
  | .finite s m e _ => .finite (s == .negative) m e

/-! ## The parts of sixty-four bits -/

section

variable (b : BitVec 64)

theorem toNat_unpackMantissa :
    (@unpackMantissa Format.binary64 b).toNat = b.toNat % Nat.pow 2 52 :=
  BitVec.extractLsb_toNat 51 0 b

theorem toNat_unpackExponent :
    (@unpackExponent Format.binary64 b).toNat = b.toNat / Nat.pow 2 52 % Nat.pow 2 11 := by
  have hbits := BitVec.extractLsb_toNat 62 52 b
  rw [Nat.shiftRight_eq_div_pow] at hbits
  exact hbits

theorem toNat_unpackSign : (@unpackSign Format.binary64 b).toNat = b.toNat / Nat.pow 2 63 := by
  have hlast : b.toNat / 2 ^ 63 < 2 ^ 1 := Nat.div_lt_of_lt_mul b.isLt
  have hbit := BitVec.extractLsb_toNat 63 63 b
  rw [Nat.shiftRight_eq_div_pow] at hbit
  exact hbit.trans (Nat.mod_eq_of_lt hlast)

theorem ofBitVec_unpackSign :
    (Sign.ofBitVec (@unpackSign Format.binary64 b) == .negative) =
      decide (1 ≤ b.toNat / Nat.pow 2 63) := by
  rw [← toNat_unpackSign b, Sign.ofBitVec]
  generalize @unpackSign Format.binary64 b = sign
  by_cases h : sign = 0#1
  · rw [if_pos h, h]
    rfl
  · have hpos : 1 ≤ sign.toNat := Nat.pos_of_ne_zero fun hzero => h (BitVec.eq_of_toNat_eq hzero)
    rw [if_neg h, decide_eq_true hpos]
    rfl

/-- Of a normal number the leading one is not among the bits. -/
theorem toNat_leadingOne (fraction : BitVec 52) :
    (1#1 ++ fraction).toNat = Nat.pow 2 52 + fraction.toNat := by
  have hlt := fraction.isLt
  rw [BitVec.toNat_append, Nat.or_comm, Nat.shiftLeft_eq, Nat.mul_comm, Nat.or_comm,
    ← Nat.two_pow_add_eq_or_of_lt hlt]
  rfl

end

/-- Taking the bits apart is unpacking. -/
theorem ofFloat_eq (x : Float) : ofFloat x = ofUnpacked x.toModel.unpack := by
  have hbits : x.toBits.toNat = x.toModel.toBits.toBitVec.toNat := rfl
  unfold ofFloat Float.Model.unpack UnpackedFloat.unpack
  rw [hbits]
  generalize x.toModel.toBits.toBitVec = b
  dsimp only
  rw [← toNat_unpackMantissa b, ← toNat_unpackExponent b, ← ofBitVec_unpackSign b]
  have hlast : (@unpackExponent Format.binary64 b).toNat = 2047 ↔
      @unpackExponent Format.binary64 b = -1#11 :=
    ⟨fun h => BitVec.eq_of_toNat_eq h, fun h => by rw [h]; rfl⟩
  have hfirst : (@unpackExponent Format.binary64 b).toNat = 0 ↔
      @unpackExponent Format.binary64 b = 0#11 :=
    ⟨fun h => BitVec.eq_of_toNat_eq h, fun h => by rw [h]; rfl⟩
  have hzero : (@unpackMantissa Format.binary64 b).toNat = 0 ↔
      @unpackMantissa Format.binary64 b = 0#52 :=
    ⟨fun h => BitVec.eq_of_toNat_eq h, fun h => by rw [h]; rfl⟩
  by_cases h₁ : @unpackExponent Format.binary64 b = -1#11
  · rw [if_pos (hlast.2 h₁), if_pos h₁]
    by_cases h₂ : @unpackMantissa Format.binary64 b = 0#52
    · rw [if_pos (hzero.2 h₂), if_pos h₂]
      rfl
    · rw [if_neg (mt hzero.1 h₂), if_neg h₂]
      rfl
  · rw [if_neg (mt hlast.1 h₁), if_neg h₁]
    by_cases h₂ : @unpackExponent Format.binary64 b = 0#11
    · rw [if_pos (hfirst.2 h₂), if_pos h₂]
      by_cases h₃ : @unpackMantissa Format.binary64 b = 0#52
      · rw [dif_pos h₃, hzero.2 h₃]
        rfl
      · rw [dif_neg h₃, hfirst.2 h₂]
        rfl
    · rw [if_neg (mt hfirst.1 h₂), if_neg h₂, ← toNat_leadingOne]
      rfl

/-! ## Exact values -/

theorem Ratio.nonneg (r : Ratio) : 0 ≤ mkRat r.num r.den := by
  rw [← Rat.divInt_ofNat]
  exact Rat.divInt_nonneg (Int.natCast_nonneg _) (Int.natCast_nonneg _)

theorem Ratio.ofScaled_eq_zero {m : Nat} {e : Int} :
    mkRat (ofScaled m e).num (ofScaled m e).den = 0 ↔ m = 0 := by
  unfold ofScaled
  have hpow : ∀ n, Nat.pow 2 n ≠ 0 := fun n => Nat.ne_of_gt (Nat.two_pow_pos n)
  by_cases he : 0 ≤ e
  · rw [if_pos he, Rat.mkRat_eq_zero Nat.one_ne_zero, Int.natCast_eq_zero, Nat.mul_eq_zero]
    exact or_iff_left (hpow _)
  · rw [if_neg he, Rat.mkRat_eq_zero (hpow _)]
    exact Int.natCast_eq_zero

end Double

/-! ## Rates -/

/-- A float is finite and not below zero exactly if its exact value is so. -/
theorem rational?_nonneg (x : Float) :
    (isFinite x && !(x < 0.0)) = true ↔ ∃ q, rational? x = some q ∧ 0 ≤ q := by
  have hzero : (0.0 : Float).toModel.unpack = .zero .positive := rfl
  have hlt : (x < 0.0) ↔ x.toModel.unpack.lt (.zero .positive) := by
    rw [← hzero]
    exact decide_eq_true_iff
  unfold isFinite rational?
  rw [Double.ofFloat_eq, Bool.and_eq_true, Bool.not_eq_true', decide_eq_false_iff_not, hlt]
  cases x.toModel.unpack with
  | notANumber => exact iff_of_false (fun h => Bool.false_ne_true h.1) (fun ⟨_, h, _⟩ => nomatch h)
  | infinity s => exact iff_of_false (fun h => Bool.false_ne_true h.1) (fun ⟨_, h, _⟩ => nomatch h)
  | zero s =>
    refine iff_of_true ⟨rfl, Bool.false_ne_true⟩ ⟨_, rfl, ?_⟩
    rw [Double.Ratio.ofScaled_eq_zero.2 rfl]
    cases s <;> exact Rat.le_refl
  | finite s m e hm =>
    cases s with
    | positive => exact iff_of_true ⟨rfl, Bool.false_ne_true⟩ ⟨_, rfl, Double.Ratio.nonneg _⟩
    | negative =>
      refine iff_of_false (fun h => h.2 rfl) ?_
      rintro ⟨q, hq, hnonneg⟩
      cases hq
      have hm₀ := Double.Ratio.ofScaled_eq_zero.1
        (Rat.nonneg_antisymm (Double.Ratio.nonneg _) hnonneg)
      omega

end FedLoad
