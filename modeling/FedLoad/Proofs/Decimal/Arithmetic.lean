import FedLoad.Proofs.Decimal.Nearest
import Mathlib.Algebra.Order.Field.Basic
/-!
# Results of arithmetic

A product, a quotient, or a whole number made a float is the float nearest to the exact result, and
infinite if that is past the largest. A finite float is known from the double it stands for.

Main statements: `isNearest_mul`, `isNearest_div`, `isNearest_toFloat` and `eq_of_ofFloat_eq`.
-/
namespace FedLoad

open Float.Model Float.Model.UnpackedFloat

namespace Double

variable {m n : Nat} {e f : Int}

/-! ## Results of arithmetic -/

/-- What a division leaves tells how accurate the quotient is. -/
theorem approximates_div (num : Nat) {den : Nat} (hden : den ≠ 0) :
    Approximates ((num : ℚ) / den) (num / den) (accuracyOfFraction (num % den) den) := by
  have hpos : (0 : ℚ) < den := Nat.cast_pos.2 (Nat.pos_of_ne_zero hden)
  have hrest : num % den < den := Nat.mod_lt _ (Nat.pos_of_ne_zero hden)
  have hparts : (num : ℚ) = den * (num / den : Nat) + (num % den : Nat) := by
    exact_mod_cast (Nat.div_add_mod num den).symm
  have hx : (num : ℚ) / den = (num / den : Nat) + (num % den : Nat) / den := by
    rw [hparts]
    field_simp
  rw [hx]
  generalize num / den = q
  generalize num % den = rest at hrest
  unfold accuracyOfFraction
  split
  · next hzero =>
    rw [hzero]
    simp [Approximates]
  · next hne =>
    have hrestpos : (0 : ℚ) < rest := Nat.cast_pos.2 (Nat.pos_of_ne_zero hne)
    have hpart : (0 : ℚ) < rest / den := div_pos hrestpos hpos
    have hone : (rest : ℚ) / den < 1 := (div_lt_one hpos).2 (Nat.cast_lt.2 hrest)
    obtain hlt | heq | hgt := Nat.lt_trichotomy (2 * rest) den
    · have hhalf : (rest : ℚ) / den < 1 / 2 := by
        rw [div_lt_div_iff₀ hpos two_pos, mul_comm, one_mul]
        exact_mod_cast hlt
      rw [compare_lt_iff_lt.2 hlt]
      exact ⟨by linarith, by linarith⟩
    · have hhalf : (rest : ℚ) / den = 1 / 2 := by
        rw [div_eq_div_iff hpos.ne' two_ne_zero, mul_comm, one_mul]
        exact_mod_cast heq
      rw [compare_eq_iff_eq.2 heq, hhalf]
      rfl
    · have hhalf : 1 / 2 < (rest : ℚ) / den := by
        rw [div_lt_div_iff₀ two_pos hpos, one_mul, mul_comm]
        exact_mod_cast hgt
      rw [compare_gt_iff_gt.2 hgt]
      exact ⟨by linarith, by linarith⟩

theorem exists_div (hm : m ≠ 0) (hn : n ≠ 0) (e f : Int) :
    ∃ r t, RoundsTo ((m * 2 ^ e : ℚ) / (n * 2 ^ f)) r t ∧
      div Format.binary64 (ofParts m e) (ofParts n f) = ofParts r t := by
  obtain ⟨t, ht⟩ : ∃ t, t = min (e - f) (Format.binary64.targetExponent
    (totalExponent m e - totalExponent n f)) := ⟨_, rfl⟩
  obtain ⟨k, hk⟩ : ∃ k : Nat, e - f = t + k := ⟨(e - f - t).toNat, by omega⟩
  have hcore : divCore Format.binary64 m e n f =
      (m * 2 ^ k / n, t, accuracyOfFraction (m * 2 ^ k % n) n) := by
    have hamount : (e - f - t).toNat = k := by omega
    rw [divCore, ← ht, hamount, Nat.shiftLeft_eq]
  have hvalue : (m * 2 ^ e : ℚ) / (n * 2 ^ f) / 2 ^ t = (m * 2 ^ k : Nat) / n := by
    have he : e = t + k + f := by omega
    rw [he, zpow_add₀ (by norm_num), zpow_add₀ (by norm_num), zpow_natCast]
    push_cast
    field_simp
  have hroom : 52 ≤ (m * 2 ^ k / n).log2 ∨ t ≤ -1074 := by
    change t = min (e - f) (max ((m.log2 : Int) + 1 + e - (n.log2 + 1 + f) - 53) (-1074)) at ht
    by_cases hleast : t ≤ -1074
    · exact .inr hleast
    · have hlow : 2 ^ m.log2 ≤ m := Nat.log2_self_le hm
      have hhigh : n < 2 ^ (n.log2 + 1) := Nat.lt_log2_self
      have hquotient : 2 ^ 52 ≤ m * 2 ^ k / n := by
        rw [Nat.le_div_iff_mul_le (Nat.pos_of_ne_zero hn)]
        calc 2 ^ 52 * n ≤ 2 ^ 52 * 2 ^ (n.log2 + 1) := Nat.mul_le_mul_left _ hhigh.le
          _ = 2 ^ (52 + (n.log2 + 1)) := (Nat.pow_add ..).symm
          _ ≤ 2 ^ (m.log2 + k) := Nat.pow_le_pow_right (by decide) (by omega)
          _ = 2 ^ m.log2 * 2 ^ k := Nat.pow_add ..
          _ ≤ m * 2 ^ k := Nat.mul_le_mul_right _ hlow
      exact .inl ((Nat.le_log2 (by omega)).2 hquotient)
  have happrox := approximates_div (m * 2 ^ k) hn
  rw [← hvalue] at happrox
  obtain ⟨r, t', hr, hround⟩ := exists_roundWithAccuracy happrox hroom
  refine ⟨r, t', hr, ?_⟩
  rw [ofParts_of_ne_zero e hm, ofParts_of_ne_zero f hn, ← hround]
  change (let p := divCore Format.binary64 m e n f;
      roundWithAccuracy Format.binary64 .positive p.1 p.2.1 p.2.2) = _
  rw [hcore]

/-- Of a product no digit is lost before it is rounded. -/
theorem exists_mul (hm : m ≠ 0) (hn : n ≠ 0) (hroom : 52 ≤ (m * n).log2 ∨ e + f ≤ -1074) :
    ∃ r t, RoundsTo ((m * 2 ^ e : ℚ) * (n * 2 ^ f)) r t ∧
      mul Format.binary64 (ofParts m e) (ofParts n f) = ofParts r t := by
  have hvalue : (m * 2 ^ e : ℚ) * (n * 2 ^ f) / 2 ^ (e + f) = (m * n : Nat) := by
    rw [zpow_add₀ (by norm_num)]
    push_cast
    field_simp
  rw [ofParts_of_ne_zero e hm, ofParts_of_ne_zero f hn]
  exact exists_roundWithAccuracy (a := .exact) hvalue hroom

theorem exists_round (hm : m ≠ 0) (e : Int) :
    ∃ r t, RoundsTo (m * 2 ^ e : ℚ) r t ∧
      UnpackedFloat.round Format.binary64 .positive m e = ofParts r t := by
  obtain ⟨t, ht⟩ : ∃ t, t = max ((m.log2 : Int) + e - 52) (-1074) := ⟨_, rfl⟩
  obtain ⟨k, hk⟩ : ∃ k : Nat, k = (e - t).toNat := ⟨_, rfl⟩
  have hdecrease : UnpackedFloat.round Format.binary64 .positive m e =
      roundWithAccuracy Format.binary64 .positive (m * 2 ^ k) (e - k) .exact := by
    rw [UnpackedFloat.round, targetExponent_totalExponent, ← ht, decreaseExponent, ← hk,
      Nat.shiftLeft_eq]
  have hvalue : (m * 2 ^ e : ℚ) / 2 ^ (e - k : Int) = (m * 2 ^ k : Nat) := by
    rw [zpow_sub₀ (by norm_num), zpow_natCast]
    push_cast
    field_simp
  rw [hdecrease]
  refine exists_roundWithAccuracy (a := .exact) hvalue ?_
  rw [log2_mul_two_pow hm]
  omega

/-! ## Floats and exact numbers -/

end Double

open Double

/-- Is this float the one nearest to a number, infinite if none is large enough? -/
def IsNearest (x : Float) (v : ℚ) : Prop :=
  ∃ m e, RoundsTo v m e ∧ ofFloat x = if 971 < e then .infinite false else .finite false m e

theorem isNearest_of_unpack {x : Float} {v : ℚ} {m : Nat} {e : Int} (h : RoundsTo v m e)
    (hx : x.toModel = .pack (ofParts m e)) : IsNearest x v := by
  refine ⟨m, e, h, ?_⟩
  rw [ofFloat_eq, hx, unpack_pack h.canonical]
  split
  · rfl
  · exact h.canonical.ofUnpacked_ofParts

/-- The bits of a number. -/
def Double.bits : Double → Nat
  | .nan => 0
  | .infinite negative => (if negative then 2 ^ 63 else 0) + 2047 * 2 ^ 52
  | .finite negative m e => (if negative then 2 ^ 63 else 0) +
      if m < 2 ^ 52 then m else (e + 1075).toNat * 2 ^ 52 + (m - 2 ^ 52)

theorem toBits_eq_bits {x : Float} {d : Double} (h : ofFloat x = d) (hd : d ≠ .nan) :
    x.toBits.toNat = d.bits := by
  have hbits : x.toBits.toNat < 2 ^ 64 := x.toBits.toNat_lt
  unfold ofFloat at h
  generalize x.toBits.toNat = b at *
  have hsign : b / Nat.pow 2 63 = b / 2 ^ 52 / 2 ^ 11 :=
    (Nat.div_div_eq_div_mul b (2 ^ 52) (2 ^ 11)).symm
  have hfraction : Nat.pow 2 52 = 2 ^ 52 := rfl
  have hscale : Nat.pow 2 11 = 2 ^ 11 := rfl
  have hparts : b = 2 ^ 52 * (b / 2 ^ 52) + b % 2 ^ 52 := (Nat.div_add_mod b _).symm
  have hlt : b % 2 ^ 52 < 2 ^ 52 := Nat.mod_lt _ (Nat.two_pow_pos 52)
  dsimp only at h
  rw [hsign, hfraction, hscale] at h
  generalize b / 2 ^ 52 = top at *
  generalize b % 2 ^ 52 = fraction at *
  -- the sign is what is left of the bits above the fraction
  have htop : top = (if 1 ≤ top / 2 ^ 11 then 2 ^ 11 else 0) + top % 2 ^ 11 := by
    split <;> omega
  subst h
  split
  · split
    · simp only [bits, decide_eq_true_eq]
      split <;> omega
    · next hnan => exact absurd (by rw [if_pos (by assumption), if_neg hnan]) hd
  · split
    · rw [bits, if_pos hlt]
      simp only [decide_eq_true_eq]
      split <;> omega
    · have hleading : ¬ 2 ^ 52 + fraction < 2 ^ 52 := by omega
      rw [bits, if_neg hleading]
      simp only [decide_eq_true_eq]
      split <;> omega

/-- A float that is a number is known from what its bits are taken apart into. -/
theorem eq_of_ofFloat_eq {x y : Float} {d : Double} (hx : ofFloat x = d) (hy : ofFloat y = d)
    (hd : d ≠ .nan) : x = y := by
  have hbits := (toBits_eq_bits hx hd).trans (toBits_eq_bits hy hd).symm
  obtain ⟨⟨b, hb⟩⟩ := x
  obtain ⟨⟨c, hc⟩⟩ := y
  obtain rfl : b = c := UInt64.toNat_inj.1 hbits
  rfl

theorem IsNearest.ofFloat_eq {x : Float} {v : ℚ} {m : Nat} {e : Int} (hx : IsNearest x v)
    (hv : RoundsTo v m e) : ofFloat x = if 971 < e then .infinite false else .finite false m e := by
  obtain ⟨n, f, hn, hx⟩ := hx
  obtain ⟨rfl, rfl⟩ := hn.unique hv
  exact hx

theorem IsNearest.unique {x y : Float} {v : ℚ} (hx : IsNearest x v) (hy : IsNearest y v) : x = y := by
  obtain ⟨m, e, hm, hfloat⟩ := hx
  refine eq_of_ofFloat_eq hfloat (hy.ofFloat_eq hm) ?_
  split <;> exact Double.noConfusion

section Operations

variable {x y : Float} {m n : Nat} {e f : Int}

theorem isNearest_div (hx : ofFloat x = .finite false m e) (hm : m ≠ 0)
    (hy : ofFloat y = .finite false n f) (hn : n ≠ 0) :
    IsNearest (x / y) ((m * 2 ^ e : ℚ) / (n * 2 ^ f)) := by
  obtain ⟨r, t, hr, hdiv⟩ := exists_div hm hn e f
  refine isNearest_of_unpack hr ?_
  rw [← hdiv, ← unpack_of_ofFloat hx hm, ← unpack_of_ofFloat hy hn]
  rfl

theorem isNearest_mul (hx : ofFloat x = .finite false m e) (hm : m ≠ 0)
    (hy : ofFloat y = .finite false n f) (hn : n ≠ 0) :
    IsNearest (x * y) ((m * 2 ^ e : ℚ) * (n * 2 ^ f)) := by
  have hroom : 52 ≤ (m * n).log2 ∨ e + f ≤ -1074 := by
    have hcm := (canonical_of_ofFloat hx).1
    have hcn := (canonical_of_ofFloat hy).1
    have hleast := hcm.least
    rw [Nat.le_log2 (Nat.mul_ne_zero hm hn)]
    by_cases he : -1074 < e
    · left
      rw [← hcm.leading he]
      exact (Nat.log2_self_le hm).trans (Nat.le_mul_of_pos_right m (Nat.pos_of_ne_zero hn))
    · by_cases hf : -1074 < f
      · left
        rw [← hcn.leading hf]
        exact (Nat.log2_self_le hn).trans (Nat.le_mul_of_pos_left n (Nat.pos_of_ne_zero hm))
      · omega
  obtain ⟨r, t, hr, hmul⟩ := exists_mul hm hn hroom
  refine isNearest_of_unpack hr ?_
  rw [← hmul, ← unpack_of_ofFloat hx hm, ← unpack_of_ofFloat hy hn]
  rfl

theorem isNearest_zero : IsNearest 0.0 0 := by
  have hzero : Canonical 0 (-1074) := canonical_of_lt (by decide) (Int.le_refl _) (by omega)
  refine isNearest_of_unpack (m := 0) (e := -1074) ?_ rfl
  simpa using hzero.roundsTo

/-- A whole number of sixty-four bits becomes the nearest float. -/
theorem isNearest_toFloat (n : UInt64) : IsNearest n.toFloat n.toNat := by
  have hmodel : n.toFloat.toModel =
      .pack (UnpackedFloat.normalize Format.binary64 (n.toNat : Int) 0 .positive) := rfl
  obtain hn | hn := Nat.eq_zero_or_pos n.toNat
  · obtain rfl : n = 0 := UInt64.toNat_inj.1 hn
    exact isNearest_zero
  · obtain ⟨r, t, hr, hround⟩ := exists_round hn.ne' 0
    rw [zpow_zero, mul_one] at hr
    refine isNearest_of_unpack hr ?_
    rw [hmodel, ← hround, UnpackedFloat.normalize, Int.compare_eq_gt.2 (Int.natCast_pos.2 hn)]
    rfl

/-- Below `2^53` it is exact. -/
theorem exists_toFloat_exact {n : Nat} (hn : n ≠ 0) (hlt : n < 2 ^ 53) :
    ∃ m e, ofFloat n.toUInt64.toFloat = .finite false m e ∧ m ≠ 0 ∧ (m * 2 ^ e : ℚ) = n := by
  have hword : n.toUInt64.toNat = n := UInt64.toNat_ofNat_of_lt' (by
    change n < 2 ^ 64
    omega)
  have hlog : n.log2 ≤ 52 := Nat.le_of_lt_succ ((Nat.log2_lt hn).2 hlt)
  have hcanonical : Canonical (n * 2 ^ (52 - n.log2)) (n.log2 - 52) := by
    have hdigits : (n * 2 ^ (52 - n.log2)).log2 = 52 := by
      rw [log2_mul_two_pow hn]
      omega
    exact ⟨hdigits.le, by omega, fun _ => hdigits⟩
  have hvalue : ((n * 2 ^ (52 - n.log2) : Nat) * 2 ^ (n.log2 - 52 : Int) : ℚ) = n := by
    have hexponent : (n.log2 - 52 : Int) = -(52 - n.log2 : Nat) := by omega
    rw [hexponent, zpow_neg, zpow_natCast]
    push_cast
    field_simp
  have hnearest := isNearest_toFloat n.toUInt64
  rw [hword, ← hvalue] at hnearest
  have hfloat := hnearest.ofFloat_eq hcanonical.roundsTo
  rw [if_neg (by omega)] at hfloat
  exact ⟨_, _, hfloat, Nat.mul_ne_zero hn (Nat.two_pow_pos _).ne', hvalue⟩

end Operations

/-! ## Negation -/

namespace Double

theorem neg_finite (s : Sign) {m n : Nat} (e : Int) (hm : 0 < m) (hn : 0 < n) (h : m = n) :
    UnpackedFloat.finite (-s) m e hm = (UnpackedFloat.finite s n e hn).neg := by
  subst h
  rfl

/-- The sign is a bit of its own. -/
theorem unpack_neg_of_fields {b c : BitVec 64}
    (hsign : Sign.ofBitVec (@unpackSign Format.binary64 b) =
      -Sign.ofBitVec (@unpackSign Format.binary64 c))
    (hexponent : @unpackExponent Format.binary64 b = @unpackExponent Format.binary64 c)
    (hfraction : @unpackMantissa Format.binary64 b = @unpackMantissa Format.binary64 c) :
    unpack Format.binary64 b = (unpack Format.binary64 c).neg := by
  unfold UnpackedFloat.unpack
  dsimp only
  rw [hsign, hexponent]
  by_cases hlast : @unpackExponent Format.binary64 c = -1#11
  · rw [if_pos hlast, if_pos hlast, hfraction]
    split <;> rfl
  · rw [if_neg hlast, if_neg hlast]
    by_cases hfirst : @unpackExponent Format.binary64 c = 0#11
    · rw [if_pos hfirst, if_pos hfirst]
      by_cases hzero : @unpackMantissa Format.binary64 c = 0#52
      · rw [dif_pos hzero, dif_pos (hfraction.trans hzero)]
        rfl
      · rw [dif_neg hzero, dif_neg (hfraction ▸ hzero)]
        exact neg_finite _ _ _ _ (congrArg BitVec.toNat hfraction)
    · rw [if_neg hfirst, if_neg hfirst]
      exact neg_finite _ _ _ _ (congrArg (fun f => (1#1 ++ f).toNat) hfraction)

theorem unpack_packComponents_neg (s : Sign) (exponent : BitVec 11) (fraction : BitVec 52) :
    unpack Format.binary64 (packComponents Format.binary64 (-s) exponent fraction) =
      (unpack Format.binary64 (packComponents Format.binary64 s exponent fraction)).neg := by
  have hexponent (s : Sign) : @unpackExponent Format.binary64
      (packComponents Format.binary64 s exponent fraction) = exponent :=
    unpackExponent_packComponents
  have hfraction (s : Sign) : @unpackMantissa Format.binary64
      (packComponents Format.binary64 s exponent fraction) = fraction :=
    unpackMantissa_packComponents
  refine unpack_neg_of_fields ?_ ((hexponent _).trans (hexponent s).symm)
    ((hfraction _).trans (hfraction s).symm)
  rw [unpackSign_packComponents, unpackSign_packComponents]
  cases s <;> rfl

theorem unpack_pack_neg (u : UnpackedFloat) :
    (Float.Model.pack u.neg).unpack = (Float.Model.pack u).unpack.neg := by
  cases u with
  | notANumber => rfl
  | infinity s => exact unpack_packComponents_neg s _ _
  | zero s => exact unpack_packComponents_neg s _ _
  | finite s m e hm =>
    change unpack Format.binary64 (UnpackedFloat.pack Format.binary64 (.finite (-s) m e hm)) =
      (unpack Format.binary64 (UnpackedFloat.pack Format.binary64 (.finite s m e hm))).neg
    unfold UnpackedFloat.pack
    dsimp only
    split
    · exact unpack_packComponents_neg s _ _
    · split <;> exact unpack_packComponents_neg s _ _

end Double

section Negation

variable {x : Float} {m : Nat} {e : Int}

theorem unpack_of_finite (h : ofFloat x = .finite false m e) : x.toModel.unpack = ofParts m e := by
  by_cases hm : m = 0
  · subst hm
    obtain rfl := (canonical_of_ofFloat h).1.least_of_zero
    rw [eq_of_ofFloat_eq (y := 0.0) h rfl Double.noConfusion]
    rfl
  · exact unpack_of_ofFloat h hm

theorem unpack_of_infinite (h : ofFloat x = .infinite false) :
    x.toModel.unpack = .infinity .positive := by
  rw [ofFloat_eq] at h
  cases hunpack : x.toModel.unpack with
  | infinity s =>
    rw [hunpack] at h
    cases s with
    | positive => rfl
    | negative => cases h
  | notANumber | zero s | finite s m' e' hpos =>
    rw [hunpack] at h
    cases h

theorem ofFloat_neg_of_finite (h : ofFloat x = .finite false m e) :
    ofFloat (-x) = .finite true m e := by
  obtain ⟨hm, hbound⟩ := canonical_of_ofFloat h
  have hneg : (-x).toModel.unpack = (ofParts m e).neg := by
    change (Float.Model.pack x.toModel.unpack.neg).unpack = _
    rw [unpack_pack_neg, unpack_of_finite h, unpack_pack hm, if_neg (Int.not_lt.2 hbound)]
  rw [ofFloat_eq, hneg]
  by_cases hzero : m = 0
  · subst hzero
    rw [hm.least_of_zero]
    rfl
  · rw [ofParts_of_ne_zero e hzero]
    rfl

theorem ofFloat_neg_of_infinite (h : ofFloat x = .infinite false) :
    ofFloat (-x) = .infinite true := by
  have hneg : (-x).toModel.unpack = (infinity .positive).neg := by
    change (Float.Model.pack x.toModel.unpack.neg).unpack = _
    rw [unpack_of_infinite h]
    rfl
  rw [ofFloat_eq, hneg]
  rfl

/-- What is nearest to a number is a number, and so is its negative. -/
theorem IsNearest.ne_nan {v : ℚ} (h : IsNearest x v) :
    ofFloat x ≠ .nan ∧ ofFloat (-x) ≠ .nan := by
  obtain ⟨m, e, -, hx⟩ := h
  split at hx
  · rw [hx, ofFloat_neg_of_infinite hx]
    exact ⟨Double.noConfusion, Double.noConfusion⟩
  · rw [hx, ofFloat_neg_of_finite hx]
    exact ⟨Double.noConfusion, Double.noConfusion⟩

end Negation

end FedLoad
