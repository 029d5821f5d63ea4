import FedLoad.Proofs.Decimal.Comparison
/-!
# Floats that are amounts

An amount is a float that is a number and not negative; it may be infinite. Sums of amounts are
amounts, and so are products and quotients with a positive finite float, as no two infinities and no
zero and infinity meet in them. What an amount leaves of a finite float is a number at least.

Main statements: `IsAmount.add`, `IsAmount.mul`, `IsAmount.div` and `IsPositive.sub_ne_nan`.
-/
namespace FedLoad

open Float.Model Float.Model.UnpackedFloat

open Double

/-! ## Unsigned numbers -/

/-- Is this a number without a minus sign? -/
inductive Unsigned : UnpackedFloat → Prop
  | infinity : Unsigned (.infinity .positive)
  | zero : Unsigned (.zero .positive)
  | finite (m : Nat) (e : Int) (h : 0 < m) : Unsigned (.finite .positive m e h)

theorem unsigned_ofParts (m : Nat) (e : Int) : Unsigned (ofParts m e) := by
  by_cases hm : m = 0
  · subst hm
    exact .zero
  · rw [ofParts_of_ne_zero e hm]
    exact .finite ..

theorem unsigned_roundWithAccuracy (m : Nat) (e : Int) (a : Accuracy) :
    Unsigned (roundWithAccuracy Format.binary64 .positive m e a) :=
  unsigned_ofParts _ _

theorem roundWithAccuracy_ne_nan (s : Sign) (m : Nat) (e : Int) (a : Accuracy) :
    roundWithAccuracy Format.binary64 s m e a ≠ .notANumber := by
  unfold roundWithAccuracy
  rw [Ne, dite_eq_iff]
  rintro (⟨_, hzero⟩ | ⟨_, hfinite⟩)
  · cases hzero
  · cases hfinite

theorem normalize_ne_nan (m e : Int) (s : Sign) :
    UnpackedFloat.normalize Format.binary64 m e s ≠ .notANumber := by
  unfold UnpackedFloat.normalize
  split
  · exact roundWithAccuracy_ne_nan _ _ _ _
  · exact UnpackedFloat.noConfusion
  · exact roundWithAccuracy_ne_nan _ _ _ _

/-- Bits whose exponent is not the last stand for a number. -/
theorem unsigned_unpack_packComponents {exponent : BitVec 11} (h : exponent ≠ -1#11)
    (fraction : BitVec 52) :
    Unsigned (unpack Format.binary64 (packComponents Format.binary64 .positive exponent fraction)) := by
  rw [unpack_packComponents, if_neg h]
  split <;> exact unsigned_ofParts ..

theorem Unsigned.unpack_pack {u : UnpackedFloat} (h : Unsigned u) :
    Unsigned (Float.Model.pack u).unpack := by
  change Unsigned (unpack Format.binary64 (UnpackedFloat.pack Format.binary64 u))
  cases h with
  | infinity => exact .infinity
  | zero => exact .zero
  | finite m e hm =>
    unfold UnpackedFloat.pack
    dsimp only
    split
    · exact .infinity
    · next hbound =>
      split
      · refine unsigned_unpack_packComponents (fun heq => hbound ?_) _
        generalize (e + Format.binary64.exponentBias +
          Format.binary64.mantissaBitsWithoutImplicit).toNat = biased at *
        have hlast : biased % 2 ^ 11 = 2047 :=
          (BitVec.toNat_ofNat biased 11).symm.trans (congrArg BitVec.toNat heq)
        change 2 ^ 11 ≤ biased + 1
        omega
      · exact unsigned_unpack_packComponents (by decide) _

/-- Packing a number makes it no less a number. -/
theorem unpack_pack_ne_nan {u : UnpackedFloat} (h : u ≠ .notANumber) :
    (Float.Model.pack u).unpack ≠ .notANumber := by
  have hunsigned : Unsigned u ∨ Unsigned u.neg := by
    rcases u with (_ | _) | _ | (_ | _) | ⟨_ | _, m, e, hm⟩
    · exact .inr .infinity
    · exact .inl .infinity
    · exact absurd rfl h
    · exact .inr .zero
    · exact .inl .zero
    · exact .inr (.finite ..)
    · exact .inl (.finite ..)
  intro hnan
  rcases hunsigned with hu | hu
  · have hpack := hu.unpack_pack
    rw [hnan] at hpack
    cases hpack
  · have hpack := hu.unpack_pack
    rw [unpack_pack_neg, hnan] at hpack
    cases hpack

namespace Unsigned

variable {u v : UnpackedFloat}

theorem add (hu : Unsigned u) (hv : Unsigned v) :
    Unsigned (UnpackedFloat.add Format.binary64 u v) := by
  cases hu with
  | infinity => cases hv <;> exact .infinity
  | zero =>
    cases hv with
    | infinity => exact .infinity
    | zero => exact .zero
    | finite n f hn => exact .finite ..
  | finite m e hm =>
    cases hv with
    | infinity => exact .infinity
    | zero => exact .finite ..
    | finite n f hn =>
      have hsum : (0 : Int) < ↑(m <<< (e - min e f).toNat) + ↑(n <<< (f - min e f).toNat) := by
        have hleft : 0 < m <<< (e - min e f).toNat := Nat.shiftLeft_pos_iff.2 hm
        exact Int.add_pos_of_pos_of_nonneg (Int.natCast_pos.2 hleft) (Int.natCast_nonneg _)
      change Unsigned (UnpackedFloat.normalize Format.binary64
        (↑(m <<< (e - min e f).toNat) + ↑(n <<< (f - min e f).toNat)) (min e f) .positive)
      rw [UnpackedFloat.normalize, compare_gt_iff_gt.2 hsum]
      exact unsigned_roundWithAccuracy ..

theorem mul (hu : Unsigned u) {n : Nat} {f : Int} (hn : 0 < n) :
    Unsigned (UnpackedFloat.mul Format.binary64 u (.finite .positive n f hn)) := by
  cases hu with
  | infinity => exact .infinity
  | zero => exact .zero
  | finite m e hm => exact unsigned_roundWithAccuracy ..

theorem div (hu : Unsigned u) {n : Nat} {f : Int} (hn : 0 < n) :
    Unsigned (UnpackedFloat.div Format.binary64 u (.finite .positive n f hn)) := by
  cases hu with
  | infinity => exact .infinity
  | zero => exact .zero
  | finite m e hm => exact unsigned_roundWithAccuracy ..

end Unsigned

/-! ## Amounts -/

/-- Is this float a number that is not negative? -/
def IsAmount (x : Float) : Prop := Unsigned x.toModel.unpack

/-- Is this float a number above zero and below infinity? -/
def IsPositive (x : Float) : Prop := ∃ m e h, x.toModel.unpack = .finite .positive m e h

section Amounts

variable {x y : Float}

theorem IsPositive.isAmount (h : IsPositive x) : IsAmount x := by
  obtain ⟨m, e, hm, hx⟩ := h
  rw [IsAmount, hx]
  exact .finite m e hm

theorem IsAmount.ne_nan (h : IsAmount x) : ofFloat x ≠ .nan := by
  rw [ofFloat_eq]
  unfold IsAmount at h
  generalize x.toModel.unpack = u at *
  cases h <;> exact Double.noConfusion

theorem IsAmount.cases (h : IsAmount x) :
    ofFloat x = .infinite false ∨ ∃ m e, ofFloat x = .finite false m e := by
  rw [ofFloat_eq]
  unfold IsAmount at h
  generalize x.toModel.unpack = u at *
  cases h with
  | infinity => exact .inl rfl
  | zero => exact .inr ⟨0, -1074, rfl⟩
  | finite m e hm => exact .inr ⟨m, e, rfl⟩

theorem isAmount_of_finite {m : Nat} {e : Int} (h : ofFloat x = .finite false m e) : IsAmount x := by
  rw [IsAmount, unpack_of_finite h]
  exact unsigned_ofParts m e

theorem IsNearest.isAmount {v : ℚ} (h : IsNearest x v) : IsAmount x := by
  obtain ⟨m, e, -, hx⟩ := h
  split at hx
  · rw [IsAmount, unpack_of_infinite hx]
    exact .infinity
  · exact isAmount_of_finite hx

theorem IsAmount.add (hx : IsAmount x) (hy : IsAmount y) : IsAmount (x + y) :=
  (Unsigned.add hx hy).unpack_pack

theorem IsAmount.mul (hx : IsAmount x) (hy : IsPositive y) : IsAmount (x * y) := by
  obtain ⟨n, f, hn, hy⟩ := hy
  have hmul := (Unsigned.mul hx hn (f := f)).unpack_pack
  rw [← hy] at hmul
  exact hmul

theorem IsAmount.div (hx : IsAmount x) (hy : IsPositive y) : IsAmount (x / y) := by
  obtain ⟨n, f, hn, hy⟩ := hy
  have hdiv := (Unsigned.div hx hn (f := f)).unpack_pack
  rw [← hy] at hdiv
  exact hdiv

/-- The negative of an amount is a number. -/
theorem IsAmount.neg_ne_nan (h : IsAmount x) : ofFloat (-x) ≠ .nan := by
  obtain hx | ⟨m, e, hx⟩ := h.cases
  · rw [ofFloat_neg_of_infinite hx]
    exact Double.noConfusion
  · rw [ofFloat_neg_of_finite hx]
    exact Double.noConfusion

/-- What an amount leaves of a finite one is a number. -/
theorem IsPositive.sub_ne_nan (hx : IsPositive x) (hy : IsAmount y) : ofFloat (x - y) ≠ .nan := by
  obtain ⟨m, e, hm, hx⟩ := hx
  have hsub : UnpackedFloat.sub Format.binary64 x.toModel.unpack y.toModel.unpack ≠
      .notANumber := by
    rw [hx]
    unfold IsAmount at hy
    generalize y.toModel.unpack = v at *
    cases hy with
    | infinity | zero => exact UnpackedFloat.noConfusion
    | finite n f hn => exact normalize_ne_nan _ _ _
  have hunpack := unpack_pack_ne_nan hsub
  rw [ofFloat_eq]
  change ofUnpacked (Float.Model.pack (UnpackedFloat.sub Format.binary64 x.toModel.unpack
    y.toModel.unpack)).unpack ≠ .nan
  generalize (Float.Model.pack (UnpackedFloat.sub Format.binary64 x.toModel.unpack
    y.toModel.unpack)).unpack = u at *
  cases u with
  | notANumber => exact absurd rfl hunpack
  | infinity s | zero s | finite s m e h => exact Double.noConfusion

/-- What is nearest to a number from one to the greatest power of ten among the floats is above zero
and finite. -/
theorem IsNearest.isPositive {v : ℚ} (h : IsNearest x v) (hone : 1 ≤ v) (hle : v ≤ 10 ^ 308) :
    IsPositive x := by
  have hleast : Canonical (2 ^ 52) (-52) := canonical_of_lt (by decide) (by decide) (by decide)
  have hlargest : Canonical (2 ^ 53 - 1) 971 := canonical_of_lt (by decide) (by decide) (by decide)
  obtain ⟨m, e, hm, hx⟩ := h
  have hbound : ¬ 971 < e := by
    intro hbig
    have hlt := hlargest.roundsTo.lt_of_before hm (.inl hbig)
    have htop : ((10 : ℕ) ^ 308 : ℚ) ≤ (2 ^ 53 - 1 : ℕ) * 2 ^ (971 : ℕ) := by
      have hnat : 10 ^ 308 ≤ (2 ^ 53 - 1) * 2 ^ 971 := by decide +kernel
      exact_mod_cast hnat
    exact absurd (hle.trans htop) (not_le.2 hlt)
  have hpos : m ≠ 0 := by
    rintro rfl
    have hzero := hm.canonical.least_of_zero
    have hlt := hm.lt_of_before hleast.roundsTo (.inl (by omega))
    norm_num at hlt
    linarith
  rw [if_neg hbound] at hx
  exact ⟨m, e, Nat.pos_of_ne_zero hpos,
    (unpack_of_ofFloat hx hpos).trans (ofParts_of_ne_zero e hpos)⟩

theorem isPositive_floatOfNat {n : Nat} (hn : n ≠ 0) (hlt : n < 2 ^ 64) :
    IsPositive (floatOfNat n) := by
  have hword : n.toUInt64.toNat = n := UInt64.toNat_ofNat_of_lt' hlt
  have hnearest := isNearest_toFloat n.toUInt64
  have hone : (1 : ℚ) ≤ n := Nat.one_le_cast.2 (Nat.pos_of_ne_zero hn)
  have hle : (n : ℚ) ≤ 10 ^ 308 :=
    calc (n : ℚ) ≤ 2 ^ 64 := by exact_mod_cast hlt.le
      _ ≤ 10 ^ 64 := by norm_num
      _ ≤ 10 ^ 308 := pow_le_pow_right₀ (by norm_num) (by decide)
  have hsmall : n < Nat.pow 2 64 := hlt
  rw [hword] at hnearest
  rw [floatOfNat, if_pos hsmall]
  exact hnearest.isPositive hone hle

theorem isAmount_floatOfNat {n : Nat} (hlt : n < 2 ^ 64) : IsAmount (floatOfNat n) := by
  obtain rfl | hn := Nat.eq_zero_or_pos n
  · exact .zero
  · exact (isPositive_floatOfNat hn.ne' hlt).isAmount

end Amounts

end FedLoad
