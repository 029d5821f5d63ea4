import FedLoad.Proofs.Decimal.Amounts
/-!
# Floats on a line

Every float that is a number has its place on the line of rational numbers: a finite float at its
exact value, an infinite one at the power of two that no finite float reaches. Two floats compare as
their places do, whatever their signs, so that what is known of numbers is known of them.

Main statements: `le_iff_place` and `lt_iff_place`.
-/
namespace FedLoad

open Float.Model Float.Model.UnpackedFloat

namespace Double

/-- The place of infinity: the power of two behind the last finite float. -/
def beyond : ℚ := 2 ^ 1024

theorem beyond_pos : 0 < beyond := by
  unfold beyond
  positivity

theorem two_pow_lt_beyond {n : Nat} (h : n < 1024) : 2 ^ n < beyond :=
  pow_lt_pow_right₀ (by norm_num) h

/-- Where a number lies. -/
def place : Double → ℚ
  | .nan => 0
  | .infinite negative => if negative then -beyond else beyond
  | .finite negative m e => if negative then -(m * 2 ^ e) else m * 2 ^ e

theorem place_of_rational? {x : Float} {v : ℚ} (h : rational? x = some v) :
    (ofFloat x).place = v := by
  unfold rational? at h
  split at h
  · next negative m e hfinite =>
    rw [hfinite]
    dsimp only at h
    rw [Ratio.mkRat_ofScaled] at h
    exact Option.some_inj.1 h
  · cases h

theorem value_lt_beyond {m : Nat} {e : Int} (h : Canonical m e) (hbound : e ≤ 971) :
    (m * 2 ^ e : ℚ) < beyond := by
  have hm : (m : ℚ) < 2 ^ 53 := by exact_mod_cast h.lt
  have hpow : (0 : ℚ) < 2 ^ e := zpow_pos (by norm_num) e
  calc (m * 2 ^ e : ℚ) < 2 ^ 53 * 2 ^ e := mul_lt_mul_of_pos_right hm hpow
    _ ≤ 2 ^ 53 * 2 ^ (971 : Int) := by gcongr; norm_num
    _ = beyond := by rw [beyond, zpow_ofNat, ← pow_add]

theorem compare_value {m n : Nat} {e f : Int} (hm : Canonical m e) (hn : Canonical n f) :
    (compare e f).then (compare m n) = compare (m * 2 ^ e : ℚ) (n * 2 ^ f) := by
  obtain hlt | heq | hgt := lt_trichotomy (m * 2 ^ e : ℚ) (n * 2 ^ f)
  · rw [compare_lt_iff_lt.2 hlt, Ordering.then_eq_lt, compare_lt_iff_lt, compare_eq_iff_eq,
      compare_lt_iff_lt]
    exact hm.before_of_lt hn hlt
  · obtain ⟨rfl, rfl⟩ := (heq ▸ hm.roundsTo).unique hn.roundsTo
    rw [compare_eq_iff_eq.2 rfl, compare_eq_iff_eq.2 rfl, compare_eq_iff_eq.2 rfl]
    rfl
  · rw [compare_gt_iff_gt.2 hgt, Ordering.then_eq_gt, compare_gt_iff_gt, compare_eq_iff_eq,
      compare_gt_iff_gt]
    obtain hbefore | ⟨rfl, hbefore⟩ := hn.before_of_lt hm hgt
    · exact .inl hbefore
    · exact .inr ⟨rfl, hbefore⟩

theorem compare_neg_value {m n : Nat} {e f : Int} (hm : Canonical m e) (hn : Canonical n f) :
    ((compare e f).then (compare m n)).swap = compare (-(m * 2 ^ e : ℚ)) (-(n * 2 ^ f)) := by
  rw [compare_value hm hn]
  obtain hlt | heq | hgt := lt_trichotomy (m * 2 ^ e : ℚ) (n * 2 ^ f)
  · rw [compare_lt_iff_lt.2 hlt, compare_gt_iff_gt.2 (neg_lt_neg hlt)]
    rfl
  · rw [compare_eq_iff_eq.2 heq, compare_eq_iff_eq.2 (congrArg Neg.neg heq)]
    rfl
  · rw [compare_gt_iff_gt.2 hgt, compare_lt_iff_lt.2 (neg_lt_neg hgt)]
    rfl

/-- The sign of a number and whether it is finite bound its place. -/
def Bounded : UnpackedFloat → ℚ → Prop
  | .notANumber, _ => False
  | .infinity .positive, a => a = beyond
  | .infinity .negative, a => a = -beyond
  | .zero _, a => a = 0
  | .finite .positive m e _, a => a = m * 2 ^ e ∧ Canonical m e ∧ 0 < a ∧ a < beyond
  | .finite .negative m e _, a => a = -(m * 2 ^ e) ∧ Canonical m e ∧ a < 0 ∧ -beyond < a

theorem bounded_place {x : Float} (hx : ofFloat x ≠ .nan) :
    Bounded x.toModel.unpack (ofFloat x).place := by
  have hfits {negative : Bool} {m : Nat} {e : Int} (h : ofFloat x = .finite negative m e) :=
    canonical_of_ofFloat h
  have hpos {m : Nat} {e : Int} (hm : 0 < m) : (0 : ℚ) < m * 2 ^ e := by positivity
  rw [ofFloat_eq] at *
  generalize x.toModel.unpack = u at *
  cases u with
  | notANumber => exact absurd rfl hx
  | infinity s => cases s <;> exact rfl
  | zero s =>
    have hzero (negative : Bool) (e : Int) : (finite negative 0 e).place = 0 := by
      cases negative <;> simp [place]
    exact hzero _ _
  | finite s m e hm =>
    obtain ⟨hcanonical, hbound⟩ := hfits rfl
    have hlt := value_lt_beyond hcanonical hbound
    cases s with
    | positive => exact ⟨rfl, hcanonical, hpos hm, hlt⟩
    | negative => exact ⟨rfl, hcanonical, neg_neg_of_pos (hpos hm), neg_lt_neg hlt⟩

theorem compare_bounded {u v : UnpackedFloat} {a b : ℚ} (hu : Bounded u a) (hv : Bounded v b) :
    u.compare v = some (compare a b) := by
  have hbeyond := beyond_pos
  have hlt (h : a < b) : some Ordering.lt = some (compare a b) :=
    congrArg some (compare_lt_iff_lt.2 h).symm
  have hgt (h : b < a) : some Ordering.gt = some (compare a b) :=
    congrArg some (compare_gt_iff_gt.2 h).symm
  have heq (h : a = b) : some Ordering.eq = some (compare a b) :=
    congrArg some (compare_eq_iff_eq.2 h).symm
  obtain (_ | _) | _ | _ | ⟨_ | _, m, e, hm⟩ := u <;>
    obtain (_ | _) | _ | _ | ⟨_ | _, n, f, hn⟩ := v <;>
    dsimp only [Bounded] at hu hv <;>
    first
    | exact hlt (by linarith)
    | exact hgt (by linarith)
    | exact heq (by linarith)
    | rw [hu.1, hv.1]
      exact congrArg some (compare_value hu.2.1 hv.2.1)
    | rw [hu.1, hv.1]
      exact congrArg some (compare_neg_value hu.2.1 hv.2.1)

end Double

open Double

variable {x y : Float}

/-- Numbers compare as their places do. -/
theorem compare_place (hx : ofFloat x ≠ .nan) (hy : ofFloat y ≠ .nan) :
    x.toModel.unpack.compare y.toModel.unpack =
      some (compare (ofFloat x).place (ofFloat y).place) :=
  compare_bounded (bounded_place hx) (bounded_place hy)

theorem lt_iff_place (hx : ofFloat x ≠ .nan) (hy : ofFloat y ≠ .nan) :
    x < y ↔ (ofFloat x).place < (ofFloat y).place := by
  rw [lt_iff_compare, compare_place hx hy, Option.some_inj, compare_lt_iff_lt]

theorem le_iff_place (hx : ofFloat x ≠ .nan) (hy : ofFloat y ≠ .nan) :
    x ≤ y ↔ (ofFloat x).place ≤ (ofFloat y).place := by
  rw [le_iff_compare, compare_place hx hy, ← compare_le_iff_le]
  simp only [Option.some_inj, exists_eq_left']

theorem unpack_of_nan (h : ofFloat x = .nan) : x.toModel.unpack = .notANumber := by
  rw [ofFloat_eq] at h
  generalize x.toModel.unpack = u at *
  cases u with
  | notANumber => rfl
  | infinity s | zero s | finite s m e hm => cases h

theorem ne_nan_of_unpack (h : x.toModel.unpack ≠ .notANumber) : ofFloat x ≠ .nan := by
  rw [ofFloat_eq]
  generalize x.toModel.unpack = u at *
  cases u with
  | notANumber => exact absurd rfl h
  | infinity s | zero s | finite s m e hm => exact Double.noConfusion

/-- Only numbers are in order. -/
theorem ne_nan_of_le (h : x ≤ y) : ofFloat x ≠ .nan ∧ ofFloat y ≠ .nan := by
  obtain ⟨o, ho, -⟩ := le_iff_compare.1 h
  have hnumbers := (isSome_compare _ _).1 (Option.isSome_of_eq_some ho)
  exact ⟨ne_nan_of_unpack hnumbers.1, ne_nan_of_unpack hnumbers.2⟩

/-- Between the places of the infinities every number is finite. -/
theorem rational?_of_place (hx : ofFloat x ≠ .nan) (hlow : -beyond < (ofFloat x).place)
    (hhigh : (ofFloat x).place < beyond) : rational? x = some (ofFloat x).place := by
  unfold rational?
  cases hfloat : ofFloat x with
  | nan => exact absurd hfloat hx
  | infinite negative =>
    rw [hfloat] at hlow hhigh
    cases negative with
    | true => exact absurd hlow (lt_irrefl _)
    | false => exact absurd hhigh (lt_irrefl _)
  | finite negative m e =>
    dsimp only
    rw [Ratio.mkRat_ofScaled]
    rfl

/-- Nothing is before or behind what is no number. -/
theorem not_lt_of_nan (hx : ofFloat x = .nan) : ¬ x < y ∧ ¬ y < x := by
  rw [lt_iff_compare, lt_iff_compare, unpack_of_nan hx, compare_swap y.toModel.unpack]
  exact ⟨nofun, nofun⟩

theorem ne_nan_of_rational? {v : ℚ} (h : rational? x = some v) : ofFloat x ≠ .nan := by
  intro hnan
  unfold rational? at h
  rw [hnan] at h
  cases h

end FedLoad
