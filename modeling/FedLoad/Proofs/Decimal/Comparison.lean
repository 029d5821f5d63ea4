import FedLoad.Proofs.Decimal.Reading
import FedLoad.Threshold.Expression
/-!
# Comparing floats

Two floats that are numbers are in one of three orders, and from the order it follows which
comparisons hold: of a comparison and its negation exactly one.

What is nearest to a number is at most a float `y` with an even last digit exactly if the number is
at most the upper end of the interval of `y`.

Main statements: `Comparison.holds_negate` and `IsNearest.le_iff`.
-/
namespace FedLoad

open Float.Model Float.Model.UnpackedFloat

open Double

/-! ## Order of unpacked numbers -/

section Unpacked

variable (u v : UnpackedFloat)

theorem compare_swap : u.compare v = (v.compare u).map Ordering.swap := by
  have hint (e f : Int) : compare e f = (compare f e).swap := Std.OrientedCmp.eq_swap
  have hnat (m n : Nat) : compare m n = (compare n m).swap := Std.OrientedCmp.eq_swap
  obtain (_ | _) | _ | (_ | _) | ⟨_ | _, m, e, hm⟩ := u <;>
    obtain (_ | _) | _ | (_ | _) | ⟨_ | _, n, f, hn⟩ := v <;>
    first
    | rfl
    | dsimp only [UnpackedFloat.compare]
      simp [Ordering.swap_then, hint e f, hnat m n]

theorem isSome_compare : (u.compare v).isSome = true ↔ u ≠ .notANumber ∧ v ≠ .notANumber := by
  obtain (_ | _) | _ | (_ | _) | ⟨_ | _, m, e, hm⟩ := u <;>
    obtain (_ | _) | _ | (_ | _) | ⟨_ | _, n, f, hn⟩ := v <;>
    first
    | exact iff_of_true rfl ⟨UnpackedFloat.noConfusion, UnpackedFloat.noConfusion⟩
    | exact iff_of_false Bool.false_ne_true fun h => h.1 rfl
    | exact iff_of_false Bool.false_ne_true fun h => h.2 rfl

end Unpacked

/-! ## Order of floats -/

section Floats

variable {x y : Float} {m n : Nat} {e f : Int}

theorem lt_iff_compare : x < y ↔ x.toModel.unpack.compare y.toModel.unpack = some .lt := by
  refine Iff.trans decide_eq_true_iff ?_
  change (x.toModel.unpack.compare y.toModel.unpack == some .lt) = true ↔ _
  exact beq_iff_eq

theorem beq_iff_compare :
    (x == y) = true ↔ x.toModel.unpack.compare y.toModel.unpack = some .eq := by
  change (x.toModel.unpack.compare y.toModel.unpack == some .eq) = true ↔ _
  exact beq_iff_eq

theorem le_iff_compare : x ≤ y ↔ ∃ o, x.toModel.unpack.compare y.toModel.unpack = some o ∧ o ≠ .gt := by
  refine Iff.trans decide_eq_true_iff ?_
  change (x.toModel.unpack.compare y.toModel.unpack).any (fun o => o.isLE) = true ↔ _
  rw [Option.any_eq_true]
  simp [Ordering.isLE_iff_ne_gt]

/-- Two numbers are in exactly one of three orders. -/
theorem exists_compare (hx : ofFloat x ≠ .nan) (hy : ofFloat y ≠ .nan) :
    ∃ o, x.toModel.unpack.compare y.toModel.unpack = some o := by
  rw [← Option.isSome_iff_exists, isSome_compare]
  rw [ofFloat_eq] at hx hy
  refine ⟨fun h => hx ?_, fun h => hy ?_⟩
  · rw [h]
    rfl
  · rw [h]
    rfl

/-- A number is equal to itself. -/
theorem beq_self_of_ne_nan (h : ofFloat x ≠ .nan) : (x == x) = true := by
  obtain ⟨o, ho⟩ := exists_compare h h
  have hswap := compare_swap x.toModel.unpack x.toModel.unpack
  rw [ho] at hswap
  rw [beq_iff_compare, ho]
  cases o with
  | eq => rfl
  | lt | gt => cases hswap

/-- Does a comparison hold of two numbers in this order? -/
def Comparison.accepts : Comparison → Ordering → Bool
  | .lt, o => o == .lt
  | .le, o => o != .gt
  | .gt, o => o == .gt
  | .ge, o => o != .lt
  | .eq, o => o == .eq
  | .ne, o => o != .eq

theorem Comparison.holds_eq (c : Comparison) {o : Ordering}
    (h : x.toModel.unpack.compare y.toModel.unpack = some o) : c.holds x y = c.accepts o := by
  have hswap : y.toModel.unpack.compare x.toModel.unpack = some o.swap := by
    rw [compare_swap, h]
    rfl
  have heq : (x == y) = (o == .eq) := by
    rw [Bool.eq_iff_iff, beq_iff_compare, h, Option.some_inj, beq_iff_eq]
  cases c with
  | lt => cases o <;> simp [holds, accepts, lt_iff_compare, h]
  | le => cases o <;> simp [holds, accepts, le_iff_compare, h]
  | gt => cases o <;> simp [holds, accepts, GT.gt, lt_iff_compare, hswap]
  | ge => cases o <;> simp [holds, accepts, GE.ge, le_iff_compare, hswap]
  | eq => exact heq
  | ne => exact congrArg (! ·) heq

/-- Of a comparison and its negation exactly one holds of two numbers. -/
theorem Comparison.holds_negate (c : Comparison) (hx : ofFloat x ≠ .nan) (hy : ofFloat y ≠ .nan) :
    c.negate.holds x y = !c.holds x y := by
  obtain ⟨o, h⟩ := exists_compare hx hy
  rw [c.holds_eq h, c.negate.holds_eq h]
  cases c <;> cases o <;> rfl

/-! ## Order of what is nearest -/

/-- Numbers that are not negative are ordered by exponent first. -/
theorem compare_ofParts (hm : Canonical m e) (hn : Canonical n f) :
    (ofParts m e).compare (ofParts n f) = some ((compare e f).then (compare m n)) := by
  have hleast := hm.least
  have hleast' := hn.least
  by_cases hm₀ : m = 0
  · subst hm₀
    obtain rfl := hm.least_of_zero
    by_cases hn₀ : n = 0
    · subst hn₀
      obtain rfl := hn.least_of_zero
      rfl
    · rw [ofParts_of_ne_zero f hn₀, compare_lt_iff_lt.2 (Nat.pos_of_ne_zero hn₀)]
      obtain hlt | heq := hleast'.lt_or_eq
      · rw [compare_lt_iff_lt.2 hlt]
        rfl
      · rw [← heq]
        rfl
  · rw [ofParts_of_ne_zero e hm₀]
    by_cases hn₀ : n = 0
    · subst hn₀
      obtain rfl := hn.least_of_zero
      rw [compare_gt_iff_gt.2 (Nat.pos_of_ne_zero hm₀)]
      obtain hlt | heq := hleast.lt_or_eq
      · rw [compare_gt_iff_gt.2 hlt]
        rfl
      · rw [← heq]
        rfl
    · rw [ofParts_of_ne_zero f hn₀]
      rfl

theorem le_iff_of_finite (hx : ofFloat x = .finite false m e) (hy : ofFloat y = .finite false n f) :
    x ≤ y ↔ ¬ (f < e ∨ f = e ∧ n < m) := by
  rw [le_iff_compare, unpack_of_finite hx, unpack_of_finite hy,
    compare_ofParts (canonical_of_ofFloat hx).1 (canonical_of_ofFloat hy).1]
  simp only [Option.some_inj, exists_eq_left', ne_eq, Ordering.then_eq_gt, compare_gt_iff_gt,
    compare_eq_iff_eq, eq_comm (a := e)]

/-- What rounds to a float is at most the upper end of its interval, and so is what rounds to a
smaller one. -/
theorem IsNearest.le_iff {v : ℚ} (hx : IsNearest x v) (hy : ofFloat y = .finite false n f)
    (heven : n % 2 = 0) : x ≤ y ↔ v ≤ (4 * n + 2 : Nat) * 2 ^ (f - 2) := by
  obtain ⟨hn, hbound⟩ := canonical_of_ofFloat hy
  have hhigh : RoundsTo ((4 * n + 2 : Nat) * 2 ^ (f - 2)) n f := by
    refine ⟨hn, contains_around.2 ⟨?_, le_rfl, by omega⟩⟩
    gcongr
    unfold lowQuarters
    split <;> omega
  obtain ⟨m, e, hv, hx⟩ := hx
  split at hx
  · next hbig =>
    have hlt := hhigh.lt_of_before hv (.inl (by omega))
    rw [le_iff_compare, unpack_of_infinite hx, unpack_of_finite hy]
    refine iff_of_false ?_ (not_le.2 hlt)
    rintro ⟨o, ho, hne⟩
    have hgt : (infinity .positive).compare (ofParts n f) = some .gt := by
      by_cases hn₀ : n = 0
      · subst hn₀
        rfl
      · rw [ofParts_of_ne_zero f hn₀]
        rfl
    exact hne (Option.some_inj.1 (ho.symm.trans hgt))
  · rw [le_iff_of_finite hx hy]
    refine ⟨fun hbefore => ?_, fun hle hafter => ?_⟩
    · by_cases hsame : e = f ∧ m = n
      · obtain ⟨rfl, rfl⟩ := hsame
        exact (contains_around.1 hv.contains).2.1
      · exact (hv.lt_of_before hhigh (by omega)).le
    · exact absurd (hhigh.lt_of_before hv hafter) (not_lt.2 hle)

theorem IsNearest.nonneg {v : ℚ} (h : IsNearest x v) : 0.0 ≤ x := by
  have hzero : ofFloat 0.0 = .finite false 0 (-1074) := rfl
  obtain ⟨m, e, hv, hx⟩ := h
  split at hx
  · rw [le_iff_compare, unpack_of_finite hzero, unpack_of_infinite hx]
    exact ⟨.lt, rfl, Ordering.noConfusion⟩
  · have hleast := hv.canonical.least
    rw [le_iff_of_finite hzero hx]
    omega

end Floats
end FedLoad
