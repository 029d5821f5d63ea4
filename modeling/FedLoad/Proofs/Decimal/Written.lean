import FedLoad.Decimal.Style
import FedLoad.Proofs.Decimal.Shortest
/-!
# Floats written as numerals

In the style of amounts a finite float is written as a numeral, with a minus sign in front if the
float is negative. Wherever the point stands among the digits, and whatever zeros are put before or
after them, the number written is the shortest decimal of the double. So reading what is written
gives the float back.

Main statements: `exists_numeral_write` and `readChars_write`.
-/
namespace FedLoad

open Double

namespace Decimal

/-! ## Digits -/

theorem isDigit_of_mem_digits {n : Nat} {c : Char} (h : c ∈ digits n) : isDigit c = true :=
  Nat.isDigit_of_mem_toDigits (by decide) (by decide) h

theorem ofDigits_digits (n : Nat) : ofDigits (digits n) = n :=
  Nat.ofDigitChars_toDigits (by decide) (by decide)

theorem isDigit_of_mem_zeros {k : Nat} {c : Char} (h : c ∈ List.replicate k '0') :
    isDigit c = true := by
  rw [(List.mem_replicate.1 h).2]
  rfl

theorem ofDigits_zeros (k : Nat) : ofDigits (List.replicate k '0') = 0 :=
  Nat.ofDigitChars_replicate_zero.trans (Nat.mul_zero _)

/-- What is dropped is zeros. -/
theorem exists_dropTrailingZeros_append (ds : List Char) :
    ∃ k, dropTrailingZeros ds ++ List.replicate k '0' = ds := by
  have hzeros : ds.reverse.takeWhile (· = '0') =
      List.replicate (ds.reverse.takeWhile (· = '0')).length '0' := by
    refine List.eq_replicate_iff.2 ⟨rfl, fun c hc => ?_⟩
    simpa using List.mem_takeWhile_imp hc
  refine ⟨(ds.reverse.takeWhile (· = '0')).length, ?_⟩
  rw [← List.reverse_replicate, ← hzeros, dropTrailingZeros, ← List.reverse_append,
    List.takeWhile_append_dropWhile, List.reverse_reverse]

/-! ## The point -/

/-- Digits with a point among them are a numeral, and all of them count units of the last place. -/
theorem exists_numeral {w f : List Char} (hw : w ≠ []) (hdigits : ∀ c ∈ w ++ f, isDigit c = true) :
    ∃ n : Numeral, n.text = (if f = [] then w else w ++ '.' :: f) ∧
      n.value = ofDigits (w ++ f) * 10 ^ (-f.length : Int) := by
  have hwhole : ∀ c ∈ w, isDigit c = true := fun c hc => hdigits c (List.mem_append_left _ hc)
  have hplaces : ∀ c ∈ f, isDigit c = true := fun c hc => hdigits c (List.mem_append_right _ hc)
  by_cases hf : f = []
  · subst hf
    exact ⟨⟨⟨w, hw, hwhole⟩, none⟩, (if_pos rfl).symm, Numeral.value_eq _⟩
  · exact ⟨⟨⟨w, hw, hwhole⟩, some ⟨f, hf, hplaces⟩⟩, (if_neg hf).symm, Numeral.value_eq _⟩

section Point

variable {ds : List Char}

theorem exists_numeral_pointBefore (hds : ds ≠ []) (hdigits : ∀ c ∈ ds, isDigit c = true) (k : Nat) :
    ∃ n : Numeral, n.text = '0' :: '.' :: (List.replicate k '0' ++ ds) ∧
      n.value = ofDigits ds * 10 ^ (-k - ds.length : Int) := by
  have hall : ∀ c ∈ ['0'] ++ (List.replicate k '0' ++ ds), isDigit c = true := by
    intro c hc
    rw [← List.append_assoc] at hc
    exact (List.mem_append.1 hc).elim (isDigit_of_mem_zeros (k := k + 1)) (hdigits c)
  have hnumber : ofDigits (['0'] ++ (List.replicate k '0' ++ ds)) = ofDigits ds := by
    rw [← List.append_assoc, ofDigits_append]
    exact (congrArg (_ * · + _) (ofDigits_zeros (k + 1))).trans (Nat.zero_add _)
  obtain ⟨n, htext, hvalue⟩ := exists_numeral (List.cons_ne_nil _ _) hall
  refine ⟨n, htext.trans (if_neg (List.append_ne_nil_of_right_ne_nil _ hds)), ?_⟩
  rw [hvalue, hnumber, List.length_append, List.length_replicate]
  congr 2
  omega

theorem exists_numeral_pointAfter (hds : ds ≠ []) (hdigits : ∀ c ∈ ds, isDigit c = true) (k : Nat) :
    ∃ n : Numeral, n.text = ds ++ List.replicate k '0' ∧ n.value = ofDigits ds * 10 ^ k := by
  have hall : ∀ c ∈ ds ++ List.replicate k '0' ++ [], isDigit c = true := by
    intro c hc
    rw [List.append_nil] at hc
    exact (List.mem_append.1 hc).elim (hdigits c) isDigit_of_mem_zeros
  obtain ⟨n, htext, hvalue⟩ := exists_numeral (List.append_ne_nil_of_left_ne_nil hds _) hall
  refine ⟨n, htext.trans (if_pos rfl), ?_⟩
  rw [hvalue, List.append_nil, ofDigits_append, ofDigits_zeros, List.length_replicate]
  push_cast
  simp [mul_comm]

theorem exists_numeral_pointInside (hdigits : ∀ c ∈ ds, isDigit c = true) {k : Nat} (hk : 0 < k)
    (hlt : k < ds.length) : ∃ n : Numeral, n.text = ds.take k ++ '.' :: ds.drop k ∧
      n.value = ofDigits ds * 10 ^ (k - ds.length : Int) := by
  have hfront : ds.take k ≠ [] := by
    intro hnil
    have hlength := congrArg List.length hnil
    rw [List.length_take_of_le hlt.le] at hlength
    exact hk.ne' hlength
  have hback : ds.drop k ≠ [] := mt List.drop_eq_nil_iff.1 (Nat.not_le.2 hlt)
  have hall : ∀ c ∈ ds.take k ++ ds.drop k, isDigit c = true := by
    rwa [List.take_append_drop]
  obtain ⟨n, htext, hvalue⟩ := exists_numeral hfront hall
  refine ⟨n, htext.trans (if_neg hback), ?_⟩
  rw [hvalue, List.take_append_drop, List.length_drop, Nat.cast_sub hlt.le, neg_sub]

/-- Wherever the point is put, each digit keeps its place. -/
theorem exists_numeral_placePoint (hds : ds ≠ []) (hdigits : ∀ c ∈ ds, isDigit c = true)
    (whole : Int) : ∃ n : Numeral, n.text = placePoint ds whole false ∧
      n.value = ofDigits ds * 10 ^ (whole - ds.length) := by
  unfold placePoint
  split
  · next hwhole =>
    obtain ⟨k, rfl⟩ := Int.exists_eq_neg_ofNat hwhole
    rw [neg_neg, Int.toNat_natCast]
    exact exists_numeral_pointBefore hds hdigits k
  · next hwhole =>
    obtain ⟨k, rfl⟩ := Int.eq_ofNat_of_zero_le (Int.not_le.1 hwhole).le
    rw [Int.toNat_natCast]
    dsimp only
    split
    · next hfew =>
      obtain ⟨n, htext, hvalue⟩ := exists_numeral_pointAfter hds hdigits (k - ds.length)
      refine ⟨n, htext.trans (List.append_nil _).symm, ?_⟩
      rw [hvalue, ← Nat.cast_sub hfew, zpow_natCast]
    · next hmany => exact exists_numeral_pointInside hdigits (by omega) (by omega)

end Point

/-- A positive decimal is written as a numeral of its value. -/
theorem exists_numeral_writeDecimal {s : Scientific} (h : s.coefficient ≠ 0) :
    ∃ n : Numeral, n.text = s.write .amount ∧ n.value = s.coefficient * 10 ^ s.exponent := by
  obtain ⟨k, hzeros⟩ := exists_dropTrailingZeros_append (digits s.coefficient)
  have hnumber : s.coefficient = 10 ^ k * ofDigits (dropTrailingZeros (digits s.coefficient)) := by
    conv_lhs => rw [← ofDigits_digits s.coefficient, ← hzeros, ofDigits_append, ofDigits_zeros,
      List.length_replicate, Nat.add_zero]
  have hlength : (digits s.coefficient).length =
      (dropTrailingZeros (digits s.coefficient)).length + k := by
    conv_lhs => rw [← hzeros, List.length_append, List.length_replicate]
  have hds : dropTrailingZeros (digits s.coefficient) ≠ [] := by
    intro hnil
    rw [hnil] at hnumber
    exact h hnumber
  obtain ⟨n, htext, hvalue⟩ := exists_numeral_placePoint hds
    (fun c hc => isDigit_of_mem_digits (hzeros ▸ List.mem_append_left _ hc))
    (s.exponent + (digits s.coefficient).length - 1 + 1)
  refine ⟨n, htext, ?_⟩
  have hexponent : s.exponent + (digits s.coefficient).length - 1 + 1 -
      (dropTrailingZeros (digits s.coefficient)).length = k + s.exponent := by
    rw [hlength]
    push_cast
    ring
  have hcoefficient : (s.coefficient : ℚ) =
      10 ^ k * ofDigits (dropTrailingZeros (digits s.coefficient)) := by exact_mod_cast hnumber
  rw [hvalue, hexponent, hcoefficient, zpow_add₀ (by norm_num), zpow_natCast]
  ring

def Numeral.zero : Numeral :=
  ⟨⟨['0'], List.cons_ne_nil _ _, fun _ hc => isDigit_of_mem_zeros (k := 1) hc⟩, none⟩

theorem Numeral.value_zero : zero.value = 0 := by
  have hdigits : ofDigits zero.whole.val = 0 := ofDigits_zeros 1
  have hplaces : ofDigits zero.places = 0 := rfl
  rw [value, hdigits, hplaces, Nat.cast_zero, zero_div, zero_add]

/-! ## Floats -/

/-- The text of a double's distance from zero. -/
theorem exists_numeral_magnitude {m : Nat} {e : Int} (h : Canonical m e) :
    ∃ n : Numeral, n.text = (if m = 0 then ['0'] else (shortest .up m e).write .amount) ∧
      RoundsTo n.value m e := by
  by_cases hm : m = 0
  · subst hm
    have hround := h.roundsTo
    rw [Nat.cast_zero, zero_mul, ← Numeral.value_zero] at hround
    exact ⟨.zero, rfl, hround⟩
  · obtain ⟨hcoefficient, hround⟩ := shortest_roundsTo h hm .up
    obtain ⟨n, htext, hvalue⟩ := exists_numeral_writeDecimal hcoefficient
    exact ⟨n, htext.trans (if_neg hm).symm, hvalue ▸ hround⟩

/-- A finite float is written as a numeral to which it is nearest; below zero a minus sign stands in
front, and the numeral is that of its negative. -/
theorem exists_numeral_write {x : Float} {negative : Bool} {m : Nat} {e : Int}
    (h : ofFloat x = .finite negative m e) :
    ∃ (n : Numeral) (y : Float), (write .amount x).toList = signed negative n.text ∧
      IsNearest y n.value ∧ x = if negative then -y else y := by
  obtain ⟨hm, hbound⟩ := canonical_of_ofFloat h
  obtain ⟨n, htext, hround⟩ := exists_numeral_magnitude hm
  obtain ⟨y, hy, -⟩ := n.exists_readChars
  have hfloat : ofFloat y = .finite false m e :=
    (hy.ofFloat_eq hround).trans (if_neg (Int.not_lt.2 hbound))
  refine ⟨n, y, ?_, hy, ?_⟩
  · rw [write, h, htext]
    exact String.toList_ofList
  · cases negative
    · exact eq_of_ofFloat_eq h hfloat Double.noConfusion
    · exact eq_of_ofFloat_eq h (ofFloat_neg_of_finite hfloat) Double.noConfusion

/-- What is written for a finite float is made of digits, points and minus signs. -/
theorem mem_write {x : Float} (h : isFinite x = true) {c : Char}
    (hc : c ∈ (write .amount x).toList) : isDigit c = true ∨ c = '.' ∨ c = '-' := by
  unfold isFinite at h
  split at h
  · next negative m e hx =>
    obtain ⟨n, -, htext, -, -⟩ := exists_numeral_write hx
    rw [htext] at hc
    cases negative with
    | false => exact (Numeral.mem_text hc).imp_right .inl
    | true =>
      rcases List.mem_cons.1 hc with rfl | hc
      · exact .inr (.inr rfl)
      · exact (Numeral.mem_text hc).imp_right .inl
  · cases h

/-- A finite float is read from what is written for it. -/
theorem readChars_write {x : Float} (h : isFinite x = true) :
    readChars (write .amount x).toList = .ok x := by
  unfold isFinite at h
  split at h
  · next negative m e hx =>
    obtain ⟨n, y, htext, hy, rfl⟩ := exists_numeral_write hx
    obtain ⟨z, hz, hread, hreadNeg⟩ := n.exists_readChars
    obtain rfl := hz.unique hy
    rw [htext]
    cases negative
    · exact hread
    · exact hreadNeg
  · cases h

end Decimal

end FedLoad
