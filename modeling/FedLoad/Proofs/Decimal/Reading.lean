import FedLoad.Decimal.Reader
import FedLoad.Proofs.Decimal.Arithmetic
import FedLoad.Proofs.Text.Blank
import Mathlib.Data.List.TakeWhile
/-!
# Decimals read as floats

A decimal is turned into a float by one product or quotient with a power of ten: of floats when both
are exact, and of unbounded whole numbers otherwise. Either way the result is the float nearest to
the decimal. Far outside the range of floats nothing is multiplied, and the result is the same.

A numeral is digits, with or without a point and more digits. Reading it cannot fail.

Main statements: `isNearest_nearest` and `Numeral.exists_readChars`.
-/
namespace FedLoad

open Float.Model Float.Model.UnpackedFloat

open Double Text

namespace Decimal

/-! ## Digits -/

theorem width_le_iff {n k : Nat} : width n ≤ k ↔ n < 10 ^ k := by
  unfold width
  split
  · next h =>
    rw [h]
    exact iff_of_true (Nat.zero_le k) (Nat.pow_pos (by decide))
  · next h =>
    obtain rfl | hk := Nat.eq_zero_or_pos k
    · have hlength : 0 < (digits n).length := Nat.length_toDigits_pos
      omega
    · exact Nat.length_toDigits_le_iff (by decide) hk

theorem lt_pow_width (n : Nat) : n < 10 ^ width n := width_le_iff.1 (Nat.le_refl _)

theorem pow_le_of_width {n k : Nat} (h : k < width n) : 10 ^ k ≤ n :=
  Nat.le_of_not_lt (mt width_le_iff.2 (Nat.not_le.2 h))

theorem width_le_log2 (n : Nat) : width n ≤ n.log2 + 1 := by
  rw [width_le_iff]
  exact Nat.lt_log2_self.trans_le (Nat.pow_le_pow_left (by decide) _)

/-! ## Decimals as floats -/

/-- Is a whole number that is not zero the value of a double? -/
def isValue (n : Nat) : Double → Bool
  | .finite false m e =>
    decide (m ≠ 0 ∧ (Ratio.ofScaled m e).num = n * (Ratio.ofScaled m e).den)
  | _ => false

theorem exists_of_isValue {n : Nat} {d : Double} (h : isValue n d = true) :
    ∃ m e, d = .finite false m e ∧ m ≠ 0 ∧ (m * 2 ^ e : ℚ) = n := by
  unfold isValue at h
  split at h
  · next m e =>
    obtain ⟨hm, hratio⟩ := of_decide_eq_true h
    refine ⟨m, e, rfl, hm, ?_⟩
    have hden : ((Ratio.ofScaled m e).den : ℚ) ≠ 0 :=
      Nat.cast_ne_zero.2 (Ratio.ofScaled_den_ne_zero m e)
    rw [← Ratio.value_ofScaled, Ratio.value, Rat.mkRat_eq_div, hratio]
    push_cast
    exact mul_div_cancel_right₀ _ hden
  · cases h

/-- The powers of ten that have few enough digits are floats themselves. -/
theorem powersOfTen_exact {k : Nat} (hk : k < Float.exactlyRepresentablePowersOfTen.size) :
    ∃ m e, ofFloat Float.exactlyRepresentablePowersOfTen[k] = .finite false m e ∧ m ≠ 0 ∧
      (m * 2 ^ e : ℚ) = 10 ^ k := by
  have hall : ∀ k : Fin 23,
      isValue (10 ^ k.val) (ofFloat Float.exactlyRepresentablePowersOfTen[k]) = true := by
    decide +kernel
  obtain ⟨m, e, hfloat, hm, hvalue⟩ := exists_of_isValue (hall ⟨k, hk⟩)
  exact ⟨m, e, hfloat, hm, hvalue.trans (Nat.cast_pow 10 k)⟩

/-- A decimal rounds to a double, by a product or by a quotient with a power of ten. -/
theorem exists_decimal {n : Nat} (hn : n ≠ 0) (e : Int) :
    ∃ r t, RoundsTo (n * 10 ^ e : ℚ) r t ∧
      (-(2048 + n.log2 : Int) ≤ e → e ≤ 2048 →
        UnpackedFloat.ofScientific Format.binary64 n e = ofParts r t) := by
  have hten (k : Nat) : 10 ^ k ≠ 0 := Nat.ne_of_gt (Nat.pow_pos (by decide))
  have hrange (hlow : -(2048 + n.log2 : Int) ≤ e) (hhigh : e ≤ 2048) :
      UnpackedFloat.ofScientific Format.binary64 n e =
        if 0 ≤ e then
          UnpackedFloat.mul Format.binary64 (ofParts (n * 2 ^ 53) (-53)) (ofParts (10 ^ e.toNat) 0)
        else UnpackedFloat.div Format.binary64 (ofParts n 0) (ofParts (10 ^ (-e).toNat) 0) := by
    have hhigh' : ¬ e > (2 : Int) ^ 11 := by omega
    have hlow' : ¬ e < -((2 : Int) ^ 11 + n.log2) := by omega
    have hn' : n <<< 53 ≠ 0 := by
      rw [Nat.shiftLeft_eq]
      exact Nat.mul_ne_zero hn (Nat.two_pow_pos 53).ne'
    rw [← Nat.shiftLeft_eq, ofParts_of_ne_zero _ hn, ofParts_of_ne_zero _ (hten _),
      ofParts_of_ne_zero _ (hten _), ofParts_of_ne_zero _ hn', UnpackedFloat.ofScientific,
      dif_neg hn]
    change (if e > (2 : Int) ^ 11 then _ else if e < -((2 : Int) ^ 11 + n.log2) then _ else _) = _
    rw [if_neg hhigh', if_neg hlow']
    rfl
  by_cases he : 0 ≤ e
  · have hpos : n * 2 ^ 53 ≠ 0 := Nat.mul_ne_zero hn (Nat.two_pow_pos 53).ne'
    have hdigits : 52 ≤ (n * 2 ^ 53 * 10 ^ e.toNat).log2 := by
      rw [Nat.le_log2 (Nat.mul_ne_zero hpos (hten _))]
      calc 2 ^ 52 ≤ 1 * 2 ^ 53 * 1 := by decide
        _ ≤ n * 2 ^ 53 * 10 ^ e.toNat :=
          Nat.mul_le_mul (Nat.mul_le_mul_right _ (Nat.pos_of_ne_zero hn))
            (Nat.pos_of_ne_zero (hten _))
    obtain ⟨r, t, hr, hmul⟩ := exists_mul (e := -53) (f := 0) hpos (hten e.toNat) (.inl hdigits)
    refine ⟨r, t, ?_, fun hlow hhigh => ?_⟩
    · convert hr using 1
      obtain ⟨k, rfl⟩ := Int.eq_ofNat_of_zero_le he
      rw [Nat.cast_mul, mul_assoc (n : ℚ)]
      norm_num
    · rw [hrange hlow hhigh, if_pos he, hmul]
  · obtain ⟨r, t, hr, hdiv⟩ := exists_div hn (hten (-e).toNat) 0 0
    refine ⟨r, t, ?_, fun hlow hhigh => ?_⟩
    · convert hr using 1
      obtain ⟨k, rfl⟩ := Int.exists_eq_neg_ofNat (Int.not_le.1 he).le
      rw [zpow_neg]
      simp [div_eq_mul_inv]
    · rw [hrange hlow hhigh, if_neg he, hdiv]

/-- A decimal becomes the nearest float, on the table of powers and off it. -/
theorem isNearest_ofScientific {n : Nat} (hn : n ≠ 0) {e : Int} (hlow : -(2048 + n.log2 : Int) ≤ e)
    (hhigh : e ≤ 2048) : IsNearest (Float.ofScientific n (e < 0) e.natAbs) (n * 10 ^ e) := by
  rw [Float.ofScientific]
  split
  · next hexact =>
    have hsize : e.natAbs < Float.exactlyRepresentablePowersOfTen.size :=
      Nat.lt_succ_of_le hexact.2
    obtain ⟨m, f, hm, hm₀, hnum⟩ := exists_toFloat_exact hn hexact.1
    obtain ⟨p, g, hp, hp₀, hpow⟩ := powersOfTen_exact hsize
    by_cases he : e < 0
    · have hvalue : (n * 10 ^ e : ℚ) = m * 2 ^ f / (p * 2 ^ g) := by
        rw [hnum, hpow, ← zpow_natCast, div_eq_mul_inv, ← zpow_neg, Int.ofNat_natAbs_of_nonpos he.le,
          neg_neg]
      rw [if_pos (decide_eq_true he), hvalue]
      exact isNearest_div hm hm₀ hp hp₀
    · have hvalue : (n * 10 ^ e : ℚ) = m * 2 ^ f * (p * 2 ^ g) := by
        rw [hnum, hpow, ← zpow_natCast, Int.natAbs_of_nonneg (Int.not_lt.1 he)]
      rw [if_neg (ne_true_of_eq_false (decide_eq_false he)), hvalue]
      exact isNearest_mul hm hm₀ hp hp₀
  · obtain ⟨r, t, hr, hround⟩ := exists_decimal hn e
    refine isNearest_of_unpack hr ?_
    rw [← hround hlow hhigh]
    have hexponent : (if (decide (e < 0)) = true then Int.negOfNat e.natAbs
        else Int.ofNat e.natAbs) = e := by
      simp only [decide_eq_true_eq]
      split
      · rw [Int.negOfNat_eq, Int.ofNat_eq_natCast]
        omega
      · exact Int.natAbs_of_nonneg (by omega)
    rw [hexponent]
    rfl

theorem two_pow_le_ten_pow {k : Int} (hk : 0 ≤ k) : (2 : ℚ) ^ (3 * k) ≤ 10 ^ k := by
  rw [zpow_mul]
  exact zpow_le_zpow_left₀ hk (by norm_num) (by norm_num)

/-- Where a decimal has too many places before its point, it is above every finite float. -/
theorem lt_of_pow_le {v : ℚ} {r : Nat} {t : Int} (h : RoundsTo v r t) (hv : 10 ^ (400 : Int) ≤ v) :
    971 < t := by
  by_contra hle
  have hcanonical : Canonical (2 ^ 52) 972 := canonical_of_lt (by decide) (by decide) (by decide)
  have hlt := h.lt_of_before hcanonical.roundsTo (.inl (by omega))
  have htop : ((2 ^ 52 : Nat) * 2 ^ (972 : Int) : ℚ) ≤ 10 ^ (400 : Int) :=
    calc ((2 ^ 52 : Nat) * 2 ^ (972 : Int) : ℚ) = 2 ^ (52 + 972 : Int) := by
          rw [zpow_add₀ (by norm_num)]
          norm_num
      _ ≤ 2 ^ (3 * 400 : Int) := zpow_le_zpow_right₀ (by norm_num) (by decide)
      _ ≤ 10 ^ (400 : Int) := two_pow_le_ten_pow (by decide)
  exact absurd (hlt.trans_le htop) (not_lt.2 hv)

theorem roundsTo_zero_of_lt {v : ℚ} (hv : 0 ≤ v) (hlt : v < 10 ^ (-400 : Int)) :
    RoundsTo v 0 (-1074) := by
  refine ⟨canonical_of_lt (by decide) (Int.le_refl _) (by omega), contains_around.2 ⟨?_, ?_, ?_⟩⟩
  · simpa [lowQuarters] using hv
  · calc v ≤ 10 ^ (-400 : Int) := hlt.le
      _ ≤ 2 ^ (-(3 * 400) : Int) := by
        rw [zpow_neg, zpow_neg]
        exact inv_anti₀ (by positivity) (two_pow_le_ten_pow (by decide))
      _ ≤ 2 ^ (-1076 : Int) := zpow_le_zpow_right₀ (by norm_num) (by decide)
      _ ≤ (4 * 0 + 2 : Nat) * 2 ^ (-1074 - 2 : Int) :=
        le_mul_of_one_le_left (zpow_nonneg (by norm_num) _) (by norm_num)
  · omega

/-- Reading a decimal gives the nearest float. -/
theorem isNearest_nearest (n : Nat) (e : Int) : IsNearest (nearest n e) (n * 10 ^ e) := by
  have hten : (0 : ℚ) < 10 := by norm_num
  rw [nearest]
  split
  · next hn =>
    rw [hn, Nat.cast_zero, zero_mul]
    exact isNearest_zero
  · next hn =>
    have hwidth : 0 < width n := Nat.pos_of_ne_zero fun h => by
      have := lt_pow_width n
      rw [h] at this
      omega
    dsimp only
    split
    · next htop =>
      obtain ⟨r, t, hr, -⟩ := exists_decimal hn e
      refine ⟨r, t, hr, ?_⟩
      rw [if_pos (lt_of_pow_le hr ?_)]
      · rfl
      · have hlow : ((10 ^ (width n - 1) : Nat) : ℚ) ≤ n := by
          exact_mod_cast pow_le_of_width (by omega)
        calc (10 : ℚ) ^ (400 : Int) ≤ 10 ^ ((width n - 1 : Nat) + e) :=
              zpow_le_zpow_right₀ (by norm_num) (by omega)
          _ = (10 ^ (width n - 1) : Nat) * 10 ^ e := by
              rw [zpow_add₀ hten.ne', zpow_natCast]
              push_cast
              rfl
          _ ≤ n * 10 ^ e := by gcongr
    · split
      · next htop =>
        refine ⟨0, -1074, roundsTo_zero_of_lt (by positivity) ?_, rfl⟩
        have hhigh : (n : ℚ) < (10 ^ width n : Nat) := by exact_mod_cast lt_pow_width n
        calc (n : ℚ) * 10 ^ e < (10 ^ width n : Nat) * 10 ^ e := by gcongr
          _ = 10 ^ (width n + e) := by
              rw [zpow_add₀ hten.ne', zpow_natCast]
              push_cast
              rfl
          _ ≤ 10 ^ (-400 : Int) := zpow_le_zpow_right₀ (by norm_num) (by omega)
      · next hbelow habove =>
        have hlog := width_le_log2 n
        have hall := isNearest_ofScientific hn (e := e) (by omega) (by omega)
        split
        · next he => rwa [decide_eq_true he] at hall
        · next he => rwa [decide_eq_false he] at hall

/-! ## Numerals -/

theorem not_isBlank_of_isDigit (c : Char) (h : isDigit c = true) : isBlank c = false := by
  simp only [isDigit, Bool.and_eq_true, decide_eq_true_eq] at h
  exact not_isBlank_of_between (by decide) (by decide) h

/-- Digits, and after a point more digits if there is a point. -/
structure Numeral where
  whole : Chars isDigit
  fraction : Option (Chars isDigit)

namespace Numeral

/-- The digits after the point. -/
def places (n : Numeral) : List Char :=
  match n.fraction with
  | none => []
  | some ds => ds.val

def text (n : Numeral) : List Char :=
  match n.fraction with
  | none => n.whole.val
  | some ds => n.whole.val ++ '.' :: ds.val

/-- The number that is written. -/
def value (n : Numeral) : ℚ := ofDigits n.whole.val + ofDigits n.places / 10 ^ n.places.length

end Numeral

theorem ofDigits_append (s t : List Char) :
    ofDigits (s ++ t) = 10 ^ t.length * ofDigits s + ofDigits t :=
  (Nat.ofDigitChars_append 0).trans Nat.ofDigitChars_eq_ofDigitChars_zero

theorem takeSign_of_digit {c : Char} {rest : List Char} (hc : isDigit c = true) :
    takeSign (c :: rest) = (false, c :: rest) := by
  unfold takeSign
  split
  · next h =>
    cases h
    cases hc
  · next h =>
    cases h
    cases hc
  · rfl

namespace Numeral

theorem literal?_text (n : Numeral) : literal? n.text = some ⟨n.whole.val, n.places, 0⟩ := by
  obtain ⟨⟨w, hw, hdigits⟩, - | ⟨f, hf, hplaces⟩⟩ := n
  · change literal? w = some ⟨w, [], 0⟩
    unfold literal?
    rw [List.takeWhile_eq_self_iff.2 hdigits, List.dropWhile_eq_nil_iff.2 hdigits]
    simp [hw, exponentPart?]
  · change literal? (w ++ '.' :: f) = some ⟨w, f, 0⟩
    have hstop : ∀ c, ('.' :: f).head? = some c → isDigit c = false := by
      rintro c ⟨⟩
      decide
    unfold literal?
    rw [takeWhile_run hdigits hstop, dropWhile_run hdigits hstop]
    simp [hw, List.takeWhile_eq_self_iff.2 hplaces, List.dropWhile_eq_nil_iff.2 hplaces,
      exponentPart?]

/-- All the digits together count units of the last place. -/
theorem value_eq (n : Numeral) :
    n.value = ofDigits (n.whole.val ++ n.places) * 10 ^ (-n.places.length : Int) := by
  rw [value, ofDigits_append, zpow_neg, zpow_natCast]
  push_cast
  field_simp

theorem isNearest_toFloat (n : Numeral) :
    IsNearest (Literal.toFloat ⟨n.whole.val, n.places, 0⟩) n.value := by
  rw [value_eq, ← zero_sub]
  exact isNearest_nearest _ _

theorem mem_text {n : Numeral} {c : Char} (h : c ∈ n.text) : isDigit c = true ∨ c = '.' := by
  obtain ⟨w, - | f⟩ := n
  · exact .inl (w.property.2 c h)
  · rcases List.mem_append.1 h with hw | hf
    · exact .inl (w.property.2 c hw)
    · rcases List.mem_cons.1 hf with rfl | hf
      · exact .inr rfl
      · exact .inl (f.property.2 c hf)

theorem head?_text (n : Numeral) : ∃ c, n.text.head? = some c ∧ isDigit c = true := by
  obtain ⟨⟨w, hw, hdigits⟩, fraction⟩ := n
  obtain ⟨c, rest, rfl⟩ := List.exists_cons_of_ne_nil hw
  refine ⟨c, ?_, hdigits c List.mem_cons_self⟩
  cases fraction <;> rfl

/-- A numeral is read as the nearest float, with a minus sign in front as its negative. -/
theorem exists_readChars (n : Numeral) :
    ∃ x, IsNearest x n.value ∧ readChars n.text = .ok x ∧ readChars ('-' :: n.text) = .ok (-x) := by
  refine ⟨_, n.isNearest_toFloat, ?_, ?_⟩
  · obtain ⟨c, hhead, hc⟩ := n.head?_text
    have hliteral := n.literal?_text
    obtain ⟨rest, htext⟩ : ∃ rest, n.text = c :: rest := List.head?_eq_some_iff.1 hhead
    rw [htext] at hliteral ⊢
    simp only [readChars, takeSign_of_digit hc, hliteral]
    rfl
  · simp only [readChars, takeSign, n.literal?_text]
    rfl

end Numeral

end Decimal

end FedLoad
