import FedLoad.Plan.Written
import FedLoad.Proofs.Span.Reading
/-!
# How long pauses are

A pause that is read from a text or a plan has ends of whole milliseconds, so nothing is lost when
they are counted in milliseconds. What is lost are multiples of `2^64` of them, as a word has no
room for more. A draw stays in its range as long as the lower end fits in a word. Where it does not
and the words still leave a choice, every draw falls short of the lower end. And a range from
nothing to a length of which a word keeps nothing gives no pause at all, although one is meant.

Main statement: `Pause.allows_length_iff`.
-/
namespace FedLoad

/-! ## Whole milliseconds -/

namespace Span

theorem ofMillis_le_iff {a b : Nat} : ofMillis a ≤ ofMillis b ↔ a ≤ b := by
  change a * 1000000 ≤ b * 1000000 ↔ a ≤ b
  omega

theorem ofMillis_lt_iff {a b : Nat} : ofMillis a < ofMillis b ↔ a < b := by
  change a * 1000000 < b * 1000000 ↔ a < b
  omega

theorem ofMillis_inj {a b : Nat} : ofMillis a = ofMillis b ↔ a = b := by
  simp [ofMillis]

theorem zero_eq_ofMillis : zero = ofMillis 0 := rfl

theorem isZero_iff {d : Span} : d.isZero = true ↔ d = zero := by
  cases d
  simp [isZero, zero]

end Span

theorem WrittenSpan.exists_ofMillis {w : WrittenSpan} {d : Span} (h : w.span = .ok d) :
    ∃ n, d = .ofMillis n := by
  cases w with
  | seconds n =>
    obtain rfl := Except.ok.inj h
    exact ⟨n * 1000, by simp [Span.ofSeconds, Span.ofMillis, Nat.mul_assoc]⟩
  | text s =>
    rw [WrittenSpan.span] at h
    split at h
    · next hread =>
      obtain rfl := Except.ok.inj h
      exact Span.exists_ofMillis_of_readChars hread
    · cases h

namespace Pause

/-! ## Pauses that are read -/

/-- Is this a pause that a text or a value of a plan gives? -/
def IsRead (p : Pause) : Prop := (∃ s, read s = .ok p) ∨ ∃ w : WrittenPause, w.pause = .ok p

theorem exists_ofMillis_of_read {s : String} {least most : Span}
    (h : read s = .ok (.between least most)) :
    (∃ a, least = .ofMillis a) ∧ ∃ b, most = .ofMillis b := by
  unfold read at h
  split at h
  · split at h
    · cases h
    · next hleast =>
      split at h
      · cases h
      · next hmost =>
        cases h
        exact ⟨Span.exists_ofMillis_of_readChars hleast, Span.exists_ofMillis_of_readChars hmost⟩
  · split at h <;> cases h

theorem exists_ofMillis_of_pause {w : WrittenPause} {least most : Span}
    (h : w.pause = .ok (.between least most)) :
    (∃ a, least = .ofMillis a) ∧ ∃ b, most = .ofMillis b := by
  cases w with
  | between wleast wmost =>
    rw [WrittenPause.pause] at h
    split at h
    · cases h
    · next hleast =>
      split at h
      · cases h
      · next hmost =>
        cases h
        exact ⟨WrittenSpan.exists_ofMillis hleast, WrittenSpan.exists_ofMillis hmost⟩
  | single length =>
    cases length with
    | seconds n => cases h
    | text s =>
      rw [WrittenPause.pause] at h
      split at h
      · next hread =>
        cases h
        exact exists_ofMillis_of_read hread
      · cases h

theorem IsRead.exists_ofMillis {least most : Span} (h : (between least most).IsRead) :
    (∃ a, least = .ofMillis a) ∧ ∃ b, most = .ofMillis b := by
  rcases h with ⟨s, hs⟩ | ⟨w, hw⟩
  · exact exists_ofMillis_of_read hs
  · exact exists_ofMillis_of_pause hw

/-! ## Draws -/

/-- What a word keeps of whole milliseconds. -/
theorem wordMillis_ofMillis (n : Nat) : wordMillis (.ofMillis n) = n % 2 ^ 64 := by
  rw [wordMillis, Span.millis_ofMillis]
  rfl

section Draws

variable {a b : Nat}

/-- Without a choice the pause is the lower end of the range. -/
theorem length_of_le (h : b % 2 ^ 64 ≤ a % 2 ^ 64) (draw : Nat) :
    (between (.ofMillis a) (.ofMillis b)).length draw = .ofMillis a := by
  rw [length, choice?, wordMillis_ofMillis, wordMillis_ofMillis, if_pos h]
  rfl

/-- With a choice it is a number of milliseconds between the two words. -/
theorem exists_length_of_lt (h : a % 2 ^ 64 < b % 2 ^ 64) (draw : Nat) :
    ∃ x, (between (.ofMillis a) (.ofMillis b)).length draw = .ofMillis x ∧
      a % 2 ^ 64 ≤ x ∧ x ≤ b % 2 ^ 64 := by
  rw [length, choice?, wordMillis_ofMillis, wordMillis_ofMillis, if_neg (Nat.not_le.2 h)]
  refine ⟨_, rfl, ?_⟩
  have hdraw : draw % (b % 2 ^ 64 - a % 2 ^ 64 + 1) < b % 2 ^ 64 - a % 2 ^ 64 + 1 :=
    Nat.mod_lt draw (Nat.succ_pos _)
  omega

/-- The upper word can be drawn. -/
theorem exists_draw_of_lt (h : a % 2 ^ 64 < b % 2 ^ 64) :
    ∃ draw, (between (.ofMillis a) (.ofMillis b)).length draw = .ofMillis (b % 2 ^ 64) := by
  refine ⟨b % 2 ^ 64 - a % 2 ^ 64, ?_⟩
  rw [length, choice?, wordMillis_ofMillis, wordMillis_ofMillis, if_neg (Nat.not_le.2 h)]
  dsimp only
  rw [Nat.mod_eq_of_lt (Nat.lt_succ_self _), Nat.add_sub_cancel' (Nat.le_of_lt h)]

end Draws

/-! ## What a pause may be -/

/-- The lengths that a pause may have: its own, or one of its range; of a range that is the wrong
way round only the lower end. -/
def Allows : Pause → Span → Prop
  | .fixed length, d => d = length
  | .between least most, d => (least ≤ most → least ≤ d ∧ d ≤ most) ∧ (most < least → d = least)

/-- Is the lower end of the range too long for a word, and do the words leave a choice? -/
def Wraps : Pause → Prop
  | .fixed _ => False
  | .between least most => 2 ^ 64 ≤ least.millis ∧ wordMillis least < wordMillis most

/-- Does the range begin with no pause and end with one of which a word keeps nothing? -/
def Vanishes : Pause → Prop
  | .fixed _ => False
  | .between least most => least = .zero ∧ most ≠ .zero ∧ wordMillis most = 0

section Ranges

variable {a b : Nat}

theorem allows_ofMillis_iff {x : Nat} :
    (between (.ofMillis a) (.ofMillis b)).Allows (.ofMillis x) ↔
      (a ≤ b → a ≤ x ∧ x ≤ b) ∧ (b < a → x = a) := by
  simp only [Allows, Span.ofMillis_le_iff, Span.ofMillis_lt_iff, Span.ofMillis_inj]

theorem wraps_ofMillis_iff : (between (.ofMillis a) (.ofMillis b)).Wraps ↔
    2 ^ 64 ≤ a ∧ a % 2 ^ 64 < b % 2 ^ 64 := by
  simp only [Wraps, Span.millis_ofMillis, wordMillis_ofMillis]

theorem vanishes_ofMillis_iff : (between (.ofMillis a) (.ofMillis b)).Vanishes ↔
    a = 0 ∧ b ≠ 0 ∧ b % 2 ^ 64 = 0 := by
  simp only [Vanishes, wordMillis_ofMillis, Span.zero_eq_ofMillis, Span.ofMillis_inj, ne_eq]

/-- Draws stay in the range just if its lower end fits in a word or there is no choice. -/
theorem allows_between_iff :
    (∀ draw, (between (.ofMillis a) (.ofMillis b)).Allows
      ((between (.ofMillis a) (.ofMillis b)).length draw)) ↔
      ¬ (between (.ofMillis a) (.ofMillis b)).Wraps := by
  rw [wraps_ofMillis_iff]
  by_cases hchoice : a % 2 ^ 64 < b % 2 ^ 64
  · constructor
    · rintro hallows ⟨hlong, -⟩
      obtain ⟨x, hx, hleast, hmost⟩ := exists_length_of_lt hchoice 0
      have hdraw := hallows 0
      rw [hx, allows_ofMillis_iff] at hdraw
      omega
    · intro hfits draw
      obtain ⟨x, hx, hleast, hmost⟩ := exists_length_of_lt hchoice draw
      rw [hx, allows_ofMillis_iff]
      omega
  · refine iff_of_true (fun draw => ?_) fun hwraps => hchoice hwraps.2
    rw [length_of_le (Nat.not_lt.1 hchoice), allows_ofMillis_iff]
    omega

theorem length_eq_zero_iff :
    (∀ draw, (between (.ofMillis a) (.ofMillis b)).length draw = .zero) ↔
      a = 0 ∧ b % 2 ^ 64 = 0 := by
  rw [Span.zero_eq_ofMillis]
  by_cases hchoice : a % 2 ^ 64 < b % 2 ^ 64
  · obtain ⟨draw, hdraw⟩ := exists_draw_of_lt hchoice
    refine iff_of_false (fun hzero => ?_) (by omega)
    have hword := (hzero draw).symm.trans hdraw
    rw [Span.ofMillis_inj] at hword
    omega
  · simp only [length_of_le (Nat.not_lt.1 hchoice), Span.ofMillis_inj, forall_const]
    omega

theorem isZero_between_iff :
    (between (.ofMillis a) (.ofMillis b)).isZero = true ↔ a = 0 ∧ b = 0 := by
  simp only [isZero, Bool.and_eq_true, Span.isZero_iff, Span.zero_eq_ofMillis, Span.ofMillis_inj]

end Ranges

/-- A pause that is read has only lengths that it may have, unless its lower end is too long for a
word and there is a choice; and no pause is meant just if every draw gives none, unless a range from
nothing vanishes. -/
theorem allows_length_iff {p : Pause} (h : p.IsRead) :
    ((∀ draw, p.Allows (p.length draw)) ↔ ¬ p.Wraps) ∧
    ((p.isZero = true ↔ ∀ draw, p.length draw = .zero) ↔ ¬ p.Vanishes) := by
  cases p with
  | fixed d =>
    have hlength : ∀ draw, (fixed d).length draw = d := fun _ => rfl
    constructor
    · simp [hlength, Allows, Wraps]
    · simp [hlength, isZero, Span.isZero_iff, Vanishes]
  | between least most =>
    obtain ⟨⟨a, rfl⟩, b, rfl⟩ := h.exists_ofMillis
    refine ⟨allows_between_iff, ?_⟩
    rw [isZero_between_iff, length_eq_zero_iff, vanishes_ofMillis_iff]
    omega

/-- A range of a second that begins beyond `2^64` milliseconds: the words hold 384 and 1384. -/
def farRange : Pause := .between (.ofMillis 18446744073709552000) (.ofMillis 18446744073709553000)

theorem read_farRange : read "18446744073709552s-18446744073709553s" = .ok farRange := by
  decide +kernel

/-- From nothing to a multiple of `2^64` milliseconds. -/
def voidRange : Pause := .between (.ofMillis 0) (.ofMillis 2305843009213693952000)

theorem read_voidRange : read "0s-2305843009213693952s" = .ok voidRange := by decide +kernel

theorem allows_length_iff_longRanges :
    farRange.IsRead ∧ (¬ ∀ draw, farRange.Allows (farRange.length draw)) ∧
    voidRange.IsRead ∧ ¬ (voidRange.isZero = true ↔ ∀ draw, voidRange.length draw = .zero) := by
  have hfar : farRange.IsRead := .inl ⟨_, read_farRange⟩
  have hvoid : voidRange.IsRead := .inl ⟨_, read_voidRange⟩
  refine ⟨hfar, fun hallows => ?_, hvoid, fun hzero => ?_⟩
  · exact (allows_length_iff hfar).1.1 hallows (wraps_ofMillis_iff.2 (by decide))
  · exact (allows_length_iff hvoid).2.1 hzero (vanishes_ofMillis_iff.2 (by decide))

/-- A draw need not lie in the range, and a pause that is meant need not be one. -/
theorem not_allows_length :
    (¬ ∀ p : Pause, p.IsRead → ∀ draw, p.Allows (p.length draw)) ∧
    ¬ ∀ p : Pause, p.IsRead → (p.isZero = true ↔ ∀ draw, p.length draw = .zero) := by
  constructor
  · intro h
    obtain ⟨hwithin, -⟩ := h farRange (.inl ⟨_, read_farRange⟩) 0
    obtain ⟨hleast, -⟩ := hwithin (by decide +kernel)
    revert hleast
    decide +kernel
  · intro h
    have hdraws : ∀ draw, voidRange.length draw = .zero := length_eq_zero_iff.2 (by decide)
    cases (h voidRange (.inl ⟨_, read_voidRange⟩)).2 hdraws

end Pause

end FedLoad
