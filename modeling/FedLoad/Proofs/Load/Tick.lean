import FedLoad.Load.Budget
import FedLoad.Proofs.Decimal.Reciprocal
import FedLoad.Proofs.Load.Sound
/-!
# The time until the next look

The dispatcher looks at the clock again after the time of one iteration, within bounds. That time is
the reciprocal of the present rate, and it is made a span before it is held to the bounds, which
fails if it is too long for a span. That is so for positive rates of at most `2^-64`: a load may name
such a rate, or come by it where a rate is divided by a long unit of time. At every other rate there
is a next look within the bounds, also where nothing comes due.

Main statement: `Tick.after_within_iff`.
-/
namespace FedLoad

open Double

/-- Does an iteration at this rate take longer than any span? -/
def TooSlow (rate : Float) : Prop := ∃ q, rational? rate = some q ∧ 0 < q ∧ q ≤ 1 / 2 ^ 64

/-- Something comes due exactly at positive rates. -/
theorem Budget.flows_iff {rate : Float} :
    flows rate = true ↔ ∃ q, rational? rate = some q ∧ 0 < q := by
  have hzero : floatOfNat 0 = 0.0 := by decide +kernel
  rw [← rational?_pos, ← hzero, ← decide_eq_true_eq (p := floatOfNat 0 < rate), ← Bool.and_eq_true]
  rfl

namespace Span

theorem ofFloatSeconds_infinite {x : Float} (h : ofFloat x = .infinite false) :
    ofFloatSeconds x = .error .secondsTooLong := by
  unfold ofFloatSeconds
  rw [h]
  rfl

theorem ofFloatSeconds_finite {x : Float} {m : Nat} {e : Int} (h : ofFloat x = .finite false m e) :
    (∃ s, ofFloatSeconds x = .ok s) ∧ ¬ 2 ^ 64 ≤ (Ratio.ofScaled m e).floor ∨
      ofFloatSeconds x = .error .secondsTooLong ∧ 2 ^ 64 ≤ (Ratio.ofScaled m e).floor := by
  unfold ofFloatSeconds
  rw [h]
  dsimp only
  by_cases hm : m = 0
  · rw [if_pos hm, hm, Ratio.floor_ofScaled_zero]
    exact .inl ⟨⟨zero, rfl⟩, by decide⟩
  · rw [if_neg hm, if_neg Bool.false_ne_true]
    by_cases hlong : 2 ^ 64 ≤ (Ratio.ofScaled m e).floor
    · exact .inr ⟨if_pos hlong, hlong⟩
    · exact .inl ⟨⟨_, if_neg hlong⟩, hlong⟩

/-- The reciprocal of a rate is made a span unless it is too long for one. -/
theorem ofFloatSeconds_reciprocal {rate : Float} {q : ℚ} (h : rational? rate = some q)
    (hpos : 0 < q) :
    (∃ s, ofFloatSeconds (1.0 / rate) = .ok s) ∧ ¬ q ≤ 1 / 2 ^ 64 ∨
      ofFloatSeconds (1.0 / rate) = .error .secondsTooLong ∧ q ≤ 1 / 2 ^ 64 := by
  rw [← reaches_reciprocal_iff h hpos (n := 64) (by decide)]
  obtain ⟨r, t, hreciprocal, -⟩ := ofFloat_reciprocal h hpos
  by_cases hbig : 971 < t
  · rw [if_pos hbig] at hreciprocal
    rw [hreciprocal]
    exact .inr ⟨ofFloatSeconds_infinite hreciprocal, rfl⟩
  · rw [if_neg hbig] at hreciprocal
    rw [hreciprocal, Reaches, and_iff_right rfl]
    exact ofFloatSeconds_finite hreciprocal

end Span

namespace Tick

/-- There is a next look at the clock, within the bounds, exactly if the present rate is not too slow;
at a rate that is, the time until then is too long to be calculated. -/
theorem after_within_iff (m : LoadModel Float) (time : Float) :
    ((∃ wait, after m time = .ok wait ∧ shortest ≤ wait ∧ wait ≤ longest) ↔
      ¬ TooSlow (m.perSecond time)) ∧
    (after m time = .error .secondsTooLong ↔ TooSlow (m.perSecond time)) := by
  have hbounds : shortest ≤ longest := by decide
  unfold after
  dsimp only
  generalize m.perSecond time = rate
  by_cases hflows : Budget.flows rate = true
  · rw [if_pos hflows]
    obtain ⟨q, hq, hpos⟩ := Budget.flows_iff.1 hflows
    have hslow : TooSlow rate ↔ q ≤ 1 / 2 ^ 64 := by
      refine ⟨fun ⟨q', hq', _, hle⟩ => ?_, fun hle => ⟨q, hq, hpos, hle⟩⟩
      rwa [Option.some.inj (hq.symm.trans hq')]
    rw [hslow]
    obtain ⟨⟨s, hs⟩, hfast⟩ | ⟨hfault, hlong⟩ := Span.ofFloatSeconds_reciprocal hq hpos
    · rw [hs]
      exact ⟨iff_of_true ⟨_, rfl, Span.le_clamp hbounds⟩ hfast, iff_of_false nofun hfast⟩
    · rw [hfault]
      exact ⟨iff_of_false nofun (not_not.2 hlong), iff_of_true rfl hlong⟩
  · rw [if_neg hflows]
    have hfast : ¬ TooSlow rate := fun ⟨q, hq, hpos, _⟩ => hflows (Budget.flows_iff.2 ⟨q, hq, hpos⟩)
    exact ⟨iff_of_true ⟨_, rfl, hbounds, Nat.le_refl _⟩ hfast, iff_of_false nofun hfast⟩

/-- A sound load that asks for an iteration in three million million years has no next look. -/
theorem not_after_within : ¬ ∀ (m : LoadModel Float) (time : Float), m.Sound → IsRate time →
    ∃ wait, after m time = .ok wait ∧ shortest ≤ wait ∧ wait ≤ longest := by
  intro hall
  have hrate : IsRate 0.00000000000000000001 := Stage.isRate_iff.1 (by decide +kernel)
  have htime : IsRate 0.0 := Stage.isRate_iff.1 (by decide +kernel)
  have hsound : (LoadModel.constant 0.00000000000000000001 (.ofSeconds 1) (.ofSeconds 1)).Sound :=
    LoadModel.sound_constant hrate (by decide) (by decide)
  have hfault : after (.constant 0.00000000000000000001 (.ofSeconds 1) (.ofSeconds 1)) 0.0 =
      .error .secondsTooLong := by decide +kernel
  obtain ⟨wait, hwait, -⟩ := hall _ _ hsound htime
  rw [hfault] at hwait
  cases hwait

end Tick

end FedLoad
