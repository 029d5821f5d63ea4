import FedLoad.Proofs.Load.Curve
/-!
# Loads that differ in writing only

A stage may be parted at any time within it, at the rate that its line has there. Both parts lie on
that line, so no time sees a difference, and the stages behind them begin when they did and with the
rate that they did. A ramp whose corners all have one rate is no ramp, but a constant rate for the
time that its stages take together.

Main statement: `LoadModel.alike_parts_and_flat`.
-/
namespace FedLoad

/-- A stage that begins with `fromRate`, parted when the time `first` is over. -/
noncomputable def Stage.parts (stage : Stage ℝ) (fromRate : ℝ) (first : Span) : List (Stage ℝ) :=
  [⟨fromRate + (stage.target - fromRate) * first.seconds / stage.duration.seconds, first⟩,
    ⟨stage.target, ⟨stage.duration.nanos - first.nanos⟩⟩]

namespace LoadModel

open Stage

/-- Two loads that take the same time and ask for the same at each time. -/
structure Alike (m m' : LoadModel ℝ) : Prop where
  total : m.total = m'.total
  rateAt : ∀ time, m.rateAt time = m'.rateAt time
  perSecond : ∀ time, m.perSecond time = m'.perSecond time

theorem alike_of_rateAt {m m' : LoadModel ℝ} (hunit : m.timeUnit = m'.timeUnit)
    (htotal : m.total = m'.total) (hrate : ∀ time, m.rateAt time = m'.rateAt time) :
    m.Alike m' where
  total := htotal
  rateAt := hrate
  perSecond time := by rw [perSecond, perSecond, hunit, hrate]

variable {fromRate start time : ℝ} {stage : Stage ℝ} {first : Span}

/-! ## A stage in two parts -/

theorem sum_parts (before after : List (Stage ℝ)) (hfirst : first < stage.duration) :
    Span.sum ((before ++ stage.parts fromRate first ++ after).map duration) =
      Span.sum ((before ++ stage :: after).map duration) := by
  have hlength : first.nanos + (stage.duration.nanos - first.nanos) = stage.duration.nanos :=
    Nat.add_sub_of_le (Nat.le_of_lt hfirst)
  refine congrArg Span.mk ?_
  simp only [parts, List.map_append, List.map_cons, List.map_nil]
  rw [← List.sum_eq_foldr, ← List.sum_eq_foldr]
  simp only [List.sum_append, List.sum_cons, List.sum_nil]
  omega

/-- The parts have the line of the whole, on either side of the cut and behind the stage. -/
theorem rampFrom_parts (after : List (Stage ℝ)) (hpos : 0 < first.nanos)
    (hfirst : first < stage.duration) :
    rampFrom fromRate start time (stage.parts fromRate first ++ after) =
      rampFrom fromRate start time (stage :: after) := by
  obtain ⟨target, whole⟩ := stage
  change first.nanos < whole.nanos at hfirst
  have hfirstPos : (0 : ℝ) < first.seconds := Span.seconds_pos.2 hpos
  have hrestPos : (0 : ℝ) < Span.seconds ⟨whole.nanos - first.nanos⟩ :=
    Span.seconds_pos.2 (Nat.sub_pos_of_lt hfirst)
  have hsum : (whole.seconds : ℝ) = first.seconds + Span.seconds ⟨whole.nanos - first.nanos⟩ := by
    rw [Span.seconds_eq, Span.seconds_eq, Span.seconds_eq, Nat.cast_sub hfirst.le]
    ring
  simp only [parts, List.cons_append, List.nil_append, rampFrom_cons]
  rw [add_assoc, ← hsum]
  generalize hrest : (Span.seconds ⟨whole.nanos - first.nanos⟩ : ℝ) = rest at hrestPos hsum
  by_cases hcut : time < start + first.seconds
  · have hend : time < start + whole.seconds := by linarith
    rw [if_pos hcut, if_pos hend, interpolate_of_pos hfirstPos, interpolate_of_pos (by linarith)]
    field_simp
    ring
  · rw [if_neg hcut]
    by_cases hend : time < start + whole.seconds
    · rw [if_pos hend, if_pos hend, interpolate_of_pos hrestPos, interpolate_of_pos (by linarith)]
      rw [hsum]
      field_simp
      ring
    · rw [if_neg hend, if_neg hend]

theorem rampFrom_append_parts (before after : List (Stage ℝ)) (hpos : 0 < first.nanos)
    (hfirst : first < stage.duration) :
    rampFrom fromRate start time (before ++ stage.parts (reached fromRate before) first ++ after) =
      rampFrom fromRate start time (before ++ stage :: after) := by
  induction before generalizing fromRate start with
  | nil => exact rampFrom_parts after hpos hfirst
  | cons earlier before ih =>
    simp only [List.cons_append, rampFrom_cons, reached_cons]
    rw [ih]

/-! ## A ramp without a slope -/

theorem interpolate_self (rate elapsed duration : ℝ) :
    interpolate rate rate elapsed duration = rate := by
  by_cases hpos : 0 < duration
  · rw [interpolate_of_pos hpos, sub_self, zero_mul, add_zero]
  · exact if_pos (Scalar.le_zero_iff.2 (not_lt.1 hpos))

theorem rampFrom_flat {rate : ℝ} {stages : List (Stage ℝ)}
    (hflat : ∀ stage ∈ stages, stage.target = rate) : rampFrom rate start time stages = rate := by
  induction stages generalizing start with
  | nil => rfl
  | cons stage rest ih =>
    obtain ⟨htarget, hrest⟩ := List.forall_mem_cons.1 hflat
    rw [rampFrom_cons, htarget, ih hrest, interpolate_self, ite_self]

/-- Parting a stage at a time within it changes nothing, and a ramp that stays at one rate is a
constant load of the length of its stages together, and of no other. -/
theorem alike_parts_and_flat (timeUnit : Span) :
    (∀ (startRate : ℝ) (before after : List (Stage ℝ)) (stage : Stage ℝ) (first : Span),
      0 < first.nanos → first < stage.duration →
        (ramping startRate timeUnit
          (before ++ stage.parts (reached startRate before) first ++ after)).Alike
        (ramping startRate timeUnit (before ++ stage :: after))) ∧
    ∀ (rate : ℝ) (stages : List (Stage ℝ)) (whole : Span),
      (∀ stage ∈ stages, stage.target = rate) → whole < Span.limit →
        ((ramping rate timeUnit stages).Alike (constant rate timeUnit whole) ↔
          whole = Span.sum (stages.map duration)) := by
  constructor
  · intro startRate before after stage first hpos hfirst
    refine alike_of_rateAt rfl ?_ fun time => ?_
    · rw [total, total, Span.total, Span.total, sum_parts before after hfirst]
    · rw [rateAt_ramping, rateAt_ramping, rampFrom_append_parts before after hpos hfirst]
  · intro rate stages whole hflat hwhole
    have htotal : (ramping rate timeUnit stages).total = .ok whole ↔
        whole = Span.sum (stages.map duration) := by
      rw [total, Span.total_eq_ok_iff, and_iff_left_iff_imp]
      exact fun heq => heq ▸ hwhole
    constructor
    · exact fun h => htotal.1 h.total
    · refine fun heq => alike_of_rateAt rfl (htotal.2 heq) fun time => ?_
      rw [rateAt_ramping, rampFrom_flat hflat]
      rfl

/-- A stage between two others is parted after a third of its time, and a ramp stays at ten. -/
theorem alike_parts_and_flat_twoMinutes :
    (Span.zero < .ofSeconds 30 ∧ Span.ofSeconds 30 < .ofSeconds 90 ∧
      (ramping 0 (.ofSeconds 1) [⟨50, .zero⟩, ⟨100, .ofSeconds 30⟩, ⟨200, .ofSeconds 60⟩,
        ⟨20, .ofSeconds 10⟩]).Alike
      (ramping 0 (.ofSeconds 1) [⟨50, .zero⟩, ⟨200, .ofSeconds 90⟩, ⟨20, .ofSeconds 10⟩])) ∧
    Span.ofSeconds 120 < Span.limit ∧
      (ramping 10 (.ofSeconds 1) [⟨10, .ofSeconds 90⟩, ⟨10, .ofSeconds 30⟩]).Alike
      (constant 10 (.ofSeconds 1) (.ofSeconds 120)) := by
  have hpos : Span.zero < .ofSeconds 30 := by decide
  have hwithin : Span.ofSeconds 30 < .ofSeconds 90 := by decide
  have hlimit : Span.ofSeconds 120 < Span.limit := by decide
  obtain ⟨hparts, hflat⟩ := alike_parts_and_flat (.ofSeconds 1)
  have hcut : Stage.parts ⟨200, .ofSeconds 90⟩ (reached 0 [⟨50, .zero⟩]) (.ofSeconds 30) =
      [⟨100, .ofSeconds 30⟩, ⟨200, .ofSeconds 60⟩] := by
    have hline : (50 + (200 - 50) * (30000000000 / 1000000000) / (90000000000 / 1000000000) : ℝ) =
        100 := by norm_num
    simp [parts, reached, Span.seconds_eq, Span.ofSeconds, hline]
  have halike := hparts 0 [⟨50, .zero⟩] [⟨20, .ofSeconds 10⟩] ⟨200, .ofSeconds 90⟩ _ hpos hwithin
  rw [hcut] at halike
  exact ⟨⟨hpos, hwithin, halike⟩, hlimit, (hflat 10 _ _ (by simp) hlimit).2 rfl⟩

end LoadModel

end FedLoad
