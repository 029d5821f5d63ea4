import FedLoad.Proofs.Plan.Acceptance
import FedLoad.Proofs.Settings.Chosen
/-!
# The load model of accepted settings

The load model comes from an accepted plan that is taken as a whole, or it is a ramp whose parts
come from the environment, an accepted plan or the defaults. What is reviewed on the way makes it
sound. Two kinds of stages are never reviewed in full: those of the environment, which may take no
time, and those of a plan at a constant rate, which come to life when the environment gives a rate
to start from. `Unreviewed` says that such stages are at fault.

Main statement: `Settings.model_sound_iff`.
-/
namespace FedLoad

namespace Choice

variable {env : Environment} {load : Option PlanLoad}

theorem isRate_startRate {x : Float} (hfit : ∀ l, load = some l → l.Fit)
    (h : startRate env load = .ok x) : IsRate x := by
  unfold startRate at h
  split at h
  · simp at h
  · cases h
    cases load with
    | none => exact Stage.isRate_iff.1 (by decide +kernel)
    | some l => exact (hfit l rfl).startRate
  · split at h
    · next hrate =>
      cases h
      exact Stage.isRate_iff.1 hrate
    · simp at h

theorem timeUnit_pos {unit : Span} (h : timeUnit env load = .ok unit) : 0 < unit.nanos := by
  unfold timeUnit at h
  split at h
  · simp at h
  · split at h
    · simp at h
    · next hzero =>
      cases h
      exact Span.isZero_eq_false.1 (Bool.eq_false_iff.2 hzero)

end Choice

/-! ## Soundness -/

namespace PlanLoad

variable {l : PlanLoad} {unit : Span}

theorem timeUnitOr_pos {given : Span} (hfit : l.Fit) (hunit : 0 < unit.nanos)
    (h : l.timeUnitOr unit = .ok given) : 0 < given.nanos := by
  unfold timeUnitOr at h
  cases hwritten : l.timeUnit with
  | none =>
    rw [hwritten] at h
    cases h
    exact hunit
  | some w =>
    obtain ⟨d, hspan, hpos⟩ := hfit.timeUnit w hwritten
    rw [hwritten, WrittenSpan.given?, hspan] at h
    cases h
    exact hpos

theorem sound_model {m : LoadModel Float} (hfit : l.Fit) (hconstant : l.rate.isSome)
    (hunit : 0 < unit.nanos) (h : l.model unit = .ok m) : m.Sound := by
  obtain ⟨rate, hrate⟩ := Option.isSome_iff_exists.1 hconstant
  obtain ⟨w, hwritten, d, hspan, hpos⟩ := hfit.duration hconstant
  have hduration : l.constantDuration = .ok d := by rw [constantDuration, hwritten]; exact hspan
  unfold model at h
  split at h
  · simp at h
  · next given hgiven =>
    rw [hrate, hduration] at h
    cases h
    exact LoadModel.sound_constant (hfit.rate rate hrate) (timeUnitOr_pos hfit hunit hgiven) hpos

end PlanLoad

theorem Defaults.ramp_fit : Ramp ramp where
  targets := by
    have hrates : ramp.all (fun stage => Stage.isRate stage.target) = true := by decide +kernel
    exact fun stage hstage => Stage.isRate_iff.1 (List.all_eq_true.1 hrates stage hstage)
  length := by decide

/-- Stages at fault that no review looks at in full. -/
inductive Unreviewed (env : Environment) (plan : Option Plan) : Prop
  /-- The stages of the environment take no time. -/
  | idle {text : String} {stages : List (Stage Float)}
    (given : env.given? "RAMP_STAGES" = some text) (read : Stage.readList text = .ok stages)
    (length : (Span.sum (stages.map Stage.duration)).nanos = 0)
  /-- The stages beside a constant rate are used after all, and are no ramp. -/
  | revived {p : Plan} {l : PlanLoad} {stages : List (Stage Float)}
    (start : (env.given? "START_RATE").isSome) (unset : env.given? "RAMP_STAGES" = none)
    (load : plan = some p ∧ p.load = some l) (constant : l.rate.isSome) (written : l.stages ≠ [])
    (meant : WrittenStage.stages l.stages = .ok stages) (unfit : ¬ Ramp stages)

namespace Settings

variable {env : Environment} {plan : Option Plan}

/-- A load that is taken as a whole leaves no stages to be looked at. -/
theorem not_unreviewed_of_keepsShape (hstart : env.given? "START_RATE" = none)
    (hramp : env.given? "RAMP_STAGES" = none) : ¬ Unreviewed env plan := by
  rintro (⟨given, -, -⟩ | ⟨start, -, -, -, -, -, -⟩)
  · exact absurd (given.symm.trans hramp) (by simp)
  · rw [hstart] at start
    exact absurd start (by simp)

/-- Stages of the environment have rates as targets, so that only their length is at stake. -/
theorem ramp_iff_of_given {text : String} {stages : List (Stage Float)}
    (hgiven : env.given? "RAMP_STAGES" = some text) (hread : Stage.readList text = .ok stages) :
    Ramp stages ↔ ¬ Unreviewed env plan := by
  constructor
  · rintro hramp (⟨given, read, length⟩ | ⟨-, unset, -, -, -, -, -⟩)
    · cases given.symm.trans hgiven
      cases read.symm.trans hread
      exact absurd hramp.length (by omega)
    · exact absurd (hgiven.symm.trans unset) (by simp)
  · intro hreviewed
    refine ⟨Stage.isRate_of_readList hread, Nat.pos_of_ne_zero fun hzero => ?_⟩
    exact hreviewed (.idle hgiven hread hzero)

/-- Stages of a plan are reviewed, unless it has a constant rate. -/
theorem ramp_iff_of_plan {p : Plan} {l : PlanLoad} {stages : List (Stage Float)}
    (hunset : env.given? "RAMP_STAGES" = none) (hplan : plan = some p) (hl : p.load = some l)
    (hfit : l.Fit) (hstart : l.rate.isSome → (env.given? "START_RATE").isSome)
    (hwritten : l.stages ≠ []) (hmeant : WrittenStage.stages l.stages = .ok stages) :
    Ramp stages ↔ ¬ Unreviewed env plan := by
  constructor
  · rintro hramp (⟨given, -, -⟩ | @⟨p', l', stages', -, -, load, -, -, meant, unfit⟩)
    · exact absurd (given.symm.trans hunset) (by simp)
    · obtain ⟨hp', hl'⟩ := load
      cases hp'.symm.trans hplan
      cases hl'.symm.trans hl
      cases meant.symm.trans hmeant
      exact unfit hramp
  · intro hreviewed
    cases hrate : l.rate with
    | none =>
      obtain ⟨stages', hstages', hramp⟩ := hfit.stages hrate
      cases hstages'.symm.trans hmeant
      exact hramp
    | some rate =>
      have hsome : l.rate.isSome := by rw [hrate]; rfl
      refine Classical.byContradiction fun hunfit => hreviewed ?_
      exact .revived (hstart hsome) hunset ⟨hplan, hl⟩ hsome hwritten hmeant hunfit

theorem ramp_iff {stages : List (Stage Float)}
    (hfit : ∀ l, plan.bind Plan.load = some l → l.Fit)
    (hconstant : Choice.constantLoad? env (plan.bind Plan.load) = none)
    (h : Choice.stages env (plan.bind Plan.load) = .ok stages) :
    Ramp stages ↔ ¬ Unreviewed env plan := by
  rcases Choice.stages_eq_ok h with
    ⟨text, hgiven, hread⟩ | ⟨hunset, ⟨l, hload, hwritten, hmeant⟩ | ⟨hempty, rfl⟩⟩
  · exact ramp_iff_of_given hgiven hread
  · obtain ⟨p, hplan, hl⟩ := Option.bind_eq_some_iff.1 hload
    refine ramp_iff_of_plan hunset hplan hl (hfit l hload) (fun hsome => ?_) hwritten hmeant
    cases hstart : env.given? "START_RATE" with
    | none =>
      have hwhole := Choice.constantLoad?_eq_some.2 ⟨hload, hsome, hstart, hunset⟩
      exact absurd (hconstant.symm.trans hwhole) (by simp)
    | some text => rfl
  · refine iff_of_true Defaults.ramp_fit ?_
    rintro (⟨given, -, -⟩ | ⟨-, -, load, -, written, -, -⟩)
    · exact absurd (given.symm.trans hunset) (by simp)
    · obtain ⟨rfl, hl⟩ := load
      exact written (hempty _ hl)

/-- The load model of settings that are put together with an accepted plan, or without one, is sound
unless stages that are not reviewed are at fault. -/
theorem model_sound_iff {s : Settings} (accepted : ∀ p, plan = some p →
      ∃ text, Plan.ofText text = .ok p) (built : build env plan = .ok s) :
    s.model.Sound ↔ ¬ Unreviewed env plan := by
  have hfit : ∀ l, plan.bind Plan.load = some l → l.Fit := by
    intro l hload
    obtain ⟨p, hplan, hl⟩ := Option.bind_eq_some_iff.1 hload
    obtain ⟨text, htext⟩ := accepted p hplan
    exact (Plan.ofText_eq_ok.1 htext).2.load l hl
  obtain ⟨start, unit, hstart, hunit, hmodel⟩ := Choice.model_eq_ok (build_eq_ok.1 built).model
  have hpos := Choice.timeUnit_pos hunit
  rcases hmodel with ⟨l, hwhole, hmodel⟩ | ⟨hconstant, stages, hstages, hmodel⟩
  · obtain ⟨hload, hsome, hnostart, hnoramp⟩ := Choice.constantLoad?_eq_some.1 hwhole
    have hsound := PlanLoad.sound_model (hfit l hload) hsome hpos hmodel
    exact iff_of_true hsound (not_unreviewed_of_keepsShape hnostart hnoramp)
  · rw [hmodel, LoadModel.sound_ramping_iff (Choice.isRate_startRate hfit hstart) hpos]
    exact ramp_iff hfit hconstant hstages

/-! ## Stages at fault -/

theorem not_sound_of_isZero {s : Settings} (h : (Span.sum s.model.durations).isZero) :
    ¬ s.model.Sound := by
  intro hsound
  have hlength := hsound.length
  rw [← Span.isZero_eq_false, h] at hlength
  exact absurd hlength (by simp)

/-- A plan at a constant rate with a stage beside it that no ramp may have. -/
def besideRate : String :=
  "version: '1.0'\nload: \x7brate: 1, duration: 1, stages: [\x7btarget: -9, duration: 0\x7d]\x7d"

theorem besideRate_revived : ∃ p s, Plan.ofText besideRate = .ok p ∧
    build [("TEST_HOST", "http://fedbox.local"), ("START_RATE", "1")] (some p) = .ok s ∧
    (Span.sum s.model.durations).isZero := by
  have hrun : ((Plan.ofText besideRate).toOption.any fun p =>
      (build [("TEST_HOST", "http://fedbox.local"), ("START_RATE", "1")] (some p)).toOption.any
        fun s => (Span.sum s.model.durations).isZero) = true := by decide +kernel
  obtain ⟨p, hp, hrun⟩ := any_toOption.1 hrun
  obtain ⟨s, hs, hzero⟩ := any_toOption.1 hrun
  exact ⟨p, s, hp, hs, hzero⟩

theorem model_sound_iff_besideRate : ∃ p s, Plan.ofText besideRate = .ok p ∧
    build [("TEST_HOST", "http://fedbox.local"), ("START_RATE", "1")] (some p) = .ok s ∧
    (s.model.Sound ↔
      ¬ Unreviewed [("TEST_HOST", "http://fedbox.local"), ("START_RATE", "1")] (some p)) := by
  obtain ⟨p, s, hp, hs, -⟩ := besideRate_revived
  refine ⟨p, s, hp, hs, model_sound_iff (fun q hq => ?_) hs⟩
  cases hq
  exact ⟨besideRate, hp⟩

/-- Settings are put together with stages of either kind at fault. -/
theorem model_not_sound :
    (∃ s, build [("TEST_HOST", "http://fedbox.local"), ("RAMP_STAGES", "10:0s")] none = .ok s ∧
      ¬ s.model.Sound) ∧
    ∃ p s, Plan.ofText besideRate = .ok p ∧
      build [("TEST_HOST", "http://fedbox.local"), ("START_RATE", "1")] (some p) = .ok s ∧
      ¬ s.model.Sound := by
  constructor
  · have hrun : ((build [("TEST_HOST", "http://fedbox.local"), ("RAMP_STAGES", "10:0s")]
        none).toOption.any fun s => (Span.sum s.model.durations).isZero) = true := by
      decide +kernel
    obtain ⟨s, hs, hzero⟩ := any_toOption.1 hrun
    exact ⟨s, hs, not_sound_of_isZero hzero⟩
  · obtain ⟨p, s, hp, hs, hzero⟩ := besideRate_revived
    exact ⟨p, s, hp, hs, not_sound_of_isZero hzero⟩

end Settings

end FedLoad
