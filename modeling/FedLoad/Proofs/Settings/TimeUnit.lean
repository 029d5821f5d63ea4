import FedLoad.Proofs.Settings.Precedence
/-!
# The unit of time

The unit of time is chosen twice. First it is chosen among layers, like any other setting, and a
ramp takes it as it is. A load that is taken from the plan as a whole looks at the plan once more,
and there the unit that is written goes before the one that was chosen: the environment has no say
where the plan has. `UnitKept` says that this makes a difference.

Main statement: `Settings.timeUnit_firstLayer_iff`.
-/
namespace FedLoad

open Environment (readSpan)

/-- The environment gives a unit of time, but the load is taken from a plan as a whole and keeps
another one that is written there. -/
inductive UnitKept (env : Environment) (load : Option PlanLoad) : Prop
  | intro {l : PlanLoad} {text : String} {w : WrittenSpan} {given own : Span}
    (load : load = some l) (constant : l.rate.isSome)
    (start : env.given? "START_RATE" = none) (ramp : env.given? "RAMP_STAGES" = none)
    (unit : env.given? "TIME_UNIT" = some text) (read : readSpan text = .ok given)
    (written : l.timeUnit = some w) (meant : w.span = .ok own) (differs : own ≠ given)

namespace Choice

variable {env : Environment} {load : Option PlanLoad}

/-- A load that is taken as a whole has the unit of the first layer unless it keeps its own. -/
theorem own_firstLayer_iff {l : PlanLoad} {unit own : Span}
    (hwhole : constantLoad? env load = some l) (hunit : timeUnit env load = .ok unit)
    (hown : l.timeUnitOr unit = .ok own) :
    FirstLayer env "TIME_UNIT" readSpan (load.bind PlanLoad.timeUnit) WrittenSpan.span
      (some (.ofSeconds 30)) (some own) ↔ ¬ UnitKept env load := by
  obtain ⟨rfl, hsome, hnostart, hnoramp⟩ := constantLoad?_eq_some.1 hwhole
  have hfirst := timeUnit_firstLayer hunit
  rcases PlanLoad.timeUnitOr_eq_ok.1 hown with ⟨habsent, rfl⟩ | ⟨w, hwritten, hspan⟩
  · refine iff_of_true hfirst ?_
    rintro ⟨hl, -, -, -, -, -, hw, -, -⟩
    cases hl
    cases habsent.symm.trans hw
  · constructor
    · rintro hlayer ⟨hl, -, -, -, hgiven, hread, hw, hmeant, hdiffers⟩
      cases hl
      cases hwritten.symm.trans hw
      cases hspan.symm.trans hmeant
      cases hlayer.unique (.given hgiven hread)
      exact hdiffers rfl
    · intro hkept
      cases hfirst with
      | given hgiven hread =>
        have heq : own = unit := by
          refine Decidable.byContradiction fun hdiffers => hkept ?_
          exact .intro rfl hsome hnostart hnoramp hgiven hread hwritten hspan hdiffers
        rw [heq]
        exact .given hgiven hread
      | planned hunset | default hunset => exact .planned hunset hwritten hspan

theorem model_timeUnit_iff {m : LoadModel Float} (h : model env load = .ok m) :
    FirstLayer env "TIME_UNIT" readSpan (load.bind PlanLoad.timeUnit) WrittenSpan.span
      (some (.ofSeconds 30)) (some m.timeUnit) ↔ ¬ UnitKept env load := by
  obtain ⟨start, unit, -, hunit, hmodel⟩ := model_eq_ok h
  rcases hmodel with ⟨l, hwhole, hmodel⟩ | ⟨hramp, stages, -, rfl⟩
  · obtain ⟨own, hown, hparts⟩ := PlanLoad.model_eq_ok.1 hmodel
    have htimeUnit : m.timeUnit = own := by
      rcases hparts with ⟨rate, length, -, -, rfl⟩ | ⟨-, stages, -, rfl⟩ <;> rfl
    rw [htimeUnit]
    exact own_firstLayer_iff hwhole hunit hown
  · refine iff_of_true (timeUnit_firstLayer hunit) ?_
    rintro ⟨hl, hsome, hnostart, hnoramp, -, -, -, -, -⟩
    have hwhole := constantLoad?_eq_some.2 ⟨hl, hsome, hnostart, hnoramp⟩
    cases hramp.symm.trans hwhole

end Choice

namespace Settings

/-- The unit of time is that of the environment, or else that of the plan, or else thirty seconds,
unless a load that is taken as a whole keeps its own. -/
theorem timeUnit_firstLayer_iff {env : Environment} {plan : Option Plan} {s : Settings}
    (built : build env plan = .ok s) :
    FirstLayer env "TIME_UNIT" readSpan ((plan.bind Plan.load).bind PlanLoad.timeUnit)
        WrittenSpan.span (some (.ofSeconds 30)) (some s.model.timeUnit) ↔
      ¬ UnitKept env (plan.bind Plan.load) :=
  Choice.model_timeUnit_iff (build_eq_ok.1 built).model

/-- A plan at a constant rate with a unit of time. -/
def unitBesideRate : String :=
  "version: '1.0'\nload: \x7brate: 1, duration: 1, timeUnit: 60\x7d"

theorem unitBesideRate_kept : ∃ p s, Plan.ofText unitBesideRate = .ok p ∧
    build [("TEST_HOST", "http://fedbox.local"), ("TIME_UNIT", "5s")] (some p) = .ok s ∧
    s.model.timeUnit = .ofSeconds 60 := by
  have hrun : ((Plan.ofText unitBesideRate).toOption.any fun p =>
      (build [("TEST_HOST", "http://fedbox.local"), ("TIME_UNIT", "5s")] (some p)).toOption.any
        fun s => s.model.timeUnit == .ofSeconds 60) = true := by decide +kernel
  obtain ⟨p, hp, hrun⟩ := any_toOption.1 hrun
  obtain ⟨s, hs, hunit⟩ := any_toOption.1 hrun
  exact ⟨p, s, hp, hs, eq_of_beq hunit⟩

theorem timeUnit_firstLayer_iff_besideRate : ∃ p s, Plan.ofText unitBesideRate = .ok p ∧
    build [("TEST_HOST", "http://fedbox.local"), ("TIME_UNIT", "5s")] (some p) = .ok s ∧
    (FirstLayer [("TEST_HOST", "http://fedbox.local"), ("TIME_UNIT", "5s")] "TIME_UNIT" readSpan
        (p.load.bind PlanLoad.timeUnit) WrittenSpan.span (some (.ofSeconds 30))
        (some s.model.timeUnit) ↔
      ¬ UnitKept [("TEST_HOST", "http://fedbox.local"), ("TIME_UNIT", "5s")] p.load) := by
  obtain ⟨p, s, hp, hs, -⟩ := unitBesideRate_kept
  exact ⟨p, s, hp, hs, timeUnit_firstLayer_iff hs⟩

/-- The environment gives five seconds, and an accepted plan at a constant rate keeps its minute. -/
theorem timeUnit_ne_given : ∃ p s, Plan.ofText unitBesideRate = .ok p ∧
    build [("TEST_HOST", "http://fedbox.local"), ("TIME_UNIT", "5s")] (some p) = .ok s ∧
    readSpan "5s" = .ok (.ofSeconds 5) ∧ s.model.timeUnit ≠ .ofSeconds 5 := by
  obtain ⟨p, s, hp, hs, hunit⟩ := unitBesideRate_kept
  refine ⟨p, s, hp, hs, ?_, ?_⟩
  · rfl
  · rw [hunit]
    decide

end Settings

end FedLoad
