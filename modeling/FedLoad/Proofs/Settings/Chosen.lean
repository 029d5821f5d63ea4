import FedLoad.Proofs.Except
import FedLoad.Settings.Basic
/-!
# Chosen settings

Settings can be put together exactly if every single choice can be made, and then they hold what was
chosen. A choice among layers comes from the environment if a text is given there, and from the plan
or the defaults only if none is.

Main statement: `Settings.build_eq_ok`.
-/
namespace FedLoad

/-! ## Layers -/

theorem planned_eq_ok {α : Type} {x : Except PlanError α} {a : α} :
    planned x = .ok a ↔ x = .ok a := by
  cases x <;> simp [planned]

theorem layered_eq_ok {ε α : Type} {given planned : Except ε (Option α)} {default a : α} :
    layered given planned default = .ok a ↔
      given = .ok (some a) ∨ given = .ok none ∧ ∃ b, planned = .ok b ∧ b.getD default = a := by
  unfold layered
  cases given with
  | error e => simp
  | ok given =>
    cases given with
    | some b => simp
    | none => cases planned <;> simp

namespace Environment

variable {α : Type} {env : Environment} {name : String} {read : String → Except SettingCause α}

theorem read?_eq_some {a : α} : env.read? name read = .ok (some a) ↔
    ∃ text, env.given? name = some text ∧ read text = .ok a := by
  unfold read?
  cases env.given? name with
  | none => simp
  | some text => cases h : read text <;> simp [h]

theorem read?_eq_none : env.read? name read = .ok none ↔ env.given? name = none := by
  unfold read?
  cases env.given? name with
  | none => simp
  | some text => cases h : read text <;> simp [h]

end Environment

/-! ## The load -/

namespace Choice

variable {env : Environment} {load : Option PlanLoad}

theorem readStages_eq_ok {text : String} {stages : List (Stage Float)} :
    Environment.readStages text = .ok stages ↔ Stage.readList text = .ok stages := by
  unfold Environment.readStages
  cases Stage.readList text <;> simp

theorem plannedStages_eq_ok {b : Option (List (Stage Float))} (h : plannedStages load = .ok b) :
    (∃ l stages, load = some l ∧ l.stages ≠ [] ∧ WrittenStage.stages l.stages = .ok stages ∧
      b = some stages) ∨
    (∀ l, load = some l → l.stages = []) ∧ b = none := by
  unfold plannedStages at h
  cases load with
  | none =>
    cases h
    exact .inr ⟨by simp, rfl⟩
  | some l =>
    simp only [Option.map_some, Option.getD_some] at h
    cases hstages : l.stages with
    | nil =>
      rw [hstages] at h
      cases h
      refine .inr ⟨fun l' hl' => ?_, rfl⟩
      cases hl'
      exact hstages
    | cons w rest =>
      rw [hstages] at h
      dsimp only at h
      split at h
      · next stages hmeant =>
        cases h
        exact .inl ⟨l, stages, rfl, by simp [hstages], by rw [hstages]; exact hmeant, rfl⟩
      · simp at h

/-- The stages of a ramp come from one of three places. -/
theorem stages_eq_ok {stages : List (Stage Float)} (h : Choice.stages env load = .ok stages) :
    (∃ text, env.given? "RAMP_STAGES" = some text ∧ Stage.readList text = .ok stages) ∨
    env.given? "RAMP_STAGES" = none ∧
      ((∃ l, load = some l ∧ l.stages ≠ [] ∧ WrittenStage.stages l.stages = .ok stages) ∨
        (∀ l, load = some l → l.stages = []) ∧ stages = Defaults.ramp) := by
  unfold Choice.stages at h
  rcases layered_eq_ok.1 h with hgiven | ⟨hnone, b, hplanned, hdefault⟩
  · obtain ⟨text, htext, hread⟩ := Environment.read?_eq_some.1 hgiven
    exact .inl ⟨text, htext, readStages_eq_ok.1 hread⟩
  · refine .inr ⟨Environment.read?_eq_none.1 hnone, ?_⟩
    rcases plannedStages_eq_ok (planned_eq_ok.1 hplanned) with
      ⟨l, stages', hload, hsome, hmeant, rfl⟩ | ⟨hempty, rfl⟩
    · cases hdefault
      exact .inl ⟨l, hload, hsome, hmeant⟩
    · exact .inr ⟨hempty, hdefault.symm⟩

/-- A load model is that of a plan taken as a whole, or a ramp of single choices. -/
theorem model_eq_ok {m : LoadModel Float} (h : model env load = .ok m) :
    ∃ start unit, startRate env load = .ok start ∧ timeUnit env load = .ok unit ∧
      ((∃ l, constantLoad? env load = some l ∧ l.model unit = .ok m) ∨
        constantLoad? env load = none ∧
          ∃ stages, Choice.stages env load = .ok stages ∧ m = .ramping start unit stages) := by
  unfold model at h
  obtain ⟨start, hstart, h⟩ := bind_eq_ok.1 h
  obtain ⟨unit, hunit, h⟩ := bind_eq_ok.1 h
  refine ⟨start, unit, hstart, hunit, ?_⟩
  cases hconstant : constantLoad? env load with
  | some l =>
    rw [hconstant] at h
    exact .inl ⟨l, rfl, planned_eq_ok.1 h⟩
  | none =>
    rw [hconstant] at h
    obtain ⟨stages, hstages, h⟩ := bind_eq_ok.1 h
    cases h
    exact .inr ⟨rfl, stages, hstages, rfl⟩

theorem constantLoad?_eq_some {l : PlanLoad} : constantLoad? env load = some l ↔
    load = some l ∧ l.rate.isSome ∧
      env.given? "START_RATE" = none ∧ env.given? "RAMP_STAGES" = none := by
  simp [constantLoad?, Option.filter_eq_some_iff, PlanLoad.isConstant, keepsShape]

end Choice

/-! ## All settings -/

namespace Settings

/-- What a plan says about the way of the run, if there is one. -/
abbrev configOf (plan : Option Plan) : PlanConfig := (plan.map Plan.config).getD .none

/-- The choices of which settings are put together. -/
structure Chosen (env : Environment) (plan : Option Plan) (s : Settings) : Prop where
  baseUrl : Choice.baseUrl env (configOf plan) = .ok s.baseUrl
  model : Choice.model env (plan.bind Plan.load) = .ok s.model
  maxUsers : Choice.maxUsers env (configOf plan) = .ok s.maxUsers
  timeout : Choice.timeout env (configOf plan) = .ok s.timeout
  maxPages : Choice.maxPages env (configOf plan) = .ok s.maxPages
  sleep : Choice.sleep env (configOf plan) = .ok s.sleep
  gracefulStop : Choice.gracefulStop env (configOf plan) = .ok s.gracefulStop
  metricsPort : Choice.metricsPort env = .ok s.metricsPort
  thresholds : Choice.thresholds plan = .ok s.thresholds
  actors : s.actors = Choice.actors plan s.baseUrl
  setupEnding : s.setupEnding = Choice.setupEnding env (configOf plan)
  skipTlsVerify : s.skipTlsVerify = Choice.skipTlsVerify env (configOf plan)
  resolve : s.resolve = env.given? "RESOLVE_TARGET_ADDR"
  headers : s.headers = Choice.headers env (configOf plan)

theorem build_eq_ok {env : Environment} {plan : Option Plan} {s : Settings} :
    build env plan = .ok s ↔ Chosen env plan s := by
  unfold build
  simp only [bind_eq_ok]
  constructor
  · rintro ⟨baseUrl, hurl, model, hmodel, maxUsers, husers, timeout, htimeout, maxPages, hpages,
      sleep, hsleep, gracefulStop, hstop, metricsPort, hport, thresholds, hthresholds, h⟩
    cases h
    exact ⟨hurl, hmodel, husers, htimeout, hpages, hsleep, hstop, hport, hthresholds, rfl, rfl, rfl,
      rfl, rfl⟩
  · intro h
    refine ⟨_, h.baseUrl, _, h.model, _, h.maxUsers, _, h.timeout, _, h.maxPages, _, h.sleep,
      _, h.gracefulStop, _, h.metricsPort, _, h.thresholds, ?_⟩
    rw [← h.actors, ← h.setupEnding, ← h.skipTlsVerify, ← h.resolve, ← h.headers]
    rfl

end Settings

end FedLoad
