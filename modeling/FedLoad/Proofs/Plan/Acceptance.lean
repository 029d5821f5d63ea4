import FedLoad.Plan.Reader
import FedLoad.Proofs.Load.Sound
/-!
# Accepted plans

A plan is accepted exactly if every field of it is fit. A review is clean if it was clean before and
there is nothing to say against the field, wherever the field is, so that the whole review comes
apart into its fields. The stages of a plan at a constant rate are no part of this: they are not
looked at.

Main statement: `Plan.ofText_eq_ok`.
-/
namespace FedLoad

/-! ## Clean findings -/

namespace Findings

variable {f : Findings} {field : String}

theorem isClean_enter : (f.enter field).isClean = f.isClean := rfl

theorem isClean_within {review : Findings → Findings} :
    (f.within field review).isClean = (review (f.enter field)).isClean := rfl

theorem isClean_object {objection : Option String} :
    (f.object field objection).isClean ↔ f.isClean ∧ objection = .none := by
  cases objection with
  | none => simp [object, within, leave, enter, isClean]
  | some message => simp [object, within, leave, enter, isClean, note, add]

theorem isClean_check {fault : Option Fault} :
    (f.check field fault).isClean ↔ f.isClean ∧ fault = .none := by
  rw [check, isClean_object, Option.map_eq_none_iff]

end Findings

/-! ## Single rules -/

theorem PlanError.objection?_eq_none {α : Type} {e : Except PlanError α} :
    objection? e = none ↔ ∃ a, e = .ok a := by
  cases e <;> simp [objection?]

/-- Does this mean a span that is not zero? -/
def WrittenSpan.Lasts (w : WrittenSpan) : Prop := ∃ d, w.span = .ok d ∧ 0 < d.nanos

theorem WrittenSpan.zeroObjection?_eq_none {w : WrittenSpan} {field : String} :
    w.zeroObjection? field = none ↔ w.Lasts := by
  unfold zeroObjection? Lasts
  cases w.span with
  | error e => simp
  | ok d =>
    simp only [Except.ok.injEq, exists_eq_left', ← Span.isZero_eq_false]
    cases d.isZero <;> simp

namespace Fault

theorem ofRate?_eq_none {x : Float} {field : String} : ofRate? x field = none ↔ IsRate x := by
  rw [← Stage.isRate_iff, ofRate?]
  cases Stage.isRate x <;> simp

theorem ofTargets?_eq_none {index : Nat} {stages : List (Stage Float)} :
    ofTargets? index stages = none ↔ ∀ stage ∈ stages, IsRate stage.target := by
  induction stages generalizing index with
  | nil => simp [ofTargets?]
  | cons stage rest ih => simp [ofTargets?, ofRate?_eq_none, ih]

theorem ofStages?_eq_none {stages : List (Stage Float)} :
    ofStages? stages = none ↔ Ramp stages := by
  have hlength : stages.all (·.duration.isZero) = false ↔
      0 < (Span.sum (stages.map Stage.duration)).nanos := by
    simp only [Stage.length_pos, List.all_eq_false, Bool.not_eq_true, Span.isZero_eq_false]
  unfold ofStages?
  cases stages with
  | nil =>
    simp only [List.isEmpty_nil, if_true, reduceCtorEq, false_iff]
    intro h
    exact absurd h.length (Nat.lt_irrefl 0)
  | cons stage rest =>
    rw [List.isEmpty_cons, if_neg Bool.false_ne_true, Option.or_eq_none_iff, ofTargets?_eq_none]
    constructor
    · rintro ⟨htargets, htotal⟩
      refine ⟨htargets, hlength.1 ?_⟩
      simpa using htotal
    · rintro ⟨htargets, htotal⟩
      rw [hlength.2 htotal]
      exact ⟨htargets, rfl⟩

theorem ofRange?_eq_none {n least most : Nat} {field : String} :
    ofRange? n least most field = none ↔ least ≤ n ∧ n ≤ most := by
  unfold ofRange?
  by_cases h : n < least || most < n
  · rw [if_pos h]
    simp only [Bool.or_eq_true, decide_eq_true_eq] at h
    simp only [reduceCtorEq, false_iff]
    omega
  · rw [if_neg h]
    simp only [Bool.or_eq_true, decide_eq_true_eq] at h
    simp only [true_iff]
    omega

end Fault

theorem PlanLoad.durationObjection?_eq_none {l : PlanLoad} :
    l.durationObjection? = none ↔ ∃ w, l.duration = some w ∧ w.Lasts := by
  unfold durationObjection?
  cases l.duration with
  | none => simp
  | some w => simp [WrittenSpan.zeroObjection?_eq_none]

theorem PlanLoad.stagesObjection?_eq_none {l : PlanLoad} :
    l.stagesObjection? = none ↔
      ∃ stages, WrittenStage.stages l.stages = .ok stages ∧ Ramp stages := by
  unfold stagesObjection?
  cases WrittenStage.stages l.stages with
  | error e => simp
  | ok stages => simp [Fault.ofStages?_eq_none]

theorem Plan.versionObjection?_eq_none {p : Plan} :
    p.versionObjection? = none ↔ p.version ∈ supportedVersions := by
  unfold versionObjection?
  cases h : supportedVersions.contains p.version <;> simp_all

/-! ## Fit plans -/

structure PlanConfig.Fit (c : PlanConfig) : Prop where
  baseUrl : ∀ url, c.baseUrl = some url → Fault.ofUrl? url = .none
  maxUsers : ∀ n, c.maxUsers = some n → 1 ≤ n ∧ n ≤ userLimit
  maxPages : ∀ n, c.maxPages = some n → 1 ≤ n ∧ n ≤ pageLimit
  timeout : ∀ w, c.timeout = some w → ∃ d, w.span = .ok d
  gracefulStop : ∀ w, c.gracefulStop = some w → ∃ d, w.span = .ok d
  sleep : ∀ w, c.sleep = some w → ∃ p, w.pause = .ok p

structure PlanLoad.Fit (l : PlanLoad) : Prop where
  startRate : IsRate l.startRate
  timeUnit : ∀ w, l.timeUnit = some w → w.Lasts
  rate : ∀ rate, l.rate = some rate → IsRate rate
  duration : l.rate.isSome → ∃ w, l.duration = some w ∧ w.Lasts
  stages : l.rate = none → ∃ stages, WrittenStage.stages l.stages = .ok stages ∧ Ramp stages

structure Plan.Fit (p : Plan) : Prop where
  version : p.version ∈ supportedVersions
  config : p.config.Fit
  load : ∀ l, p.load = some l → l.Fit
  actors : ∀ a ∈ p.actors, a.id.isSome → Fault.ofActor? a = none
  thresholds : ∃ thresholds, p.readThresholds = .ok thresholds

/-! ## Clean reviews -/

theorem PlanConfig.isClean_review {c : PlanConfig} {f : Findings} :
    (c.review f).isClean ↔ f.isClean ∧ c.Fit := by
  unfold review
  simp only [Findings.isClean_object, Findings.isClean_check, Option.bind_eq_none_iff,
    PlanError.objection?_eq_none, Fault.ofRange?_eq_none]
  constructor
  · rintro ⟨⟨⟨⟨⟨⟨hf, hurl⟩, husers⟩, hpages⟩, htimeout⟩, hstop⟩, hsleep⟩
    exact ⟨hf, hurl, husers, hpages, htimeout, hstop, hsleep⟩
  · rintro ⟨hf, hurl, husers, hpages, htimeout, hstop, hsleep⟩
    exact ⟨⟨⟨⟨⟨⟨hf, hurl⟩, husers⟩, hpages⟩, htimeout⟩, hstop⟩, hsleep⟩

theorem PlanLoad.isClean_review {l : PlanLoad} {f : Findings} :
    (l.review f).isClean ↔ f.isClean ∧ l.Fit := by
  unfold review reviewShape
  cases hrate : l.rate with
  | some rate =>
    simp only [Findings.isClean_object, Findings.isClean_check, Fault.ofRate?_eq_none,
      Option.bind_eq_none_iff, WrittenSpan.zeroObjection?_eq_none, durationObjection?_eq_none]
    constructor
    · rintro ⟨⟨⟨⟨hf, hstart⟩, hunit⟩, hconstant⟩, hduration⟩
      refine ⟨hf, hstart, hunit, ?_, fun _ => hduration, by simp [hrate]⟩
      intro r hr
      cases hrate.symm.trans hr
      exact hconstant
    · rintro ⟨hf, h⟩
      exact ⟨⟨⟨⟨hf, h.startRate⟩, h.timeUnit⟩, h.rate rate hrate⟩, h.duration (by simp [hrate])⟩
  | none =>
    simp only [Findings.isClean_object, Findings.isClean_check, Fault.ofRate?_eq_none,
      Option.bind_eq_none_iff, WrittenSpan.zeroObjection?_eq_none, stagesObjection?_eq_none]
    constructor
    · rintro ⟨⟨⟨hf, hstart⟩, hunit⟩, hstages⟩
      exact ⟨hf, hstart, hunit, by simp [hrate], by simp [hrate], fun _ => hstages⟩
    · rintro ⟨hf, h⟩
      exact ⟨⟨⟨hf, h.startRate⟩, h.timeUnit⟩, h.stages hrate⟩

namespace Plan

theorem isClean_reviewActors {actors : List Actor} {f : Findings} {index : Nat} :
    (reviewActors f index actors).isClean ↔
      f.isClean ∧ ∀ a ∈ actors, a.id.isSome → Fault.ofActor? a = none := by
  induction actors generalizing f index with
  | nil => simp [reviewActors]
  | cons a rest ih =>
    unfold reviewActors
    rw [ih, List.forall_mem_cons, ← and_assoc]
    refine and_congr_left fun _ => ?_
    cases a.id.isSome with
    | true => simp [Findings.isClean_check]
    | false => simp

theorem isClean_reviewLoad {p : Plan} {f : Findings} :
    (p.reviewLoad f).isClean ↔ f.isClean ∧ ∀ l, p.load = some l → l.Fit := by
  unfold reviewLoad
  cases p.load with
  | none => simp
  | some l => simp [Findings.isClean_within, PlanLoad.isClean_review, Findings.isClean_enter]

theorem isClean_review {p : Plan} : p.review.isClean ↔ p.Fit := by
  unfold review
  simp only [Findings.isClean_object, Findings.isClean_within, Findings.isClean_enter,
    isClean_reviewActors, isClean_reviewLoad, PlanConfig.isClean_review,
    versionObjection?_eq_none, PlanError.objection?_eq_none]
  constructor
  · rintro ⟨⟨⟨⟨⟨-, hversion⟩, hconfig⟩, hload⟩, hactors⟩, hthresholds⟩
    exact ⟨hversion, hconfig, hload, hactors, hthresholds⟩
  · rintro ⟨hversion, hconfig, hload, hactors, hthresholds⟩
    exact ⟨⟨⟨⟨⟨rfl, hversion⟩, hconfig⟩, hload⟩, hactors⟩, hthresholds⟩

theorem accept_eq_ok {p q : Plan} : p.accept = .ok q ↔ p = q ∧ q.Fit := by
  unfold accept
  by_cases hclean : p.review.isClean
  · rw [if_pos hclean, Except.ok.injEq]
    refine ⟨?_, And.left⟩
    rintro rfl
    exact ⟨rfl, isClean_review.1 hclean⟩
  · rw [if_neg hclean]
    simp only [reduceCtorEq, false_iff]
    rintro ⟨rfl, hfit⟩
    exact hclean (isClean_review.2 hfit)

/-- A text is accepted as a plan if it can be read as that plan and the plan is fit. -/
theorem ofText_eq_ok {text : String} {p : Plan} :
    ofText text = .ok p ↔ read text = .ok p ∧ p.Fit := by
  unfold ofText
  cases read text with
  | error e => simp
  | ok q =>
    rw [Except.ok.injEq]
    exact accept_eq_ok

end Plan

end FedLoad
