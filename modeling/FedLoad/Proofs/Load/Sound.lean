import FedLoad.Load.Model
import FedLoad.Proofs.Decimal.Unpacked
/-!
# Sound load models

A load model is sound if each of its rates is a number that is not negative, its unit of time is not
zero, and it takes time as a whole. For a ramp this is a matter of its stages: of all their targets
and of the sum of their durations. The reader of stages sees to the targets only.
-/
namespace FedLoad

/-- Is this finite and not below zero? -/
def IsRate (x : Float) : Prop := ∃ q, rational? x = some q ∧ 0 ≤ q

theorem Stage.isRate_iff {x : Float} : Stage.isRate x = true ↔ IsRate x := rational?_nonneg x

/-! ## Sums of spans -/

namespace Span

theorem isZero_eq_false {s : Span} : s.isZero = false ↔ 0 < s.nanos := by
  rw [isZero, beq_eq_false_iff_ne, Nat.pos_iff_ne_zero]

theorem sum_cons (s : Span) (spans : List Span) :
    (sum (s :: spans)).nanos = s.nanos + (sum spans).nanos := rfl

theorem sum_pos {spans : List Span} : 0 < (sum spans).nanos ↔ ∃ s ∈ spans, 0 < s.nanos := by
  induction spans with
  | nil => simp [sum]
  | cons s rest ih =>
    simp only [List.mem_cons, exists_eq_or_imp]
    rw [sum_cons, ← ih]
    omega

end Span

/-! ## Ramps -/

/-- Do these stages lead from rate to rate, and take time? -/
structure Ramp (stages : List (Stage Float)) : Prop where
  targets : ∀ stage ∈ stages, IsRate stage.target
  length : 0 < (Span.sum (stages.map Stage.duration)).nanos

theorem Stage.length_pos {stages : List (Stage Float)} :
    0 < (Span.sum (stages.map Stage.duration)).nanos ↔
      ∃ stage ∈ stages, 0 < stage.duration.nanos := by
  rw [Span.sum_pos]
  constructor
  · rintro ⟨d, hd, hpos⟩
    obtain ⟨stage, hstage, rfl⟩ := List.mem_map.1 hd
    exact ⟨stage, hstage, hpos⟩
  · rintro ⟨stage, hstage, hpos⟩
    exact ⟨_, List.mem_map_of_mem hstage, hpos⟩

/-- The target of a stage is looked at, and its duration is read as a span. -/
theorem Stage.parts_of_readChars {s : List Char} {stage : Stage Float}
    (h : readChars s = .ok stage) :
    IsRate stage.target ∧ ∃ t, Span.readChars t = .ok stage.duration := by
  unfold readChars at h
  dsimp only at h
  split at h
  · simp at h
  · split at h
    · simp at h
    · split at h
      · next hrate =>
        split at h
        · simp at h
        · next hduration =>
          cases h
          exact ⟨isRate_iff.1 hrate, _, hduration⟩
      · simp at h

/-- Every stage is read from a part of its own. -/
theorem Stage.exists_of_readParts {parts : List (List Char)} {stages : List (Stage Float)}
    (h : readParts parts = .ok stages) : ∀ stage ∈ stages, ∃ part, readChars part = .ok stage := by
  induction parts generalizing stages with
  | nil =>
    cases h
    nofun
  | cons part rest ih =>
    unfold readParts at h
    split at h
    · simp at h
    · next stage hstage =>
      split at h
      · simp at h
      · next more hmore =>
        cases h
        intro s hs
        rcases List.mem_cons.1 hs with rfl | hs
        · exact ⟨part, hstage⟩
        · exact ih hmore s hs

theorem Stage.exists_of_readList {s : String} {stages : List (Stage Float)}
    (h : readList s = .ok stages) : ∀ stage ∈ stages, ∃ part, readChars part = .ok stage := by
  unfold readList at h
  split at h
  · simp at h
  · simp at h
  · next hread =>
    cases h
    exact exists_of_readParts hread

/-- What is read as stages has rates as targets, though it may take no time. -/
theorem Stage.isRate_of_readList {s : String} {stages : List (Stage Float)}
    (h : readList s = .ok stages) : ∀ stage ∈ stages, IsRate stage.target := by
  intro stage hstage
  obtain ⟨part, hpart⟩ := exists_of_readList h stage hstage
  exact (parts_of_readChars hpart).1

/-! ## Models -/

namespace LoadModel

variable {rate startRate : Float} {timeUnit duration : Span} {stages : List (Stage Float)}

/-- Every rate that a model names. -/
def rates : LoadModel Float → List Float
  | .constant rate _ _ => [rate]
  | .ramping startRate _ stages => startRate :: stages.map Stage.target

structure Sound (m : LoadModel Float) : Prop where
  rates : ∀ x ∈ m.rates, IsRate x
  timeUnit : 0 < m.timeUnit.nanos
  length : 0 < (Span.sum m.durations).nanos

theorem sound_constant (hrate : IsRate rate) (hunit : 0 < timeUnit.nanos)
    (hduration : 0 < duration.nanos) : (constant rate timeUnit duration).Sound where
  rates := by simpa [LoadModel.rates] using hrate
  timeUnit := hunit
  length := Span.sum_pos.2 ⟨duration, List.mem_singleton_self _, hduration⟩

theorem sound_ramping_iff (hstart : IsRate startRate) (hunit : 0 < timeUnit.nanos) :
    (ramping startRate timeUnit stages).Sound ↔ Ramp stages := by
  constructor
  · intro h
    refine ⟨fun stage hstage => ?_, h.length⟩
    exact h.rates _ (List.mem_cons_of_mem _ (List.mem_map_of_mem hstage))
  · intro h
    refine ⟨fun x hx => ?_, hunit, h.length⟩
    rcases List.mem_cons.1 hx with rfl | hx
    · exact hstart
    · obtain ⟨stage, hstage, rfl⟩ := List.mem_map.1 hx
      exact h.targets stage hstage

end LoadModel

end FedLoad
