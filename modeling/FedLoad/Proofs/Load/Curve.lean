import FedLoad.Proofs.Load.Exact
import Mathlib.Algebra.Order.BigOperators.Group.List
import Mathlib.Data.Nat.Find
/-!
# The curve of a ramp

A ramp goes along straight lines from corner to corner: within a stage from the rate that was
reached before it to its target, and behind the last stage it stays. A stage without length is a
jump, so where several stages end at once it is the last of them that counts.

Stages that are over leave only the rate they reached and the time they took
(`LoadModel.rampFrom_append`). The one that is under way has begun and is not over
(`LoadModel.Leg.underway_of_leg?`), so it takes time, and the rate lies between those at its ends.

Main statement: `LoadModel.rateAt_followsStages`.
-/
namespace FedLoad

/-! ## Stages that are over -/

namespace Stage

/-- The rate that is reached when these stages are over. -/
def reached {α : Type} (fromRate : α) (stages : List (Stage α)) : α :=
  (stages.map target).getLastD fromRate

/-- The time in seconds that these stages take. -/
noncomputable def lasted (stages : List (Stage ℝ)) : ℝ :=
  (stages.map fun stage => stage.duration.seconds).sum

theorem reached_cons {α : Type} (fromRate : α) (stage : Stage α) (rest : List (Stage α)) :
    reached fromRate (stage :: rest) = reached stage.target rest := List.getLastD_cons

theorem lasted_cons (stage : Stage ℝ) (rest : List (Stage ℝ)) :
    lasted (stage :: rest) = stage.duration.seconds + lasted rest := List.sum_cons

theorem lasted_append (stages more : List (Stage ℝ)) :
    lasted (stages ++ more) = lasted stages + lasted more := by
  rw [lasted, List.map_append, List.sum_append, lasted, lasted]

theorem lasted_nonneg (stages : List (Stage ℝ)) : 0 ≤ lasted stages :=
  List.sum_nonneg (by simp [Span.seconds_nonneg])

theorem lasted_take_succ {stages : List (Stage ℝ)} {k : Nat} (hk : k < stages.length) :
    lasted (stages.take (k + 1)) = lasted (stages.take k) + stages[k].duration.seconds := by
  rw [← List.take_append_getElem hk, lasted_append, lasted_cons]
  simp [lasted]

theorem lasted_take_mono (stages : List (Stage ℝ)) {j k : Nat} (h : j ≤ k) :
    lasted (stages.take j) ≤ lasted (stages.take k) := by
  obtain ⟨more, hmore⟩ := List.take_prefix_take_left (l := stages) h
  rw [← hmore, lasted_append]
  exact le_add_of_nonneg_right (lasted_nonneg more)

/-- The rates at the corners of a ramp, that at its start among them. -/
def corners {α : Type} (startRate : α) (stages : List (Stage α)) : List α :=
  startRate :: stages.map target

end Stage

namespace LoadModel

open Stage

/-- What a stage that is under way asks to be interpolated: the rates at its ends, the time since it
began and the time that it takes. -/
structure Leg (α : Type) where
  fromRate : α
  toRate : α
  elapsed : α
  duration : α

/-- The rate on its line. -/
def Leg.rate {α : Type} [Scalar α] (leg : Leg α) : α :=
  interpolate leg.fromRate leg.toRate leg.elapsed leg.duration

/-- The stage that is under way at `time`, if they are not all over. -/
def leg? {α : Type} [Scalar α] (fromRate start time : α) : List (Stage α) → Option (Leg α)
  | [] => none
  | stage :: rest =>
    let length := stage.duration.seconds
    if Scalar.lt time (start + length) then
      some ⟨fromRate, stage.target, time - start, length⟩
    else leg? stage.target (start + length) time rest

/-- The rate is interpolated once, in the stage that is under way. -/
theorem rampFrom_eq_leg? {α : Type} [Scalar α] (fromRate start time : α) (stages : List (Stage α)) :
    rampFrom fromRate start time stages =
      ((leg? fromRate start time stages).map Leg.rate).getD (reached fromRate stages) := by
  induction stages generalizing fromRate start with
  | nil => rfl
  | cons stage rest ih =>
    unfold rampFrom leg?
    dsimp only
    split
    · rfl
    · rw [ih, reached_cons]

variable {fromRate start time : ℝ} {stages : List (Stage ℝ)}

/-- Stages that are over leave the rate they reached and the time they took. -/
theorem rampFrom_append {done rest : List (Stage ℝ)} (h : start + lasted done ≤ time) :
    rampFrom fromRate start time (done ++ rest) =
      rampFrom (reached fromRate done) (start + lasted done) time rest := by
  induction done generalizing fromRate start with
  | nil => simp [lasted, reached]
  | cons stage done ih =>
    rw [lasted_cons, ← add_assoc] at h ⊢
    have hover : ¬ time < start + stage.duration.seconds := by
      linarith [lasted_nonneg done]
    rw [List.cons_append, rampFrom_cons, if_neg hover, ih h, reached_cons]

/-- Behind all stages the rate stays. -/
theorem rampFrom_of_over (h : start + lasted stages ≤ time) :
    rampFrom fromRate start time stages = reached fromRate stages := by
  have happend : rampFrom fromRate start time (stages ++ []) = reached fromRate stages :=
    rampFrom_append h
  rwa [List.append_nil] at happend

/-! ## The stage that is under way -/

/-- A stage that leads from corner to corner, has begun and is not over. -/
structure Leg.Underway (leg : Leg ℝ) (corners : List ℝ) : Prop where
  fromRate : leg.fromRate ∈ corners
  toRate : leg.toRate ∈ corners
  begun : 0 ≤ leg.elapsed
  notOver : leg.elapsed < leg.duration

namespace Leg

variable {leg : Leg ℝ}

theorem underway_of_leg? (hstart : start ≤ time) (h : leg? fromRate start time stages = some leg) :
    leg.Underway (corners fromRate stages) := by
  induction stages generalizing fromRate start with
  | nil => cases h
  | cons stage rest ih =>
    unfold leg? at h
    dsimp only at h
    split at h
    · next hnotOver =>
      cases h
      have hnotOver := Scalar.lt_iff.1 hnotOver
      exact ⟨by simp [corners], by simp [corners], sub_nonneg.2 hstart, by linarith⟩
    · next hover =>
      have hunderway := ih (not_lt.1 (mt Scalar.lt_iff.2 hover)) h
      have hmem : ∀ c ∈ corners stage.target rest, c ∈ corners fromRate (stage :: rest) :=
        fun c hc => List.mem_cons_of_mem _ hc
      exact ⟨hmem _ hunderway.fromRate, hmem _ hunderway.toRate, hunderway.begun,
        hunderway.notOver⟩

/-- No stage is divided by that takes no time. -/
theorem Underway.duration_pos {corners : List ℝ} (h : leg.Underway corners) : 0 < leg.duration :=
  h.begun.trans_lt h.notOver

end Leg

/-- On a line the rate lies between those at its ends. -/
theorem interpolate_between {low high a b elapsed duration : ℝ} (hbegun : 0 ≤ elapsed)
    (hnotOver : elapsed < duration) (ha : low ≤ a ∧ a ≤ high) (hb : low ≤ b ∧ b ≤ high) :
    low ≤ interpolate a b elapsed duration ∧ interpolate a b elapsed duration ≤ high := by
  have hpos := hbegun.trans_lt hnotOver
  have hnonneg : 0 ≤ elapsed / duration := div_nonneg hbegun hpos.le
  have hle : elapsed / duration ≤ 1 := (div_le_one hpos).2 hnotOver.le
  rw [interpolate_of_pos hpos]
  constructor <;> nlinarith

theorem reached_mem_corners (fromRate : ℝ) (stages : List (Stage ℝ)) :
    reached fromRate stages ∈ corners fromRate stages := by
  induction stages generalizing fromRate with
  | nil => exact List.mem_singleton_self _
  | cons stage rest ih =>
    rw [reached_cons]
    exact List.mem_cons_of_mem _ (ih stage.target)

theorem rampFrom_between {low high : ℝ} (hstart : start ≤ time)
    (hcorners : ∀ c ∈ corners fromRate stages, low ≤ c ∧ c ≤ high) :
    low ≤ rampFrom fromRate start time stages ∧ rampFrom fromRate start time stages ≤ high := by
  rw [rampFrom_eq_leg?]
  cases hleg : leg? fromRate start time stages with
  | none => exact hcorners _ (reached_mem_corners fromRate stages)
  | some leg =>
    have hunderway := Leg.underway_of_leg? hstart hleg
    exact interpolate_between hunderway.begun hunderway.notOver
      (hcorners _ hunderway.fromRate) (hcorners _ hunderway.toRate)

/-! ## The curve -/

/-- The number of the last stage that ends when the `k`th does. -/
theorem exists_lastEnding {k : Nat} (hk : k ≤ stages.length) :
    ∃ j, k ≤ j ∧ j ≤ stages.length ∧ lasted (stages.take j) = lasted (stages.take k) ∧
      ∀ i ≤ stages.length, j < i → lasted (stages.take j) < lasted (stages.take i) := by
  classical
  let j := Nat.findGreatest (fun j => lasted (stages.take j) = lasted (stages.take k)) stages.length
  have hj : lasted (stages.take j) = lasted (stages.take k) :=
    Nat.findGreatest_spec (P := fun j => lasted (stages.take j) = lasted (stages.take k)) hk rfl
  refine ⟨j, Nat.le_findGreatest hk rfl, Nat.findGreatest_le _, hj, fun i hi hlt => ?_⟩
  refine (lasted_take_mono stages hlt.le).lt_of_ne fun heq => ?_
  exact Nat.findGreatest_is_greatest hlt hi (heq.symm.trans hj)

/-- A rate that goes from corner to corner as the stages say. -/
structure FollowsStages (startRate : ℝ) (stages : List (Stage ℝ)) (rate : ℝ → ℝ) : Prop where
  within : ∀ (k : Nat) (hk : k < stages.length) (time : ℝ),
    lasted (stages.take k) ≤ time → time < lasted (stages.take (k + 1)) →
      rate time = reached startRate (stages.take k) +
        (stages[k].target - reached startRate (stages.take k)) *
          (time - lasted (stages.take k)) / stages[k].duration.seconds
  beyond : ∀ time, lasted stages ≤ time → rate time = reached startRate stages
  /-- Of the stages that end when the `k`th does, the last one counts. -/
  atEnds : ∀ k ≤ stages.length, ∃ j, k ≤ j ∧ j ≤ stages.length ∧
    lasted (stages.take j) = lasted (stages.take k) ∧
    (∀ i ≤ stages.length, j < i → lasted (stages.take j) < lasted (stages.take i)) ∧
    rate (lasted (stages.take k)) = reached startRate (stages.take j)
  between : ∀ time, 0 ≤ time →
    (corners startRate stages).min (List.cons_ne_nil _ _) ≤ rate time ∧
      rate time ≤ (corners startRate stages).max (List.cons_ne_nil _ _)
  /-- The one interpolation behind a rate is that of the leg, so `divides` speaks of all of them. -/
  legs : ∀ time, rate time =
    ((leg? startRate 0 time stages).map Leg.rate).getD (reached startRate stages)
  divides : ∀ time, 0 ≤ time → ∀ leg, leg? startRate 0 time stages = some leg → 0 < leg.duration

theorem rampFrom_within {startRate : ℝ} {k : Nat} (hk : k < stages.length)
    (hbegun : lasted (stages.take k) ≤ time) (hnotOver : time < lasted (stages.take (k + 1))) :
    rampFrom startRate 0 time stages = reached startRate (stages.take k) +
      (stages[k].target - reached startRate (stages.take k)) *
        (time - lasted (stages.take k)) / stages[k].duration.seconds := by
  rw [lasted_take_succ hk] at hnotOver
  have hsplit : stages.take k ++ stages[k] :: stages.drop (k + 1) = stages := by
    rw [List.getElem_cons_drop hk, List.take_append_drop]
  have hpos : (0 : ℝ) < stages[k].duration.seconds := by linarith
  have hover : 0 + lasted (stages.take k) ≤ time := by rwa [zero_add]
  calc rampFrom startRate 0 time stages
      = rampFrom startRate 0 time (stages.take k ++ stages[k] :: stages.drop (k + 1)) := by
        rw [hsplit]
    _ = interpolate (reached startRate (stages.take k)) stages[k].target
          (time - lasted (stages.take k)) stages[k].duration.seconds := by
        rw [rampFrom_append hover, zero_add, rampFrom_cons, if_pos hnotOver]
    _ = _ := by rw [interpolate_of_pos hpos, mul_div_assoc]

/-- A stage that follows the last one to end takes time. -/
theorem rampFrom_atEnd {startRate : ℝ} {j : Nat} (hj : j ≤ stages.length)
    (hlast : ∀ i ≤ stages.length, j < i → lasted (stages.take j) < lasted (stages.take i)) :
    rampFrom startRate 0 (lasted (stages.take j)) stages = reached startRate (stages.take j) := by
  obtain heq | hlt := hj.eq_or_lt
  · rw [heq, List.take_length, rampFrom_of_over (by rw [zero_add])]
  · rw [rampFrom_within hlt le_rfl (hlast _ hlt (Nat.lt_succ_self j)), sub_self, mul_zero, zero_div,
      add_zero]

/-- The rate of a ramp follows its stages. -/
theorem rateAt_followsStages (startRate : ℝ) (timeUnit : Span) (stages : List (Stage ℝ)) :
    FollowsStages startRate stages (ramping startRate timeUnit stages).rateAt := by
  have hrate : (ramping startRate timeUnit stages).rateAt =
      fun time => rampFrom startRate 0 time stages :=
    funext (rateAt_ramping startRate timeUnit stages)
  rw [hrate]
  constructor
  case within => exact fun k hk time hbegun hnotOver => rampFrom_within hk hbegun hnotOver
  case beyond => exact fun time hover => rampFrom_of_over (by rwa [zero_add])
  case atEnds =>
    intro k hk
    obtain ⟨j, hle, hj, hends, hlast⟩ := exists_lastEnding hk
    exact ⟨j, hle, hj, hends, hlast, hends ▸ rampFrom_atEnd hj hlast⟩
  case between =>
    exact fun time hstart => rampFrom_between hstart fun c hc =>
      ⟨List.min_le_of_mem hc, List.le_max_of_mem hc⟩
  case legs => exact fun time => rampFrom_eq_leg? startRate 0 time stages
  case divides => exact fun time hstart leg hleg => (Leg.underway_of_leg? hstart hleg).duration_pos

/-- A jump to fifty, and halfway from there to a hundred. -/
example : rampFrom (0 : Rat) 0 5 [⟨50, .zero⟩, ⟨100, .ofSeconds 10⟩] = 75 := by decide +kernel

end LoadModel

end FedLoad
