import FedLoad.Proofs.Load.Curve
import Mathlib.Analysis.SpecialFunctions.Integrals.Basic
/-!
# What comes due under a curve

A tick releases whole iterations and carries the rest to the next, so nothing is lost: what ticks
have released is the whole part of all that was asked for (`Budget.conserved`). Between two ticks
that is the rate halfway for the time between them. As long as no stage ends between two ticks the
curve is a line there, and this is the area under it; so it does not matter where the ticks are, if
only they do not miss the end of a stage.

Main statement: `Budget.released_eq_area`.
-/
namespace FedLoad

open Stage MeasureTheory

/-! ## Lines -/

/-- Where a curve is a line, the area under it is the height halfway times the width. The right end
does not count, there may be a jump. -/
theorem integral_of_line {f : ℝ → ℝ} {a b u v : ℝ} (hle : a ≤ b)
    (hline : ∀ t, a ≤ t → t < b → f t = u + v * t) :
    IntervalIntegrable f volume a b ∧ ∫ t in a..b, f t = f ((a + b) / 2) * (b - a) := by
  have hcontinuous : Continuous fun t => u + v * t := by fun_prop
  have heq : Set.EqOn (fun t => u + v * t) f (Set.Ioo a b) :=
    fun t ht => (hline t ht.1.le ht.2).symm
  refine ⟨(hcontinuous.intervalIntegrable a b).congr_uIoo (Set.uIoo_of_le hle ▸ heq), ?_⟩
  have harea : ∫ t in a..b, f t = (u + v * ((a + b) / 2)) * (b - a) := by
    rw [← intervalIntegral.integral_congr_Ioo_of_le hle heq,
      intervalIntegral.integral_add intervalIntegrable_const
        (Continuous.intervalIntegrable (by fun_prop) a b),
      intervalIntegral.integral_const, intervalIntegral.integral_const_mul, integral_id,
      smul_eq_mul]
    ring
  rw [harea]
  obtain rfl | hlt := hle.eq_or_lt
  · rw [sub_self, mul_zero, mul_zero]
  · rw [hline _ (by linarith) (by linarith)]

namespace LoadModel

variable {fromRate start a b : ℝ} {stages : List (Stage ℝ)} {m : LoadModel ℝ}

/-- Does a load name no rate below zero? -/
def Nonnegative : LoadModel ℝ → Prop
  | .constant rate _ _ => 0 ≤ rate
  | .ramping startRate _ stages => ∀ rate ∈ corners startRate stages, 0 ≤ rate

/-- Does a stage end at this time? -/
def TurnsAt : LoadModel ℝ → ℝ → Prop
  | .constant .., _ => False
  | .ramping _ _ stages, time => ∃ k ≤ stages.length, lasted (stages.take k) = time

theorem perSecond_nonneg (hm : m.Nonnegative) {time : ℝ} (htime : 0 ≤ time) :
    0 ≤ m.perSecond time := by
  rw [perSecond_eq]
  refine div_nonneg ?_ (Span.seconds_nonneg _)
  cases m with
  | constant rate timeUnit duration => exact hm
  | ramping startRate timeUnit stages =>
    rw [rateAt_ramping]
    exact (rampFrom_between htime fun c hc => ⟨hm c hc, List.le_max_of_mem hc⟩).1

/-- Between two times the curve is a line if no stage ends in between. The induction drops stages
that are over; the first that is not is not over before `b`. -/
theorem rampFrom_line (hstart : start ≤ a)
    (hends : ∀ k ≤ stages.length, a < start + lasted (stages.take k) →
      b ≤ start + lasted (stages.take k)) :
    ∃ u v, ∀ t, a ≤ t → t < b → rampFrom fromRate start t stages = u + v * t := by
  induction stages generalizing fromRate start with
  | nil => exact ⟨fromRate, 0, fun t _ _ => by rw [rampFrom, zero_mul, add_zero]⟩
  | cons stage rest ih =>
    by_cases hover : start + stage.duration.seconds ≤ a
    · have hrest : ∀ k ≤ rest.length, a < start + stage.duration.seconds + lasted (rest.take k) →
          b ≤ start + stage.duration.seconds + lasted (rest.take k) := by
        intro k hk hlt
        have hend := hends (k + 1) (Nat.succ_le_succ hk)
        rw [List.take_succ_cons, lasted_cons, ← add_assoc] at hend
        exact hend hlt
      obtain ⟨u, v, hline⟩ := ih hover hrest
      refine ⟨u, v, fun t hat htb => ?_⟩
      rw [rampFrom_cons, if_neg (not_lt.2 (hover.trans hat)), hline t hat htb]
    · have hend : b ≤ start + stage.duration.seconds := by
        have hfirst := hends 1 (Nat.succ_le_succ (Nat.zero_le _))
        rw [List.take_succ_cons, List.take_zero, lasted_cons, lasted, List.map_nil, List.sum_nil,
          add_zero] at hfirst
        exact hfirst (not_le.1 hover)
      have hpos : (0 : ℝ) < stage.duration.seconds := by linarith
      refine ⟨fromRate - (stage.target - fromRate) / stage.duration.seconds * start,
        (stage.target - fromRate) / stage.duration.seconds, fun t hat htb => ?_⟩
      rw [rampFrom_cons, if_pos (htb.trans_le hend), interpolate_of_pos hpos]
      ring

theorem perSecond_line (ha : 0 ≤ a) (hends : ∀ time, m.TurnsAt time → a < time → b ≤ time) :
    ∃ u v, ∀ t, a ≤ t → t < b → m.perSecond t = u + v * t := by
  cases m with
  | constant rate timeUnit duration =>
    refine ⟨rate / timeUnit.seconds, 0, fun t _ _ => ?_⟩
    rw [perSecond_eq, zero_mul, add_zero]
    rfl
  | ramping startRate timeUnit stages =>
    have hstages : ∀ k ≤ stages.length, a < 0 + lasted (stages.take k) →
        b ≤ 0 + lasted (stages.take k) := by
      intro k hk
      rw [zero_add]
      exact hends _ ⟨k, hk, rfl⟩
    obtain ⟨u, v, hline⟩ : ∃ u v, ∀ t, a ≤ t → t < b → rampFrom startRate 0 t stages = u + v * t :=
      rampFrom_line ha hstages
    refine ⟨u / timeUnit.seconds, v / timeUnit.seconds, fun t hat htb => ?_⟩
    rw [perSecond_eq, rateAt_ramping, hline t hat htb, add_div, mul_div_right_comm]
    rfl

end LoadModel

/-! ## Ticks -/

namespace Budget

/-- The iterations released at ticks one after another, and what is carried in the end. -/
def advanceAll {α : Type} [Scalar α] (b : Budget α) (m : LoadModel α) (earlier : α) :
    List α → Nat × Budget α
  | [] => (0, b)
  | later :: rest =>
    let (due, carried) := b.advance m earlier later
    let (more, last) := carried.advanceAll m later rest
    (due + more, last)

/-- What is asked for between ticks: the rate halfway, for the time between them. -/
noncomputable def asked (m : LoadModel ℝ) (earlier : ℝ) : List ℝ → ℝ
  | [] => 0
  | later :: rest => m.perSecond ((earlier + later) / 2) * (later - earlier) + asked m later rest

variable {m : LoadModel ℝ} {b : Budget ℝ} {earlier later : ℝ} {ticks : List ℝ}

/-- A part of an iteration, but not a whole one. -/
def IsRest (b : Budget ℝ) : Prop := 0 ≤ b.pending ∧ b.pending < 1

theorem isRest_start : (start : Budget ℝ).IsRest := by
  rw [IsRest, start, Scalar.ofNat_zero]
  exact ⟨le_rfl, zero_lt_one⟩

/-- What is asked for in the time of a tick is added to what is carried, and whole iterations are
taken out. -/
theorem advance_eq (b : Budget ℝ) (m : LoadModel ℝ) (earlier later : ℝ) :
    b.advance m earlier later = (⌊b.pending + amount m earlier later⌋₊,
      ⟨b.pending + amount m earlier later - ⌊b.pending + amount m earlier later⌋₊⟩) := by
  have hpending (rate gap : ℝ) : (if flows rate = true then b.pending + rate * gap else b.pending) =
      b.pending + if flows rate = true then rate * gap else Scalar.ofNat 0 := by
    rw [add_ite, Scalar.ofNat_zero, add_zero]
  unfold advance amount
  dsimp only
  rw [hpending]
  rfl

/-- A rate of zero asks for nothing, be it counted as a rate or not. -/
theorem amount_eq (hle : earlier ≤ later) (hrate : 0 ≤ m.perSecond ((earlier + later) / 2)) :
    amount m earlier later = m.perSecond ((earlier + later) / 2) * (later - earlier) := by
  have hgap : between earlier later = later - earlier :=
    if_neg (mt Scalar.lt_iff.1 (by rw [Scalar.ofNat_zero]; exact (sub_nonneg.2 hle).not_gt))
  have hhalf : earlier + (later - earlier) / Scalar.ofNat 2 = (earlier + later) / 2 := by
    change earlier + (later - earlier) / ((2 : ℕ) : ℝ) = _
    push_cast
    ring
  unfold amount
  dsimp only
  rw [hgap, hhalf]
  obtain hzero | hpos := hrate.eq_or_lt
  · rw [← hzero, zero_mul, Scalar.ofNat_zero, ite_self]
  · exact if_pos (Scalar.lt_iff.2 (by rwa [Scalar.ofNat_zero]))

/-- One tick loses nothing and carries less than an iteration. -/
theorem advance_conserved (hb : b.IsRest) (hle : earlier ≤ later)
    (hrate : 0 ≤ m.perSecond ((earlier + later) / 2)) :
    (b.advance m earlier later).1 + (b.advance m earlier later).2.pending =
      b.pending + m.perSecond ((earlier + later) / 2) * (later - earlier) ∧
    (b.advance m earlier later).2.IsRest := by
  rw [advance_eq, amount_eq hle hrate]
  have hnonneg : 0 ≤ b.pending + m.perSecond ((earlier + later) / 2) * (later - earlier) :=
    add_nonneg hb.1 (mul_nonneg hrate (sub_nonneg.2 hle))
  generalize b.pending + m.perSecond ((earlier + later) / 2) * (later - earlier) = pending
    at hnonneg
  have hfloor := Nat.floor_le hnonneg
  have hlt := Nat.lt_floor_add_one pending
  exact ⟨add_sub_cancel _ _, sub_nonneg.2 hfloor, sub_lt_iff_lt_add'.2 hlt⟩

/-- Ticks lose nothing, and carry less than an iteration after each of them. -/
theorem conserved (hm : m.Nonnegative) (hb : b.IsRest) (hearlier : 0 ≤ earlier)
    (hticks : (earlier :: ticks).Pairwise (· ≤ ·)) :
    (b.advanceAll m earlier ticks).1 + (b.advanceAll m earlier ticks).2.pending =
      b.pending + asked m earlier ticks ∧
    (b.advanceAll m earlier ticks).2.IsRest := by
  induction ticks generalizing b earlier with
  | nil => exact ⟨by simp [advanceAll, asked], hb⟩
  | cons later rest ih =>
    obtain ⟨hfirst, hrest⟩ := List.pairwise_cons.1 hticks
    have hle : earlier ≤ later := hfirst later (List.mem_cons_self ..)
    have hhalf : 0 ≤ (earlier + later) / 2 := by linarith
    obtain ⟨hdue, hcarried⟩ := advance_conserved hb hle (m.perSecond_nonneg hm hhalf)
    obtain ⟨hmore, hlast⟩ := ih hcarried (hearlier.trans hle) hrest
    refine ⟨?_, hlast⟩
    rw [advanceAll, asked]
    push_cast
    linarith

/-- What is released from the start on is the whole part of what is asked for. -/
theorem released_eq_floor (hm : m.Nonnegative) (hticks : (0 :: ticks).Pairwise (· ≤ ·)) :
    (start.advanceAll m 0 ticks).1 = ⌊asked m 0 ticks⌋₊ := by
  obtain ⟨hsum, hnonneg, hlt⟩ := conserved hm isRest_start le_rfl hticks
  have hstart : (start : Budget ℝ).pending = 0 := Scalar.ofNat_zero
  rw [hstart, zero_add] at hsum
  have hasked : 0 ≤ asked m 0 ticks := hsum ▸ add_nonneg (Nat.cast_nonneg _) hnonneg
  exact ((Nat.floor_eq_iff hasked).2 ⟨by linarith, by linarith⟩).symm

/-- Between ticks that miss no end of a stage, what is asked for is the area under the curve. -/
theorem asked_eq_area (hearlier : 0 ≤ earlier) (hticks : (earlier :: ticks).Pairwise (· ≤ ·))
    (hends : ∀ time, m.TurnsAt time → earlier < time → time < ticks.getLastD earlier →
      time ∈ ticks) :
    IntervalIntegrable m.perSecond volume earlier (ticks.getLastD earlier) ∧
      asked m earlier ticks = ∫ t in earlier..ticks.getLastD earlier, m.perSecond t := by
  induction ticks generalizing earlier with
  | nil => exact ⟨IntervalIntegrable.refl, intervalIntegral.integral_same.symm⟩
  | cons later rest ih =>
    obtain ⟨hfirst, hrest⟩ := List.pairwise_cons.1 hticks
    have hle : earlier ≤ later := hfirst later (List.mem_cons_self ..)
    have hlater : ∀ time ∈ later :: rest, later ≤ time :=
      List.forall_mem_cons.2 ⟨le_rfl, (List.pairwise_cons.1 hrest).1⟩
    rw [List.getLastD_cons] at hends ⊢
    have hbehind : later ≤ rest.getLastD later := hlater _ List.getLastD_mem_cons
    obtain ⟨u, v, hline⟩ := m.perSecond_line hearlier fun time hturn hlt => by
      by_contra hnot
      have hmem := hends time hturn hlt ((not_le.1 hnot).trans_le hbehind)
      exact hnot (hlater time hmem)
    obtain ⟨hintegrable, harea⟩ := integral_of_line hle hline
    obtain ⟨hintegrable', harea'⟩ := ih (hearlier.trans hle) hrest fun time hturn hlt hlast =>
      (List.mem_cons.1 (hends time hturn (hle.trans_lt hlt) hlast)).resolve_left hlt.ne'
    refine ⟨hintegrable.trans hintegrable', ?_⟩
    rw [asked, harea', ← harea]
    exact intervalIntegral.integral_add_adjacent_intervals hintegrable hintegrable'

/-- Do ticks miss the end of a stage, one before the last of them? -/
def Misses (m : LoadModel ℝ) (ticks : List ℝ) : Prop :=
  ∃ time, m.TurnsAt time ∧ time < ticks.getLastD 0 ∧ time ∉ 0 :: ticks

theorem released_eq_floor_area (hm : m.Nonnegative) (hticks : (0 :: ticks).Pairwise (· ≤ ·))
    (hmiss : ¬ Misses m ticks) :
    IntervalIntegrable m.perSecond volume 0 (ticks.getLastD 0) ∧
      (start.advanceAll m 0 ticks).1 = ⌊∫ t in 0..ticks.getLastD 0, m.perSecond t⌋₊ := by
  have hends : ∀ time, m.TurnsAt time → 0 < time → time < ticks.getLastD 0 → time ∈ ticks := by
    intro time hturn hpos hlast
    by_contra hnot
    exact hmiss ⟨time, hturn, hlast, by simp [hpos.ne', hnot]⟩
  obtain ⟨hintegrable, hasked⟩ := asked_eq_area le_rfl hticks hends
  exact ⟨hintegrable, by rw [released_eq_floor hm hticks, hasked]⟩

/-- What ticks release is the whole part of the rates halfway between them, each for its time, and
after every tick less than an iteration is carried. If no end of a stage is missed it is the whole
part of the area under the curve, and so the same for all ticks among which these are that end when
these do. -/
theorem released_eq_area (hm : m.Nonnegative) (hticks : (0 :: ticks).Pairwise (· ≤ ·)) :
    (start.advanceAll m 0 ticks).1 = ⌊asked m 0 ticks⌋₊ ∧
    (∀ n, (start.advanceAll m 0 (ticks.take n)).2.IsRest) ∧
    (¬ Misses m ticks → IntervalIntegrable m.perSecond volume 0 (ticks.getLastD 0) ∧
      (start.advanceAll m 0 ticks).1 = ⌊∫ t in 0..ticks.getLastD 0, m.perSecond t⌋₊ ∧
      ∀ finer : List ℝ, (0 :: finer).Pairwise (· ≤ ·) → ticks ⊆ finer →
        finer.getLastD 0 = ticks.getLastD 0 →
          (start.advanceAll m 0 finer).1 = (start.advanceAll m 0 ticks).1) := by
  refine ⟨released_eq_floor hm hticks, fun n => ?_, fun hmiss => ?_⟩
  · have hsorted := hticks.sublist ((List.take_sublist n ticks).cons_cons 0)
    exact (conserved hm isRest_start le_rfl hsorted).2
  · obtain ⟨hintegrable, harea⟩ := released_eq_floor_area hm hticks hmiss
    refine ⟨hintegrable, harea, fun finer hfiner hsub hlast => ?_⟩
    have hmiss' : ¬ Misses m finer := fun ⟨time, hturn, hlt, hnot⟩ =>
      hmiss ⟨time, hturn, hlast ▸ hlt, fun hmem => hnot (List.cons_subset_cons 0 hsub hmem)⟩
    rw [(released_eq_floor_area hm hfiner hmiss').2, hlast, harea]

/-- Ten seconds up to ten iterations a second and ten down again, with a tick at the top: a hundred
iterations, as for a tick every two seconds. -/
theorem released_eq_area_upAndDown :
    let m : LoadModel ℝ := .ramping 0 (.ofSeconds 1) [⟨10, .ofSeconds 10⟩, ⟨0, .ofSeconds 10⟩]
    let ticks : List ℝ := [4, 10, 15, 20]
    m.Nonnegative ∧ (0 :: ticks).Pairwise (· ≤ ·) ∧ ¬ Misses m ticks ∧
      (start.advanceAll m 0 ticks).1 = ⌊∫ t in 0..20, m.perSecond t⌋₊ ∧
      (start.advanceAll m 0 ticks).1 = 100 := by
  intro m ticks
  have hm : m.Nonnegative := by simp [m, LoadModel.Nonnegative, corners]
  have hticks : (0 :: ticks).Pairwise (· ≤ ·) := by norm_num [ticks]
  have hmiss : ¬ Misses m ticks := by
    rintro ⟨time, ⟨k, hk, rfl⟩, -, hnot⟩
    have hcases : k = 0 ∨ k = 1 ∨ k = 2 := by
      change k ≤ 2 at hk
      omega
    obtain rfl | rfl | rfl := hcases <;>
      exact hnot (by norm_num [ticks, lasted, Span.seconds_eq, Span.ofSeconds])
  obtain ⟨hfloor, -, harea⟩ := released_eq_area hm hticks
  have hasked : asked m 0 ticks = 100 := by
    norm_num [ticks, m, asked, LoadModel.perSecond_eq, LoadModel.rateAt_ramping, LoadModel.timeUnit,
      LoadModel.rampFrom_cons, LoadModel.interpolate_of_pos, Span.seconds_eq, Span.ofSeconds]
  refine ⟨hm, hticks, hmiss, (harea hmiss).2.1, ?_⟩
  rw [hfloor, hasked]
  norm_num

end Budget

end FedLoad
