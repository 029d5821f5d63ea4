import FedLoad.Proofs.Keyed
import FedLoad.Record.Tally
import Mathlib.Algebra.Field.Rat
import Mathlib.Algebra.Order.Field.Basic
import Mathlib.Algebra.Order.Ring.Rat
/-!
# The tally balances

A sample is counted twice, among all of its kind and under its own name, and the two counts are kept
by separate writes. They agree at all times: what is counted together is the sum of what is counted
apart. No rate ever has more failures than samples, so that its two shares divide one between them.
A name has an entry only once it has been counted.

One event keeps the balance (`Tally.Balanced.record`), whatever it is, so every sequence of events
does.

Main statement: `Tally.recordAll_balanced`.
-/
namespace FedLoad

/-! ## Rates -/

namespace Rate

/-- The rate of all samples of some rates, part by part. -/
def sum (rates : List Rate) : Rate := ⟨(rates.map total).sum, (rates.map failed).sum⟩

/-- The failures are some of the samples, and what is left of the samples passed. -/
structure Divided (r : Rate) : Prop where
  failed : r.failed ≤ r.total
  passed : r.passed + r.failed = r.total
  shares : 0 < r.total → ∃ failure pass : Rat,
    r.failureShare Rat = some failure ∧ r.passShare Rat = some pass ∧
      (0 ≤ failure ∧ failure ≤ 1) ∧ (0 ≤ pass ∧ pass ≤ 1) ∧ failure + pass = 1

theorem failed_add_le {r : Rate} (h : r.failed ≤ r.total) (passed : Bool) :
    (r.add passed).failed ≤ (r.add passed).total := by
  cases passed with
  | true => exact Nat.le_succ_of_le h
  | false => exact Nat.succ_le_succ h

theorem sum_cons_add (r : Rate) (rates : List Rate) (passed : Bool) :
    sum (r.add passed :: rates) = (sum (r :: rates)).add passed := by
  cases passed <;> simp [sum, add] <;> omega

theorem sum_cons_congr (r : Rate) {rates rates' : List Rate} {passed : Bool}
    (h : sum rates' = (sum rates).add passed) :
    sum (r :: rates') = (sum (r :: rates)).add passed := by
  have htotal := congrArg total h
  have hfailed := congrArg Rate.failed h
  cases passed <;> simp [sum, add] at htotal hfailed ⊢ <;> omega

theorem failureShare_eq {r : Rate} (h : 0 < r.total) :
    r.failureShare Rat = some ((r.failed : Rat) / r.total) :=
  if_neg h.ne'

theorem divided {r : Rate} (h : r.failed ≤ r.total) : r.Divided where
  failed := h
  passed := Nat.sub_add_cancel h
  shares hpos := by
    have htotal : (0 : Rat) < r.total := Nat.cast_pos.2 hpos
    have hle : (r.failed : Rat) ≤ r.total := Nat.cast_le.2 h
    have hlow : (0 : Rat) ≤ r.failed / r.total := div_nonneg (Nat.cast_nonneg _) htotal.le
    have hhigh : (r.failed : Rat) / r.total ≤ 1 := (div_le_one htotal).2 hle
    refine ⟨r.failed / r.total, 1 - r.failed / r.total, failureShare_eq hpos, ?_, ⟨hlow, hhigh⟩,
      ⟨sub_nonneg.2 hhigh, sub_le_self 1 hlow⟩, add_sub_cancel _ _⟩
    rw [passShare, failureShare_eq hpos]
    exact congrArg some (congrArg (· - (r.failed : Rat) / r.total) Nat.cast_one)

end Rate

/-- One more sample of a defect is one more of all of them. -/
theorem DefectRates.sum_add (r : DefectRates) (d : Defect) (passed : Bool) :
    Rate.sum (Defect.all.map (r.add d passed).get) =
      (Rate.sum (Defect.all.map r.get)).add passed := by
  cases d <;> cases passed <;> simp [Defect.all, add, get, Rate.sum, Rate.add] <;> omega

/-- One more sample under a name is one more of all names. -/
theorem Keyed.sum_alter_add (name : String) (passed : Bool) (pairs : List (String × Rate)) :
    Rate.sum ((alter name (fun r => (r.getD .zero).add passed) pairs).map Prod.snd) =
      (Rate.sum (pairs.map Prod.snd)).add passed := by
  have hnew : ∀ rates, Rate.sum (Rate.zero :: rates) = Rate.sum rates := by
    simp [Rate.sum, Rate.zero]
  induction pairs with
  | nil => rw [alter, List.map_singleton, Option.getD_none, Rate.sum_cons_add, hnew, List.map_nil]
  | cons p rest ih =>
    obtain ⟨k, r⟩ := p
    unfold alter
    split
    · rw [List.map_cons, Option.getD_none, Rate.sum_cons_add, hnew]
    · split
      · rw [List.map_cons, Option.getD_some, Rate.sum_cons_add, List.map_cons]
      · exact Rate.sum_cons_congr r ih

/-! ## The balance -/

namespace Tally

/-- Every rate that is kept. -/
def rates (t : Tally) : List Rate :=
  t.samples :: t.checks :: Defect.all.map t.byDefect.get ++ t.byCheck.map Prod.snd

structure Balanced (t : Tally) : Prop where
  samples : t.samples = Rate.sum (Defect.all.map t.byDefect.get)
  checks : t.checks = Rate.sum (t.byCheck.map Prod.snd)
  names : t.byCheck.Pairwise fun a b => a.1 < b.1
  named : ∀ entry ∈ t.byCheck, 1 ≤ entry.2.total
  divided : ∀ r ∈ t.rates, r.Divided

theorem forall_rates {t : Tally} {P : Rate → Prop} : (∀ r ∈ t.rates, P r) ↔
    P t.samples ∧ P t.checks ∧ (∀ d, P (t.byDefect.get d)) ∧ ∀ entry ∈ t.byCheck, P entry.2 := by
  have hall : (∀ d ∈ Defect.all, P (t.byDefect.get d)) ↔ ∀ d, P (t.byDefect.get d) :=
    ⟨fun h d => h d d.mem_all, fun h d _ => h d⟩
  simp only [rates, List.cons_append, List.forall_mem_cons, List.forall_mem_append,
    List.forall_mem_map, hall]

theorem balanced_empty : empty.Balanced where
  samples := rfl
  checks := rfl
  names := List.Pairwise.nil
  named := by simp [empty]
  divided := by
    rw [forall_rates]
    have hzero : Rate.zero.Divided := Rate.divided (Nat.le_refl 0)
    refine ⟨hzero, hzero, fun d => ?_, by simp [empty]⟩
    cases d <;> exact hzero

namespace Balanced

variable {t : Tally}

theorem sample (h : t.Balanced) (d : Defect) (passed : Bool) :
    (t.record (.sample d passed)).Balanced where
  samples := by
    rw [record, DefectRates.sum_add, h.samples]
  checks := h.checks
  names := h.names
  named := h.named
  divided := by
    obtain ⟨hsamples, hchecks, hdefects, hnames⟩ := forall_rates.1 h.divided
    refine forall_rates.2 ⟨?_, hchecks, fun e => ?_, hnames⟩
    · exact Rate.divided (Rate.failed_add_le hsamples.failed passed)
    · rw [record, DefectRates.get_add]
      split
      · exact Rate.divided (Rate.failed_add_le (hdefects e).failed passed)
      · exact hdefects e

theorem check (h : t.Balanced) (name : String) (passed : Bool) :
    (t.record (.check name passed)).Balanced where
  samples := h.samples
  checks := by
    rw [record, Keyed.sum_alter_add, h.checks]
  names := Keyed.ascending_iff_lt.1 (Keyed.ascending_alter (Keyed.ascending_iff_lt.2 h.names))
  named := by
    refine Keyed.forall_alter (fun r : Rate => 1 ≤ r.total) h.named fun r _ => ?_
    exact Nat.le_add_left 1 (r.getD .zero).total
  divided := by
    obtain ⟨hsamples, hchecks, hdefects, hnames⟩ := forall_rates.1 h.divided
    refine forall_rates.2 ⟨hsamples, ?_, hdefects, ?_⟩
    · exact Rate.divided (Rate.failed_add_le hchecks.failed passed)
    · refine Keyed.forall_alter _ hnames fun r hr => Rate.divided (Rate.failed_add_le ?_ passed)
      cases r with
      | none => exact Nat.le_refl 0
      | some r => exact (hr r rfl).failed

/-- The balance is kept by every event; only samples and checks touch it. -/
theorem record (h : t.Balanced) (e : Event) : (t.record e).Balanced := by
  cases e with
  | sample d passed => exact h.sample d passed
  | check name passed => exact h.check name passed
  | latency | iteration | dropped | page | request | answered | outage | breach =>
    exact ⟨h.samples, h.checks, h.names, h.named, h.divided⟩

theorem recordAll (h : t.Balanced) (events : List Event) : (t.recordAll events).Balanced := by
  induction events generalizing t with
  | nil => exact h
  | cons e rest ih => exact ih (h.record e)

end Balanced

/-- Whatever is recorded from the start, the tally balances. -/
theorem recordAll_balanced (events : List Event) : (empty.recordAll events).Balanced :=
  balanced_empty.recordAll events

end Tally

end FedLoad
