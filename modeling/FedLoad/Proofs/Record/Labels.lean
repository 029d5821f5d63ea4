import FedLoad.Proofs.Keyed
import FedLoad.Record.Counters
import Mathlib.Logic.Basic
/-!
# Counts under labels

A labelled counter counts the events of one kind, each under the labels that it has for this
counter. So after any events it stands, under given labels, at what it stood at before and one more
for each event with these labels.

Main statement: `Labelled.countAt_recordAll`.
-/
namespace FedLoad

/-- The labels under which a failed threshold is counted. -/
def Event.breachLabels? : Event → Option (List String)
  | .breach metric => some [metric]
  | _ => none

/-- The labels under which an outage is counted. -/
def Event.outageLabels? : Event → Option (List String)
  | .outage cause => some [cause.label]
  | _ => none

namespace Counters

theorem countAt_bump {counts : List (List String × Nat)} (h : Keyed.Ascending counts)
    (labels other : List String) : countAt other (Keyed.bump labels 1 counts) =
      countAt other counts + if other = labels then 1 else 0 := by
  unfold countAt Keyed.bump
  by_cases heq : other = labels
  · rw [heq, Keyed.lookup_alter h, if_pos rfl, Option.getD_some]
  · rw [Keyed.lookup_alter_of_ne heq, if_neg heq, Nat.add_zero]

/-- A counter counts the events that have labels for it, under these labels, and no others. -/
def Labelled (counts : Counters → List (List String × Nat))
    (labels? : Event → Option (List String)) : Prop :=
  ∀ c e, counts (c.record e) = match labels? e with
    | some labels => Keyed.bump labels 1 (counts c)
    | none => counts c

theorem labelled_breaches : Labelled breaches Event.breachLabels? := by
  intro c e
  cases e <;> rfl

theorem labelled_outages : Labelled outages Event.outageLabels? := by
  intro c e
  cases e <;> rfl

namespace Labelled

variable {counts : Counters → List (List String × Nat)} {labels? : Event → Option (List String)}
  {c : Counters}

theorem ascending_record (h : Labelled counts labels?) (hc : Keyed.Ascending (counts c))
    (e : Event) : Keyed.Ascending (counts (c.record e)) := by
  rw [h c e]
  cases labels? e with
  | none => exact hc
  | some labels => exact Keyed.ascending_alter hc

theorem ascending_recordAll (h : Labelled counts labels?) (hc : Keyed.Ascending (counts c))
    (events : List Event) : Keyed.Ascending (counts (c.recordAll events)) := by
  induction events generalizing c with
  | nil => exact hc
  | cons e rest ih => exact ih (h.ascending_record hc e)

theorem countAt_record (h : Labelled counts labels?) (hc : Keyed.Ascending (counts c)) (e : Event)
    (labels : List String) : countAt labels (counts (c.record e)) =
      countAt labels (counts c) + if labels? e = some labels then 1 else 0 := by
  rw [h c e]
  cases labels? e with
  | none => rfl
  | some own =>
    rw [countAt_bump hc]
    exact congrArg _ (if_congr (eq_comm.trans (Option.some_inj (a := own)).symm) rfl rfl)

theorem countAt_recordAll (h : Labelled counts labels?) (hc : Keyed.Ascending (counts c))
    (events : List Event) (labels : List String) : countAt labels (counts (c.recordAll events)) =
      countAt labels (counts c) + events.countP fun e => labels? e = some labels := by
  induction events generalizing c with
  | nil => rfl
  | cons e rest ih =>
    have hrest := ih (h.ascending_record hc e)
    rw [h.countAt_record hc] at hrest
    rw [List.countP_cons]
    simp only [decide_eq_true_eq]
    exact hrest.trans (by omega)

end Labelled

end Counters

end FedLoad
