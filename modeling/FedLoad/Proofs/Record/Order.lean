import FedLoad.Proofs.Record.Balance
import FedLoad.Proofs.Walk.Ledger
import FedLoad.Threshold.Basic
/-!
# The order of events leaves no trace

Virtual users record side by side, so what reaches the tally is some interleaving of what each of
them records. Any two events may change places (`Tally.record_right_comm`): counts are sums, the
entries of different names lie apart, and the histogram keeps numbers of values and their extremes.
So a tally is the same in whatever order events arrive, down to the mean, which adds up the buckets
in the order of their values.

No event is lost either: each count is the number of events of its kind (`Tally.Counts`).

Main statement: `Tally.recordAll_orderless`.
-/
namespace FedLoad

/-- `events` is an interleaving of streams: each stream goes on in its own order, and any of them
may go on next. -/
inductive Interleaved : List (List Event) → List Event → Prop
  | done {streams : List (List Event)} (h : ∀ s ∈ streams, s = []) : Interleaved streams []
  | next (before : List (List Event)) {after : List (List Event)} {e : Event}
      {rest events : List Event}
      (h : Interleaved (before ++ rest :: after) events) :
      Interleaved (before ++ (e :: rest) :: after) (e :: events)

theorem Interleaved.perm {streams : List (List Event)} {events : List Event}
    (h : Interleaved streams events) : events.Perm streams.flatten := by
  induction h with
  | done h => rw [List.flatten_eq_nil_iff.2 h]
  | next before _ ih =>
    rw [List.flatten_append, List.flatten_cons] at ih ⊢
    exact (ih.cons _).trans List.perm_middle.symm

/-! ## Events change places -/

theorem Rate.add_right_comm (r : Rate) (p q : Bool) : (r.add p).add q = (r.add q).add p := by
  cases p <;> cases q <;> rfl

theorem DefectRates.add_right_comm (r : DefectRates) (d e : Defect) (p q : Bool) :
    (r.add d p).add e q = (r.add e q).add d p := by
  cases d <;> cases e <;> simp [add, Rate.add_right_comm _ p q]

theorem Keyed.bump_right_comm {κ : Type} [Key κ] [DecidableEq κ] [LinearKey κ]
    (pairs : List (κ × Nat)) (k l : κ) (m n : Nat) :
    bump l n (bump k m pairs) = bump k m (bump l n pairs) := by
  by_cases h : l = k
  · subst h
    simp only [bump, alter_alter, Option.getD_some, Nat.add_right_comm]
  · exact alter_comm h

namespace Latency.Histogram

theorem widen_right_comm (extremes : Option (Nat × Nat)) (v w : Nat) :
    widen w (some (widen v extremes)) = widen v (some (widen w extremes)) := by
  cases extremes with
  | none => exact Prod.ext (Nat.min_comm v w) (Nat.max_comm v w)
  | some e => exact Prod.ext (Nat.min_right_comm e.1 v w) (Nat.max_right_comm e.2 v w)

theorem record_right_comm (h : Histogram) (v w : Nat) :
    (h.record v).record w = (h.record w).record v := by
  simp only [record, Keyed.bump_right_comm _ (bucketLow (tracked v)),
    widen_right_comm _ (tracked v)]

end Latency.Histogram

namespace Tally

theorem checks_right_comm (pairs : List (String × Rate)) (a b : String) (p q : Bool) :
    Keyed.alter b (fun r => (r.getD .zero).add q) (Keyed.alter a (fun r => (r.getD .zero).add p)
        pairs) =
      Keyed.alter a (fun r => (r.getD .zero).add p) (Keyed.alter b (fun r => (r.getD .zero).add q)
        pairs) := by
  by_cases h : b = a
  · subst h
    simp only [Keyed.alter_alter, Option.getD_some, Rate.add_right_comm _ p q]
  · exact Keyed.alter_comm h

/-- Any two events may change places. Events of different kinds touch different counts. -/
theorem record_right_comm (t : Tally) (a b : Event) :
    (t.record a).record b = (t.record b).record a := by
  cases a with
  | sample d p =>
    cases b with
    | sample e q =>
      simp only [record, Rate.add_right_comm _ p q, DefectRates.add_right_comm _ d e p q]
    | _ => rfl
  | check name p =>
    cases b with
    | check other q =>
      simp only [record, Rate.add_right_comm _ p q, checks_right_comm _ name other p q]
    | _ => rfl
  | latency took =>
    cases b with
    | latency other =>
      simp only [record, Latency.Histogram.recordSpan,
        Latency.Histogram.record_right_comm _ (Latency.wordMicros took)]
    | _ => rfl
  | iteration | dropped | page | request | answered | outage | breach => cases b <;> rfl

theorem recordAll_perm {events others : List Event} (h : others.Perm events) (t : Tally) :
    t.recordAll others = t.recordAll events :=
  h.foldl_eq' (fun a _ b _ t => t.record_right_comm a b) t

end Tally

/-! ## No event is lost -/

namespace Event

/-- The outcome of a sample, of any defect. -/
def sample? : Event → Option Bool
  | .sample _ passed => some passed
  | _ => none

/-- The outcome of a sample of this defect. -/
def sampleOf? (d : Defect) : Event → Option Bool
  | .sample e passed => if e = d then some passed else none
  | _ => none

/-- The outcome of a check, of any name. -/
def check? : Event → Option Bool
  | .check _ passed => some passed
  | _ => none

/-- The outcome of a check with this name. -/
def checkOf? (name : String) : Event → Option Bool
  | .check other passed => if other = name then some passed else none
  | _ => none

def isLatency : Event → Bool
  | .latency _ => true
  | _ => false

end Event

namespace Rate

/-- The rate of some outcomes: all of them, and those that are failures. -/
def ofOutcomes (outcomes : List Bool) : Rate := ⟨outcomes.length, outcomes.count false⟩

/-- The rate of some outcomes, if there are any. -/
def ofOutcomes? : List Bool → Option Rate
  | [] => none
  | outcomes => some (ofOutcomes outcomes)

theorem ofOutcomes_concat (outcomes : List Bool) (passed : Bool) :
    ofOutcomes (outcomes ++ [passed]) = (ofOutcomes outcomes).add passed := by
  cases passed <;> simp [ofOutcomes, add]

theorem ofOutcomes?_concat (outcomes : List Bool) (passed : Bool) :
    ofOutcomes? (outcomes ++ [passed]) = some (((ofOutcomes? outcomes).getD .zero).add passed) := by
  cases outcomes with
  | nil => cases passed <;> rfl
  | cons p rest => exact congrArg some (ofOutcomes_concat (p :: rest) passed)

end Rate

theorem filterMap_concat {α : Type} (f : Event → Option α) (events : List Event) (e : Event) :
    (events ++ [e]).filterMap f = events.filterMap f ++ (f e).toList := by
  cases h : f e <;> simp [List.filterMap_append, h]

namespace Tally

/-- Every count of a tally is the number of events of its kind. -/
structure Counts (t : Tally) (events : List Event) : Prop where
  samples : t.samples = .ofOutcomes (events.filterMap Event.sample?)
  byDefect : ∀ d, t.byDefect.get d = .ofOutcomes (events.filterMap (Event.sampleOf? d))
  checks : t.checks = .ofOutcomes (events.filterMap Event.check?)
  byCheck : ∀ name, t.byCheck.lookup name =
    Rate.ofOutcomes? (events.filterMap (Event.checkOf? name))
  latencies : t.latencies.count = events.countP Event.isLatency
  iterations : t.iterations = events.count .iteration
  dropped : t.dropped = events.count .dropped
  pages : t.pages = events.count .page

namespace Counts

variable {t : Tally} {events : List Event}

theorem empty : Tally.empty.Counts [] where
  samples := rfl
  byDefect d := by cases d <;> rfl
  checks := rfl
  byCheck _ := rfl
  latencies := rfl
  iterations := rfl
  dropped := rfl
  pages := rfl

/-- One more event is one more of its kind, and of no other. -/
theorem record (h : t.Counts events) (hnames : Keyed.Ascending t.byCheck) (e : Event) :
    (t.record e).Counts (events ++ [e]) where
  samples := by
    rw [filterMap_concat]
    cases e <;> simp [Tally.record, Event.sample?, h.samples, Rate.ofOutcomes_concat]
  byDefect d := by
    rw [filterMap_concat]
    cases e with
    | sample d' passed =>
      by_cases heq : d' = d
      · simp [Tally.record, DefectRates.get_add, Event.sampleOf?, h.byDefect, heq,
          Rate.ofOutcomes_concat]
      · simp [Tally.record, DefectRates.get_add, Event.sampleOf?, h.byDefect, heq, Ne.symm heq]
    | _ => simp [Tally.record, Event.sampleOf?, h.byDefect]
  checks := by
    rw [filterMap_concat]
    cases e <;> simp [Tally.record, Event.check?, h.checks, Rate.ofOutcomes_concat]
  byCheck name := by
    rw [filterMap_concat]
    cases e with
    | check other passed =>
      by_cases heq : other = name
      · subst heq
        simp [Tally.record, Event.checkOf?, Keyed.lookup_alter hnames, h.byCheck,
          Rate.ofOutcomes?_concat]
      · simp [Tally.record, Event.checkOf?, Keyed.lookup_alter_of_ne (Ne.symm heq), h.byCheck, heq]
    | _ => simp [Tally.record, Event.checkOf?, h.byCheck]
  latencies := by
    rw [List.countP_append, ← h.latencies]
    cases e with
    | latency took =>
      rw [Tally.record, Latency.Histogram.count_recordSpan]
      rfl
    | _ => rfl
  iterations := by
    rw [List.count_append, ← h.iterations]
    cases e <;> rfl
  dropped := by
    rw [List.count_append, ← h.dropped]
    cases e <;> rfl
  pages := by
    rw [List.count_append, ← h.pages]
    cases e <;> rfl

theorem recordAll (h : t.Counts events) (hbalanced : t.Balanced) (more : List Event) :
    (t.recordAll more).Counts (events ++ more) := by
  induction more generalizing t events with
  | nil => rwa [List.append_nil]
  | cons e rest ih =>
    have hstep := h.record (Keyed.ascending_iff_lt.2 hbalanced.names) e
    rw [← List.singleton_append, ← List.append_assoc]
    exact ih hstep (hbalanced.record e)

end Counts

/-- No event is lost, and their order leaves no trace: in whatever order events arrive, and however
the streams of several virtual users are interleaved, the tally is the same, and with it everything
that a threshold observes and says. -/
theorem recordAll_orderless (events : List Event) :
    (empty.recordAll events).Counts events ∧
      (∀ others, others.Perm events →
        empty.recordAll others = empty.recordAll events ∧
        ∀ thresholds, Threshold.outcomes thresholds (empty.recordAll others) =
          Threshold.outcomes thresholds (empty.recordAll events)) ∧
      ∀ streams others, Interleaved streams events → Interleaved streams others →
        empty.recordAll others = empty.recordAll events := by
  refine ⟨Counts.empty.recordAll balanced_empty events, fun others h => ?_, ?_⟩
  · have hsame := recordAll_perm h empty
    exact ⟨hsame, fun thresholds => by rw [hsame]⟩
  · intro streams others h h'
    exact recordAll_perm (h'.perm.trans h.perm.symm) empty

/-- Two virtual users run the same check, one of them in vain; who is first does not matter. -/
theorem recordAll_orderless_twoUsers :
    let streams : List (List Event) := [[.check "has body" true, .page], [.check "has body" false]]
    let events : List Event := [.check "has body" true, .page, .check "has body" false]
    let others : List Event := [.check "has body" false, .check "has body" true, .page]
    Interleaved streams events ∧ Interleaved streams others ∧
      empty.recordAll others = empty.recordAll events := by
  intro streams events others
  have hdone : Interleaved [[], []] [] := .done (by simp)
  have hevents : Interleaved streams events :=
    .next [] (.next [] (.next [[]] hdone))
  have hothers : Interleaved streams others :=
    .next [_] (.next [] (.next [] hdone))
  exact ⟨hevents, hothers, (recordAll_orderless events).2.2 streams others hevents hothers⟩

end Tally

end FedLoad
