import FedLoad.Proofs.Record.Balance
import FedLoad.Proofs.Record.Labels
import FedLoad.Proofs.Walk.Entries
import FedLoad.Record.Book
/-!
# The tally and the counters agree

The tally keys samples by defect and checks by name; the counters key both by the labels with which
they are exposed. Every event is written to both by separate code, and the two never drift apart:
what passed and what failed of a defect or under a name is what is counted under the labels of it,
and no other label of a check exists. Names may be any texts, and two properties whose names are
written alike share an entry in both views.

One event keeps the agreement (`Book.Aligned.record`). Whatever is done to the book is done by
events, so every sequence of recordings, runs of checks and walks keeps it.

Main statement: `Trail.acts_agree`.
-/
namespace FedLoad

/-! ## Parts of a rate -/

/-- The samples of a rate with this outcome. -/
def Rate.part (r : Rate) (passed : Bool) : Nat := if passed then r.passed else r.failed

theorem Rate.part_add {r : Rate} (h : r.failed ≤ r.total) (p q : Bool) :
    (r.add p).part q = r.part q + if q = p then 1 else 0 := by
  cases p <;> cases q <;> simp only [part, add, Rate.passed] <;> grind

/-! ## Counts under labels -/

namespace Counters

theorem resultLabel_injective {p q : Bool} (h : resultLabel p = resultLabel q) : p = q := by
  cases p <;> cases q <;> first | rfl | exact absurd h (by decide)

theorem labels_eq_iff {a b : String} {p q : Bool} :
    [a, resultLabel p] = [b, resultLabel q] ↔ a = b ∧ p = q := by
  rw [List.cons_eq_cons, List.cons_eq_cons, and_iff_left rfl]
  exact and_congr_right' ⟨resultLabel_injective, congrArg _⟩

end Counters

/-! ## Agreement -/

namespace Book

open Counters (countAt resultLabel)

/-- The two views of a run agree. -/
structure Agrees (b : Book) : Prop where
  samples : ∀ d passed, countAt [d.label, resultLabel passed] b.counters.samples =
    (b.tally.byDefect.get d).part passed
  checks : ∀ name passed, countAt [name, resultLabel passed] b.counters.checks =
    ((b.tally.byCheck.lookup name).getD .zero).part passed
  labels : ∀ count ∈ b.counters.checks, ∃ name passed,
    count.1 = [name, resultLabel passed] ∧ (b.tally.byCheck.lookup name).isSome
  iterations : b.counters.iterations = b.tally.iterations
  dropped : b.counters.dropped = b.tally.dropped
  pages : b.counters.pages = b.tally.pages

/-- What the agreement rests on: a balanced tally and labels in ascending order. -/
structure Aligned (b : Book) : Prop extends b.Agrees where
  balanced : b.tally.Balanced
  sampleLabels : Keyed.Ascending b.counters.samples
  checkLabels : Keyed.Ascending b.counters.checks

theorem aligned_empty : empty.Aligned where
  samples d passed := by cases d <;> cases passed <;> rfl
  checks name passed := by cases passed <;> rfl
  labels := by simp [empty, Counters.empty]
  iterations := rfl
  dropped := rfl
  pages := rfl
  balanced := Tally.balanced_empty
  sampleLabels := List.Pairwise.nil
  checkLabels := List.Pairwise.nil

namespace Aligned

variable {b : Book}

theorem sample (h : b.Aligned) (d : Defect) (passed : Bool) :
    (b.record (.sample d passed)).Aligned where
  samples e q := by
    obtain ⟨-, -, hdefects, -⟩ := Tally.forall_rates.1 h.balanced.divided
    rw [record, Counters.record, Tally.record, DefectRates.get_add,
      Counters.countAt_bump h.sampleLabels, h.samples]
    by_cases heq : e = d
    · subst heq
      rw [if_pos rfl, Rate.part_add (hdefects e).failed]
      exact congrArg _ (if_congr (Counters.labels_eq_iff.trans (and_iff_right rfl)) rfl rfl)
    · have hother : [e.label, resultLabel q] ≠ [d.label, resultLabel passed] := fun hlabels =>
        heq (Defect.label_injective (Counters.labels_eq_iff.1 hlabels).1)
      rw [if_neg heq, if_neg hother, Nat.add_zero]
  checks := h.checks
  labels := h.labels
  iterations := h.iterations
  dropped := h.dropped
  pages := h.pages
  balanced := h.balanced.sample d passed
  sampleLabels := Keyed.ascending_alter h.sampleLabels
  checkLabels := h.checkLabels

/-- The entry of a name, none if it was never checked, has no more failures than checks. -/
theorem failed_le (h : b.Aligned) (name : String) :
    ((b.tally.byCheck.lookup name).getD .zero).failed ≤
      ((b.tally.byCheck.lookup name).getD .zero).total := by
  obtain ⟨-, -, -, hnames⟩ := Tally.forall_rates.1 h.balanced.divided
  cases hr : b.tally.byCheck.lookup name with
  | none => exact Nat.le_refl 0
  | some r =>
    obtain ⟨before, after, hpairs, -⟩ := List.lookup_eq_some_iff.1 hr
    exact (hnames (name, r) (hpairs ▸ by simp)).failed

theorem check (h : b.Aligned) (name : String) (passed : Bool) :
    (b.record (.check name passed)).Aligned where
  samples := h.samples
  checks other q := by
    have hnames := Keyed.ascending_iff_lt.2 h.balanced.names
    rw [record, Counters.record, Tally.record, Counters.countAt_bump h.checkLabels, h.checks]
    by_cases heq : other = name
    · subst heq
      rw [Keyed.lookup_alter hnames, Option.getD_some, Rate.part_add (h.failed_le other)]
      exact congrArg _ (if_congr (Counters.labels_eq_iff.trans (and_iff_right rfl)) rfl rfl)
    · have hother : [other, resultLabel q] ≠ [name, resultLabel passed] := fun hlabels =>
        heq (Counters.labels_eq_iff.1 hlabels).1
      rw [Keyed.lookup_alter_of_ne heq, if_neg hother, Nat.add_zero]
  labels count hcount := by
    have hnames := Keyed.ascending_iff_lt.2 h.balanced.names
    rcases Keyed.eq_or_mem_of_mem_alter hcount with hnew | hold
    · exact ⟨name, passed, hnew, by rw [record, Tally.record, Keyed.lookup_alter hnames]; rfl⟩
    · obtain ⟨other, q, hlabels, hsome⟩ := h.labels count hold
      refine ⟨other, q, hlabels, ?_⟩
      rw [record, Tally.record]
      by_cases heq : other = name
      · rw [heq, Keyed.lookup_alter hnames]
        rfl
      · rwa [Keyed.lookup_alter_of_ne heq]
  iterations := h.iterations
  dropped := h.dropped
  pages := h.pages
  balanced := h.balanced.check name passed
  sampleLabels := h.sampleLabels
  checkLabels := Keyed.ascending_alter h.checkLabels

/-- Every event keeps the views in agreement, whatever it is. -/
theorem record (h : b.Aligned) (e : Event) : (b.record e).Aligned := by
  have hbalanced : (b.record e).tally.Balanced := h.balanced.record e
  cases e with
  | sample d passed => exact h.sample d passed
  | check name passed => exact h.check name passed
  | iteration =>
    exact { h with iterations := congrArg (· + 1) h.iterations, balanced := hbalanced }
  | dropped => exact { h with dropped := congrArg (· + 1) h.dropped, balanced := hbalanced }
  | page => exact { h with pages := congrArg (· + 1) h.pages, balanced := hbalanced }
  | latency | request | answered | outage | breach => exact { h with balanced := hbalanced }

theorem recordAll (h : b.Aligned) (events : List Event) : (b.recordAll events).Aligned := by
  induction events generalizing b with
  | nil => exact h
  | cons e rest ih => exact ih (h.record e)

end Aligned

end Book

/-! ## Whatever is done to the book -/

namespace Trail

/-- What may be done to the book of a run: an event is recorded, checks are run on a response, or
something is walked. -/
inductive Act where
  | record (event : Event)
  | check (checks : List Check) (response : Response)
  | fetch (web : Web) (url : String)
  | pages (web : Web) (maxPages : Nat) (url : String) (collection : Json)
  | collection (web : Web) (maxPages : Nat) (url : String)
  | actor (web : Web) (maxPages : Nat) (actor : Actor)
  | setup (web : Web) (actors : List Actor)

/-- The trail after an act. -/
def act (t : Trail) : Act → Trail
  | .record event => t.record event
  | .check checks response => (t.check checks response).2
  | .fetch web url => (t.fetch web url).2
  | .pages web maxPages url collection => (t.pages web maxPages url collection).2
  | .collection web maxPages url => (t.collection web maxPages url).2
  | .actor web maxPages actor => (t.actor web maxPages actor).2
  | .setup web actors => (t.setup web actors).2

theorem book_act (t : Trail) (a : Act) : ∃ events, (t.act a).book = t.book.recordAll events := by
  have hwalked : ∀ {t' : Trail}, t.Walked t' → ∃ events, t'.book = t.book.recordAll events :=
    fun ⟨events, _, hbook⟩ => ⟨events, hbook⟩
  cases a with
  | record event => exact ⟨[event], rfl⟩
  | check checks response => exact hwalked (t.walked_check checks response)
  | fetch web url => exact hwalked (t.walked_fetch web url)
  | pages web maxPages url collection => exact hwalked (t.walked_pagesFrom web _ collection)
  | collection web maxPages url => exact hwalked (t.walked_collection web maxPages url)
  | actor web maxPages actor => exact hwalked (t.walked_actor web maxPages actor)
  | setup web actors => exact hwalked (t.walked_setup web actors)

theorem aligned_acts {t : Trail} (h : t.book.Aligned) (acts : List Act) :
    (acts.foldl act t).book.Aligned := by
  induction acts generalizing t with
  | nil => exact h
  | cons a rest ih =>
    obtain ⟨events, hbook⟩ := t.book_act a
    exact ih (hbook ▸ h.recordAll events)

/-- From an empty book on, whatever is recorded, checked and walked, the tally and the counters
agree. -/
theorem acts_agree (acts : List Act) : (acts.foldl act empty).book.Agrees :=
  (aligned_acts Book.aligned_empty acts).toAgrees

end Trail

end FedLoad
