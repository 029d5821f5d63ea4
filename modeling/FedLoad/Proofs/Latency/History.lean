import FedLoad.Latency.Stats
import FedLoad.Proofs.Latency.Samples
/-!
# Recording and clearing

A histogram is recorded into and cleared in any order. Its counts are those of the values recorded
since it was last cleared, so that the number of values, the mean and every percentile are those of
a new histogram with these values. Its extremes are those of all values ever recorded: clearing does
not forget them, and a smallest or largest value from before shows unless the values since then
reach as far, bucket by bucket.

Main statements: `Histogram.holds_after` and `Histogram.sameReadings_clear_iff`.
-/
namespace FedLoad.Latency

/-! ## Histories -/

/-- A latency as it is recorded. -/
inductive Recording where
  | micros (n : Nat)
  | millis (n : Nat)
deriving DecidableEq, Repr

/-- The value under which it is counted. -/
def Recording.value : Recording → Nat
  | .micros n => tracked n
  | .millis n => tracked (n * 1000)

inductive Use where
  | record (r : Recording)
  | clear
deriving DecidableEq, Repr

namespace Use

def value? : Use → Option Nat
  | .record r => some r.value
  | .clear => none

/-- The values since the last clearing, after one more use. -/
def keep (values : List Nat) : Use → List Nat
  | .record r => values ++ [r.value]
  | .clear => []

end Use

/-- The values recorded since the last clearing. -/
def kept (uses : List Use) : List Nat := uses.foldl Use.keep []

/-- All values ever recorded. -/
def seen (uses : List Use) : List Nat := uses.filterMap Use.value?

theorem foldl_keep_record (values : List Nat) (recordings : List Recording) :
    (recordings.map Use.record).foldl Use.keep values = values ++ recordings.map Recording.value := by
  induction recordings generalizing values with
  | nil => exact (List.append_nil values).symm
  | cons r rest ih =>
    rw [List.map_cons, List.foldl_cons, ih, List.map_cons, Use.keep, List.append_assoc,
      List.singleton_append]

theorem kept_record (recordings : List Recording) :
    kept (recordings.map .record) = recordings.map Recording.value :=
  foldl_keep_record [] recordings

theorem kept_clear (history : List Use) (recordings : List Recording) :
    kept (history ++ .clear :: recordings.map .record) = recordings.map Recording.value := by
  rw [kept, List.foldl_append, List.foldl_cons]
  exact foldl_keep_record [] recordings

theorem seen_record (recordings : List Recording) :
    seen (recordings.map .record) = recordings.map Recording.value := by
  rw [seen, List.filterMap_map, ← List.filterMap_eq_map]
  rfl

theorem seen_clear (history : List Use) (recordings : List Recording) :
    seen (history ++ .clear :: recordings.map .record) =
      seen history ++ recordings.map Recording.value := by
  rw [seen, List.filterMap_append, List.filterMap_cons_none rfl]
  exact congrArg _ (seen_record recordings)

/-- What is kept was recorded last. -/
theorem kept_suffix (uses : List Use) : kept uses <:+ seen uses := by
  suffices h : ∀ values, uses.foldl Use.keep values <:+ values ++ seen uses from h []
  induction uses with
  | nil => exact fun values => ⟨[], (List.append_nil values).symm⟩
  | cons u rest ih =>
    intro values
    cases u with
    | record r =>
      have hrest := ih (values ++ [r.value])
      rw [List.append_assoc] at hrest
      exact hrest
    | clear => exact (ih []).trans (List.suffix_append values (seen rest))

theorem Recording.value_within (r : Recording) : 0 < r.value ∧ r.value ≤ longest := by
  have htracked (n : Nat) : 0 < tracked n ∧ tracked n ≤ longest :=
    ⟨Nat.lt_min.2 ⟨Nat.lt_of_lt_of_le Nat.one_pos (Nat.le_max_right n 1), by decide⟩,
      Nat.min_le_right ..⟩
  cases r <;> exact htracked _

theorem within_of_mem_seen {uses : List Use} {v : Nat} (h : v ∈ seen uses) :
    0 < v ∧ v ≤ longest := by
  obtain ⟨u, -, hu⟩ := List.mem_filterMap.1 h
  cases u with
  | record r =>
    cases hu
    exact r.value_within
  | clear => cases hu

namespace Histogram

/-- The product is held to sixty-four bits only where the value is counted as the longest anyway. -/
theorem tracked_min_wordMax (n : Nat) : tracked (min n wordMax) = tracked n := by
  have hword : longest ≤ wordMax := by decide
  unfold tracked
  omega

def enter (h : Histogram) : Recording → Histogram
  | .micros n => h.record n
  | .millis n => h.recordMillis n

def use (h : Histogram) : Use → Histogram
  | .record r => h.enter r
  | .clear => h.clear

/-- A new histogram after some uses. -/
def after (uses : List Use) : Histogram := uses.foldl use empty

theorem enter_eq (h : Histogram) (r : Recording) :
    h.enter r = ⟨Keyed.bump (bucketLow r.value) 1 h.counts, some (widen r.value h.extremes)⟩ := by
  cases r with
  | micros n => rfl
  | millis n => rw [enter, recordMillis, record, tracked_min_wordMax, Recording.value]

variable {h : Histogram} {values all : List Nat}

theorem Holds.clear (hh : h.Holds values all) : h.clear.Holds [] all where
  ascending := List.Pairwise.nil
  positive := nofun
  counted := List.Perm.refl _
  extremes := hh.extremes

theorem Holds.use (hh : h.Holds values all) (u : Use) :
    (h.use u).Holds (u.keep values) (all ++ u.value?.toList) := by
  cases u with
  | record r =>
    cases r with
    | micros n => exact hh.record n
    | millis n =>
      have hrecord := hh.record (min (n * 1000) wordMax)
      rw [tracked_min_wordMax] at hrecord
      exact hrecord
  | clear => exact (List.append_nil all).symm ▸ hh.clear

theorem Holds.foldl_use (hh : h.Holds values all) (uses : List Use) :
    (uses.foldl Histogram.use h).Holds (uses.foldl Use.keep values)
      (all ++ uses.filterMap Use.value?) := by
  induction uses generalizing h values all with
  | nil => exact (List.append_nil all).symm ▸ hh
  | cons u rest ih =>
    have hrest := ih (hh.use u)
    rw [List.append_assoc] at hrest
    cases u with
    | record r => exact hrest
    | clear => exact hrest

/-- After any uses a histogram holds the values since the last clearing, and has seen all. -/
theorem holds_after (uses : List Use) : (after uses).Holds (kept uses) (seen uses) :=
  holds_empty.foldl_use uses

/-! ## Extremes -/

namespace Holds

theorem least_mem (hh : h.Holds values all) (hall : all ≠ []) :
    ∃ v ∈ all, h.least = bucketLow v := by
  have hextremes := hh.extremes
  rw [least]
  cases hfound : h.extremes with
  | none =>
    rw [hfound] at hextremes
    exact absurd hextremes hall
  | some e =>
    rw [hfound] at hextremes
    exact ⟨e.1, hextremes.1, rfl⟩

theorem most_mem (hh : h.Holds values all) (hall : all ≠ []) :
    ∃ v ∈ all, h.most = bucketHigh v := by
  have hextremes := hh.extremes
  rw [most]
  cases hfound : h.extremes with
  | none =>
    rw [hfound] at hextremes
    exact absurd hextremes hall
  | some e =>
    rw [hfound] at hextremes
    exact ⟨e.2, hextremes.2.1, rfl⟩

theorem within (hh : h.Holds values all) {v : Nat} (hv : v ∈ all) :
    h.least ≤ bucketLow v ∧ bucketHigh v ≤ h.most := by
  have hextremes := hh.extremes
  rw [least, most]
  cases hfound : h.extremes with
  | none =>
    rw [hfound] at hextremes
    cases (hextremes : all = [])
    cases hv
  | some e =>
    rw [hfound] at hextremes
    obtain ⟨hle, hge⟩ := hextremes.2.2 v hv
    exact ⟨bucketLow_mono hle, bucketHigh_mono hge⟩

end Holds

/-! ## Readings after clearing -/

/-- Is every reading of two histograms the same? -/
structure SameReadings (h other : Histogram) : Prop where
  count : h.count = other.count
  least : h.leastMillis = other.leastMillis
  most : h.mostMillis = other.mostMillis
  mean : h.meanMillis = other.meanMillis
  percentile (p : Float) : h.percentileMillis p = other.percentileMillis p
  stats : h.stats = other.stats

variable {other : Histogram}

theorem counted_of_counts (hcounts : h.counts = other.counts) :
    h.isEmpty = other.isEmpty ∧ h.count = other.count ∧ h.mean Float = other.mean Float ∧
      ∀ q, h.quantile q = other.quantile q := by
  obtain ⟨counts, extremes⟩ := h
  obtain ⟨counts', extremes'⟩ := other
  obtain rfl : counts = counts' := hcounts
  exact ⟨rfl, rfl, rfl, fun _ => rfl⟩

theorem readings_of_counts (hcounts : h.counts = other.counts) :
    h.count = other.count ∧ h.meanMillis = other.meanMillis ∧
      ∀ p, h.percentileMillis p = other.percentileMillis p := by
  obtain ⟨hempty, hcount, hmean, hquantile⟩ := counted_of_counts hcounts
  refine ⟨hcount, ?_, fun p => ?_⟩
  · rw [meanMillis, meanMillis, reading, reading, hempty, hmean]
  · rw [percentileMillis, percentileMillis, reading, reading, hempty, hquantile]

/-- With the same counts, only the extremes can be told apart, and only if there are any. -/
theorem sameReadings_iff (hcounts : h.counts = other.counts) :
    SameReadings h other ↔ h.isEmpty = true ∨ h.least = other.least ∧ h.most = other.most := by
  obtain ⟨hempty, hcount, hmean, hquantile⟩ := counted_of_counts hcounts
  obtain ⟨-, hmean', hpercentile⟩ := readings_of_counts hcounts
  cases hnone : h.isEmpty with
  | true =>
    have hreading {α : Type} (value value' : α) : h.reading value = other.reading value' := by
      rw [reading, reading, ← hempty, hnone, if_pos rfl, if_pos rfl]
    exact iff_of_true
      ⟨hcount, hreading _ _, hreading _ _, hmean', hpercentile, hreading _ _⟩ (.inl rfl)
  | false =>
    have hread {α : Type} (value value' : α) (hsame : h.reading value = other.reading value') :
        value = value' := by
      rw [reading, reading, ← hempty, hnone, if_neg Bool.false_ne_true, if_neg Bool.false_ne_true]
        at hsame
      exact Option.some_inj.1 hsame
    constructor
    · intro hsame
      have hstats := hread _ _ hsame.stats
      exact .inr ⟨congrArg Stats.least hstats, congrArg Stats.most hstats⟩
    · rintro (hcontra | ⟨hleast, hmost⟩)
      · cases hcontra
      · refine ⟨hcount, ?_, ?_, hmean', hpercentile, ?_⟩
        · rw [leastMillis, leastMillis, reading, reading, hempty, hleast]
        · rw [mostMillis, mostMillis, reading, reading, hempty, hmost]
        · simp only [stats, reading, hempty, hcount, hleast, hmost, hmean, hquantile]

/-- The extremes of what was seen before do not show exactly if later values reach as far. -/
theorem Holds.extremes_eq_iff {before : List Nat} (hh : h.Holds values (before ++ values))
    (hother : other.Holds values values) (hvalues : values ≠ []) :
    h.least = other.least ∧ h.most = other.most ↔
      ∀ v ∈ before, (∃ w ∈ values, bucketLow w ≤ bucketLow v) ∧
        ∃ w ∈ values, bucketHigh v ≤ bucketHigh w := by
  have hall : before ++ values ≠ [] := List.append_ne_nil_of_right_ne_nil before hvalues
  obtain ⟨a, ha, hleast⟩ := hother.least_mem hvalues
  obtain ⟨b, hb, hmost⟩ := hother.most_mem hvalues
  constructor
  · rintro ⟨heq, heq'⟩ v hv
    obtain ⟨hlow, hhigh⟩ := hh.within (List.mem_append_left values hv)
    rw [heq, hleast] at hlow
    rw [heq', hmost] at hhigh
    exact ⟨⟨a, ha, hlow⟩, b, hb, hhigh⟩
  · intro hreached
    obtain ⟨c, hc, hleast'⟩ := hh.least_mem hall
    obtain ⟨d, hd, hmost'⟩ := hh.most_mem hall
    constructor
    · refine Nat.le_antisymm (hleast ▸ (hh.within (List.mem_append_right before ha)).1) ?_
      rw [hleast']
      rcases List.mem_append.1 hc with hc | hc
      · obtain ⟨w, hw, hle⟩ := (hreached c hc).1
        exact Nat.le_trans (hother.within hw).1 hle
      · exact (hother.within hc).1
    · refine Nat.le_antisymm ?_ (hmost ▸ (hh.within (List.mem_append_right before hb)).2)
      rw [hmost']
      rcases List.mem_append.1 hd with hd | hd
      · obtain ⟨w, hw, hle⟩ := (hreached d hd).2
        exact Nat.le_trans hle (hother.within hw).2
      · exact (hother.within hd).2

/-- Once it is cleared, a histogram counts what is recorded like a new one: the number of values, the
mean and every percentile are the same. All its readings are the same exactly if nothing is recorded
yet, or no value from before the clearing lies in a bucket below or above those of all values
recorded since. -/
theorem sameReadings_clear_iff (history : List Use) (recordings : List Recording) :
    let cleared := after (history ++ .clear :: recordings.map .record)
    let new := after (recordings.map .record)
    let values := recordings.map Recording.value
    (cleared.count = new.count ∧ cleared.meanMillis = new.meanMillis ∧
      ∀ p, cleared.percentileMillis p = new.percentileMillis p) ∧
    (SameReadings cleared new ↔ recordings = [] ∨
      ∀ v ∈ seen history, (∃ w ∈ values, bucketLow w ≤ bucketLow v) ∧
        ∃ w ∈ values, bucketHigh v ≤ bucketHigh w) := by
  intro cleared new values
  have hcleared : cleared.Holds values (seen history ++ values) := by
    have hholds := holds_after (history ++ .clear :: recordings.map .record)
    rwa [kept_clear, seen_clear] at hholds
  have hnew : new.Holds values values := by
    have hholds := holds_after (recordings.map .record)
    rwa [kept_record, seen_record] at hholds
  have hcounts : cleared.counts = new.counts := hcleared.counts_eq.trans hnew.counts_eq.symm
  have hempty : cleared.isEmpty = true ↔ recordings = [] := by
    rw [hcleared.isEmpty_eq, List.isEmpty_iff, List.map_eq_nil_iff]
  refine ⟨readings_of_counts hcounts, ?_⟩
  rw [sameReadings_iff hcounts, hempty]
  by_cases hnil : recordings = []
  · exact iff_of_true (.inl hnil) (.inl hnil)
  · rw [or_iff_right hnil, or_iff_right hnil]
    exact hcleared.extremes_eq_iff hnew (mt List.map_eq_nil_iff.1 hnil)

/-- A value from before the clearing remains the largest. -/
theorem not_sameReadings_clear :
    ¬ SameReadings (after [.record (.millis 2), .clear, .record (.millis 1)])
      (after [.record (.millis 1)]) := by
  intro hsame
  have hmost := congrArg (Option.map Stats.most) hsame.stats
  exact absurd hmost (by decide +kernel)

end Histogram

end FedLoad.Latency
