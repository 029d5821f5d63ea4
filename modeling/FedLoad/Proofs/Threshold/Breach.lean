import FedLoad.Threshold.Basic
/-!
# Breaches during a run

The watcher looks only at thresholds that may abort the run and whose delay is over, and it finds a
breach just if one of them fails on the tally that it looks at. What it finds is the first of these
in the order of the list, with the outcome that the verdict gives it on the same tally.

Thresholds that are not watched play no part: lists that differ in such thresholds only have the same
breach. And as a delay that is over stays over, a tally with a breach has one at every later time,
though perhaps another threshold comes first by then.

Main statements: `isSome_breach?_iff`, and `breach?_agrees` for the rest.
-/
namespace FedLoad.Threshold

theorem isWatched_iff {t : Threshold} {elapsed : Span} :
    t.isWatched elapsed ↔ t.aborts ∧ t.delay ≤ elapsed := by
  rw [isWatched, Bool.and_eq_true, decide_eq_true_eq]

theorem isSome_breach?_iff {thresholds : List Threshold} {tally : Tally} {elapsed : Span} :
    (breach? thresholds tally elapsed).isSome ↔
      ∃ t ∈ thresholds, t.aborts ∧ t.delay ≤ elapsed ∧ ¬ (t.evaluate tally).passed := by
  unfold breach?
  rw [List.find?_isSome]
  simp only [List.mem_map, List.mem_filter, isWatched_iff]
  constructor
  · rintro ⟨-, ⟨t, ⟨hmem, haborts, hdelay⟩, rfl⟩, hfails⟩
    exact ⟨t, hmem, haborts, hdelay, by simpa using hfails⟩
  · rintro ⟨t, hmem, haborts, hdelay, hfails⟩
    exact ⟨_, ⟨t, ⟨hmem, haborts, hdelay⟩, rfl⟩, by simpa using hfails⟩

/-- A threshold that aborts, and fails until a check has been run. -/
def anyCheck : Threshold := ⟨.checks, ⟨.count, .gt, 0.0⟩, "count > 0", true, .zero⟩

/-! ## The breach and the verdict -/

variable {thresholds others : List Threshold} {tally : Tally} {elapsed later : Span} {t : Threshold}

/-- Is this threshold watched by now, and does it fail? -/
def FailsWatched (tally : Tally) (elapsed : Span) (t : Threshold) : Prop :=
  t.aborts ∧ t.delay ≤ elapsed ∧ ¬ (t.evaluate tally).passed

/-- A breach is looked for among the thresholds first, and evaluated when it is found. -/
theorem breach?_eq : breach? thresholds tally elapsed =
    (thresholds.find? fun t => t.isWatched elapsed && !(t.evaluate tally).passed).map
      fun t => (t, t.evaluate tally) := by
  rw [breach?, List.find?_map, List.find?_filter]
  congr 2
  funext t
  rw [Bool.decide_and, Bool.decide_eq_true, Bool.decide_eq_true]
  rfl

/-- A breach is the first outcome of the verdict that is a watched failure. -/
theorem breach?_eq_find?_outcomes : breach? thresholds tally elapsed =
    (outcomes thresholds tally).find? fun (t, o) => t.isWatched elapsed && !o.passed := by
  rw [breach?_eq, outcomes, List.find?_map]
  rfl

theorem failsWatched_iff :
    (t.isWatched elapsed && !(t.evaluate tally).passed) = true ↔ FailsWatched tally elapsed t := by
  rw [Bool.and_eq_true, isWatched_iff, and_assoc, Bool.not_eq_true', ← Bool.not_eq_true]
  rfl

theorem breach?_eq_none_iff : breach? thresholds tally elapsed = none ↔
    ∀ t ∈ thresholds, t.aborts → t.delay ≤ elapsed → (t.evaluate tally).passed := by
  simp only [breach?_eq, Option.map_eq_none_iff, List.find?_eq_none, failsWatched_iff, FailsWatched,
    not_and, Decidable.not_not]

theorem breach?_eq_some_iff {o : Outcome} : breach? thresholds tally elapsed = some (t, o) ↔
    o = t.evaluate tally ∧ FailsWatched tally elapsed t ∧
      ∃ before after, thresholds = before ++ t :: after ∧
        ∀ s ∈ before, ¬ FailsWatched tally elapsed s := by
  rw [breach?_eq, Option.map_eq_some_iff]
  simp only [List.find?_eq_some_iff_append, failsWatched_iff, Bool.not_eq_true',
    ← Bool.not_eq_true]
  constructor
  · rintro ⟨_, ⟨hfails, before, after, hlist, hfirst⟩, ⟨⟩⟩
    exact ⟨rfl, hfails, before, after, hlist, hfirst⟩
  · rintro ⟨rfl, hfails, before, after, hlist, hfirst⟩
    exact ⟨t, ⟨hfails, before, after, hlist, hfirst⟩, rfl⟩

/-! ## What has no part in it -/

/-- Do two lists have the same watched thresholds in the same order? Others may be added and removed,
and be changed thereby into others that are not watched. -/
inductive WatchAlike (elapsed : Span) : List Threshold → List Threshold → Prop
  | nil : WatchAlike elapsed [] []
  | both {ts us : List Threshold} (t : Threshold) (h : WatchAlike elapsed ts us) :
      WatchAlike elapsed (t :: ts) (t :: us)
  | added {ts us : List Threshold} {t : Threshold} (ht : ¬ (t.aborts ∧ t.delay ≤ elapsed))
      (h : WatchAlike elapsed ts us) : WatchAlike elapsed ts (t :: us)
  | removed {ts us : List Threshold} {t : Threshold} (ht : ¬ (t.aborts ∧ t.delay ≤ elapsed))
      (h : WatchAlike elapsed ts us) : WatchAlike elapsed (t :: ts) us

theorem breach?_cons_of_not_watched (h : ¬ (t.aborts ∧ t.delay ≤ elapsed)) :
    breach? (t :: thresholds) tally elapsed = breach? thresholds tally elapsed := by
  rw [breach?, List.filter_cons_of_neg (mt isWatched_iff.1 h)]
  rfl

theorem WatchAlike.breach?_eq (h : WatchAlike elapsed thresholds others) :
    breach? others tally elapsed = breach? thresholds tally elapsed := by
  induction h with
  | nil => rfl
  | both t _ ih =>
    rw [Threshold.breach?_eq, Threshold.breach?_eq] at ih ⊢
    rw [List.find?_cons, List.find?_cons]
    split
    · rfl
    · exact ih
  | added ht _ ih => exact (breach?_cons_of_not_watched ht).trans ih
  | removed ht _ ih => exact ih.trans (breach?_cons_of_not_watched ht).symm

theorem isSome_breach?_of_le (hle : elapsed ≤ later)
    (h : (breach? thresholds tally elapsed).isSome) :
    (breach? thresholds tally later).isSome := by
  obtain ⟨t, hmem, haborts, hdelay, hfails⟩ := isSome_breach?_iff.1 h
  exact isSome_breach?_iff.2 ⟨t, hmem, haborts, Nat.le_trans hdelay hle, hfails⟩

/-- The watcher agrees with the verdict. There is no breach exactly if every watched threshold passes,
else it is the first one that fails, with its outcome in the verdict. Thresholds that are not watched
have no part in it, and on the same tally there is a breach ever after. -/
theorem breach?_agrees (thresholds : List Threshold) (tally : Tally) (elapsed : Span) :
    breach? thresholds tally elapsed =
        (outcomes thresholds tally).find? (fun (t, o) => t.isWatched elapsed && !o.passed) ∧
      (breach? thresholds tally elapsed = none ↔
        ∀ t ∈ thresholds, t.aborts → t.delay ≤ elapsed → (t.evaluate tally).passed) ∧
      (∀ t o, breach? thresholds tally elapsed = some (t, o) ↔
        o = t.evaluate tally ∧ FailsWatched tally elapsed t ∧
          ∃ before after, thresholds = before ++ t :: after ∧
            ∀ s ∈ before, ¬ FailsWatched tally elapsed s) ∧
      (∀ others, WatchAlike elapsed thresholds others →
        breach? others tally elapsed = breach? thresholds tally elapsed) ∧
      ∀ later, elapsed ≤ later → (breach? thresholds tally elapsed).isSome →
        (breach? thresholds tally later).isSome :=
  ⟨breach?_eq_find?_outcomes, breach?_eq_none_iff, fun _ _ => breach?_eq_some_iff,
    fun _ h => h.breach?_eq, fun _ => isSome_breach?_of_le⟩

/-- Before the run a check is missing. Of two thresholds that ask for one, the first is still delayed
after a second; it is a breach no sooner, and the second one is found without it as well. -/
theorem breach?_agrees_delayed :
    let delayed : Threshold := { anyCheck with delay := .ofSeconds 5 }
    WatchAlike (.ofSeconds 1) [delayed, anyCheck] [anyCheck] ∧
      breach? [delayed, anyCheck] .empty (.ofSeconds 1) =
        some (anyCheck, anyCheck.evaluate .empty) ∧
      breach? [anyCheck] .empty (.ofSeconds 1) = some (anyCheck, anyCheck.evaluate .empty) ∧
      (breach? [delayed, anyCheck] .empty (.ofSeconds 5)).isSome := by
  intro delayed
  have hwatched : ¬ (delayed.aborts ∧ delayed.delay ≤ Span.ofSeconds 1) := by decide
  have halike : WatchAlike (.ofSeconds 1) [delayed, anyCheck] [anyCheck] :=
    .removed hwatched (.both anyCheck .nil)
  have hfails : FailsWatched .empty (.ofSeconds 1) anyCheck := by
    unfold FailsWatched
    decide +kernel
  obtain ⟨-, -, hsome, hothers, hlater⟩ :=
    breach?_agrees [delayed, anyCheck] .empty (.ofSeconds 1)
  have hbreach := (hsome anyCheck _).2
    ⟨rfl, hfails, [delayed], [], rfl, fun s hs hs' => hwatched (by
      obtain rfl := List.mem_singleton.1 hs
      exact ⟨hs'.1, hs'.2.1⟩)⟩
  refine ⟨halike, hbreach, (hothers _ halike).trans hbreach, hlater (.ofSeconds 5) (by decide) ?_⟩
  rw [hbreach]
  rfl

end FedLoad.Threshold
