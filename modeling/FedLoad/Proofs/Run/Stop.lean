import FedLoad.Proofs.Except
import FedLoad.Proofs.Run.Clock
import FedLoad.Proofs.Run.Slots
/-!
# Iterations that are told to stop

A run is stopped once, by the flag or because the wait for the iterations under way is over
(`Step.stops`). What is then in flight is counted as interrupted: the iterations that hold a slot,
and those that have ended and are not collected yet.

Up to that moment every iteration that was started holds a slot or is completed. So every started
iteration is counted as completed or as interrupted, and those are counted as both that had ended
uncollected when the count was made, or that end after it before they are told to stop.

Main statement: `started_accounted_iff`.
-/
namespace FedLoad

/-- Have the iterations under way been told to stop? -/
def Phase.isStopped : Phase → Bool
  | .stopping | .over => true
  | .looking | .waiting | .dispatching _ | .draining => false

theorem Phase.isPast_of_isStopped {p : Phase} (h : p.isStopped) : p.isPast := by
  cases p <;> first | rfl | cases h

namespace Run

/-! ## The stop -/

/-- A run is stopped by the flag, or by the end of the wait for the iterations under way. -/
theorem Step.stops {r r' : Run} {m : Move} (h : Step r m r') (hgoing : ¬ r.phase.isStopped)
    (hstopped : r'.phase.isStopped) :
    (m = .look ∨ m = .abort) ∧ r' = { r with aborted := true }.stop ∨
      (m = .drained ∨ m = .expire) ∧ r.phase = .draining ∧ r' = r.stop := by
  cases h with
  | lookUp => exact .inl ⟨.inl rfl, rfl⟩
  | abort => exact .inl ⟨.inr rfl, rfl⟩
  | drained hphase => exact .inr ⟨.inl rfl, hphase, rfl⟩
  | expire hphase => exact .inr ⟨.inr rfl, hphase, rfl⟩
  | finish hphase => exact absurd (hphase ▸ rfl) hgoing
  | look | tick | start | drop | dispatched | notice | collectWaiting | close => cases hstopped
  | collect | cancel | discard | wake | note | complete | watchBreach | watch | leave | raise =>
    exact absurd hstopped hgoing

/-- After the stop neither the count of what was interrupted nor the verdict on it changes. -/
theorem Step.stopped {r r' : Run} {m : Move} (h : Step r m r') (hstopped : r.phase.isStopped) :
    r'.phase.isStopped ∧ r'.interrupted = r.interrupted ∧ r'.aborted = r.aborted := by
  cases h with
  | finish => exact ⟨rfl, rfl, rfl⟩
  | collect | cancel | discard | wake | note | complete | watchBreach | watch | leave | raise =>
    exact ⟨hstopped, rfl, rfl⟩
  | look hphase | lookUp hphase | tick hphase | start hphase | drop hphase | dispatched hphase
  | notice hphase | collectWaiting hphase | close hphase | drained hphase | expire hphase
  | abort hphase =>
    rw [hphase] at hstopped
    cases hstopped

theorem play?_stopped {r r' : Run} {moves : List Move} (h : r.play? moves = some r')
    (hstopped : r.phase.isStopped) :
    r'.phase.isStopped ∧ r'.interrupted = r.interrupted ∧ r'.aborted = r.aborted := by
  refine play?_keeps (P := fun s =>
    s.phase.isStopped ∧ s.interrupted = r.interrupted ∧ s.aborted = r.aborted) ?_
    ⟨hstopped, rfl, rfl⟩ h
  rintro s s' m ⟨hstill, hinterrupted, haborted⟩ hstep
  obtain ⟨hstays, hcount, hverdict⟩ := hstep.stopped hstill
  exact ⟨hstays, hcount.trans hinterrupted, hverdict.trans haborted⟩

/-! ## Completed iterations -/

/-- An iteration is entered as completed when it ends, and at no other time. -/
theorem Step.iterations {r r' : Run} {m : Move} (h : Step r m r') :
    r'.book.tally.iterations = r.book.tally.iterations + if m = .complete then 1 else 0 := by
  cases h with
  | note _ hwalk => exact (record_of_walk hwalk r.book).1
  | _ => rfl

theorem play?_iterations {r r' : Run} {moves : List Move} (h : r.play? moves = some r') :
    r'.book.tally.iterations = r.book.tally.iterations + moves.count .complete := by
  induction moves generalizing r with
  | nil => exact Option.some.inj h ▸ rfl
  | cons m rest ih =>
    obtain ⟨s, hstep, hrest⟩ := play?_cons_eq_some.1 h
    have hone := (step_of_step? hstep).iterations
    have hmore := ih hrest
    rw [List.count_cons]
    simp only [beq_iff_eq]
    omega

/-! ## Before the stop -/

/-- How a run stands that has not been stopped since its beginning. -/
structure Going (first r : Run) : Prop where
  /-- A started iteration holds a slot or is completed. -/
  started : first.book.tally.iterations + r.started = r.running + r.book.tally.iterations
  aborted : r.aborted = false

namespace Going

variable {first r r' : Run} {m : Move}

theorem step (hsound : Sound first r) (h : ¬ r.phase.isStopped → Going first r)
    (hstep : Step r m r') (hgoing : ¬ r'.phase.isStopped) : Going first r' := by
  have hbefore : ¬ r.phase.isStopped := fun hstopped => hgoing (hstep.stopped hstopped).1
  have hstarted := (h hbefore).started
  have haborted := (h hbefore).aborted
  cases hstep with
  | start =>
    have hmore : first.book.tally.iterations + (r.started + 1) =
        r.running + 1 + r.book.tally.iterations := by omega
    exact ⟨hmore, haborted⟩
  | note _ hwalk => exact ⟨(record_of_walk hwalk r.book).1 ▸ hstarted, haborted⟩
  | complete hawake =>
    -- what ends was awake, so it held a slot
    have hasleep := hsound.awake
    have hmoved : first.book.tally.iterations + r.started =
        r.running - 1 + (r.book.tally.iterations + 1) := by omega
    exact ⟨hmoved, haborted⟩
  -- these stop the run, and those are open only after the stop
  | lookUp | drained | expire | abort | finish => exact absurd rfl hgoing
  | cancel hphase | discard hphase => exact absurd (hphase ▸ rfl) hbefore
  | look | tick | drop | dispatched | notice | collectWaiting | collect | close | wake | watchBreach
  | watch | leave | raise =>
    exact ⟨hstarted, haborted⟩

end Going

theorem play?_going {maxUsers : Nat} {thresholds : List Threshold} {book : Book}
    {moves : List Move} {r : Run} (h : (begin maxUsers thresholds book).play? moves = some r)
    (hgoing : ¬ r.phase.isStopped) : Going (begin maxUsers thresholds book) r := by
  let first := begin maxUsers thresholds book
  have hboth : Sound first r ∧ (¬ r.phase.isStopped → Going first r) := by
    refine play?_keeps (P := fun s => Sound first s ∧ (¬ s.phase.isStopped → Going first s)) ?_
      ⟨sound_begin maxUsers thresholds book 0, fun _ => ⟨?_, rfl⟩⟩ h
    · rintro s s' m ⟨hsound, hwhile⟩ hstep
      exact ⟨hsound.step hstep, Going.step hsound hwhile hstep⟩
    · exact (Nat.zero_add _).symm
  exact hboth.2 hgoing

/-! ## The count -/

/-- In the state `s` the dispatcher counts what is in flight and tells it to stop, and the moves
`after` follow. -/
def Counts (first : Run) (moves : List Move) (s : Run) (after : List Move) : Prop :=
  ∃ before m s', moves = before ++ m :: after ∧ first.play? before = some s ∧
    s.step? m = some s' ∧ ¬ s.phase.isStopped ∧ s'.phase.isStopped

/-- The count made in `s` takes in what has ended uncollected, and what is yet to be completed. -/
theorem accounted_of_counts {maxUsers : Nat} {thresholds : List Threshold} {book : Book}
    {moves after : List Move} {r s : Run}
    (h : (begin maxUsers thresholds book).play? moves = some r)
    (hcounts : Counts (begin maxUsers thresholds book) moves s after) :
    r.book.tally.iterations + r.interrupted =
      book.tally.iterations + r.started + (s.ended + after.count .complete) := by
  obtain ⟨before, m, s', rfl, hbefore, hmove, hgoing, hstopped⟩ := hcounts
  have hafter := play?_after h hbefore hmove
  have hstarted := (play?_going hbefore hgoing).started
  have hsettled := (play?_stopped hafter hstopped).2.1
  have hpast := (play?_past hafter (Phase.isPast_of_isStopped hstopped)).1
  have hcompleted := play?_iterations hafter
  -- both ways to stop make the same count, and change nothing of what it is compared with
  have hstop : s'.started = s.started ∧ s'.interrupted = s.running + s.ended ∧
      s'.book.tally.iterations = s.book.tally.iterations := by
    rcases (step_of_step? hmove).stops hgoing hstopped with ⟨-, rfl⟩ | ⟨-, -, rfl⟩ <;>
      exact ⟨rfl, rfl, rfl⟩
  change book.tally.iterations + s.started = _ at hstarted
  omega

/-- When a run is over what is in flight has been counted, and the completed and the interrupted
iterations together are the started ones just if none of those that were counted had ended, and none
of them is completed after the count. Each that is so makes one more. -/
theorem started_accounted_iff {maxUsers : Nat} {thresholds : List Threshold} {book : Book}
    {moves : List Move} {r : Run} (h : (begin maxUsers thresholds book).play? moves = some r)
    (hover : r.phase = .over) :
    (∃ s after, Counts (begin maxUsers thresholds book) moves s after) ∧
    ∀ s after, Counts (begin maxUsers thresholds book) moves s after →
      r.book.tally.iterations + r.interrupted =
        book.tally.iterations + r.started + (s.ended + after.count .complete) ∧
      (book.tally.iterations + r.started = r.book.tally.iterations + r.interrupted ↔
        s.ended = 0 ∧ .complete ∉ after) := by
  constructor
  · obtain ⟨before, m, after, s, s', hmoves, hbefore, hmove, -, hgoing, hstopped⟩ :=
      exists_change (Q := fun s => s.phase.isStopped) h nofun (hover ▸ rfl)
    exact ⟨s, after, before, m, s', hmoves, hbefore, hmove, hgoing, hstopped⟩
  · intro s after hcounts
    have hsum := accounted_of_counts h hcounts
    refine ⟨hsum, ?_⟩
    rw [← List.count_eq_zero]
    omega

/-- Of two iterations in flight one has ended when they are counted, and the other is completed
after the count: both are counted twice. -/
theorem started_accounted_iff_bothEnd :
    ∃ moves r, (begin 2 [] .empty).play? moves = some r ∧ r.phase = .over ∧
      (∃ s after, Counts (begin 2 [] .empty) moves s after) ∧
      ∀ s after, Counts (begin 2 [] .empty) moves s after →
        r.book.tally.iterations + r.interrupted = 0 + r.started + (s.ended + after.count .complete) ∧
        (0 + r.started = r.book.tally.iterations + r.interrupted ↔
          s.ended = 0 ∧ .complete ∉ after) :=
  have h : (begin 2 [] .empty).play?
      [.look, .tick 2, .dispatch, .dispatch, .dispatched, .wake, .wake, .look, .complete, .raise,
        .notice, .look, .complete, .collect, .collect, .finish] =
      some { begin 2 [] ((Book.empty.record .iteration).record .iteration) with
        phase := .over, raised := true, started := 2, interrupted := 2, aborted := true } := rfl
  ⟨_, _, h, rfl, started_accounted_iff h rfl⟩

/-- Two iterations come due after a tenth of a second, and each takes twenty milliseconds. -/
def twoAtOnce : Schedule where
  model := .ramping 0.0 (.ofSeconds 1)
    [⟨0.0, .ofMillis 1⟩, ⟨20.0, .zero⟩, ⟨20.0, .ofSeconds 1⟩]
  gracefulStop := .ofSeconds 1
  pauses := [.ofMillis 20]
  events := []

/-- The completed and the interrupted iterations need not add up to the started ones: where the flag
is raised at the instant at which the iterations end, each of them is both. -/
theorem started_not_accounted : ¬ ∀ (maxUsers : Nat) (thresholds : List Threshold) (book : Book)
    (moves : List Move) (r : Run), (begin maxUsers thresholds book).play? moves = some r →
      r.phase = .over →
      book.tally.iterations + r.started = r.book.tally.iterations + r.interrupted := by
  intro haccounted
  have hrun : (((begin 4 [] .empty).playOnClock twoAtOnce
      (.once (.ofMillis 120))).toOption.any fun t => decide (t.run.phase = .over ∧
        t.run.started = 2 ∧ t.run.book.tally.iterations = 2 ∧ t.run.interrupted = 2)) = true := by
    decide +kernel
  obtain ⟨t, hplay, hend⟩ := any_toOption.1 hrun
  obtain ⟨hover, hstarted, hcompleted, hinterrupted⟩ := of_decide_eq_true hend
  obtain ⟨moves, hmoves⟩ := playOnClock_leads hplay
  have hsum := haccounted 4 [] .empty moves t.run hmoves hover
  rw [hstarted, hcompleted, hinterrupted] at hsum
  cases hsum

end Run

end FedLoad
