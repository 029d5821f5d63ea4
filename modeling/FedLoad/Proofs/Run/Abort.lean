import FedLoad.Proofs.Run.Stop
import FedLoad.Proofs.Threshold.Breach
/-!
# Aborted runs

A run is aborted when the dispatcher notices the flag, so only after the flag was raised, and the
flag is never lowered. If nobody but the watcher raises it, the watcher has found a breach
(`breach_of_aborted`); where no threshold aborts it has nothing to look at, and that it goes away
raises nothing.

While the dispatcher waits for the iterations under way it may notice the flag. It may also end its
wait by itself, when nothing is in flight any more or the time is over, and then it does not look at
the flag, even if it is up. Just then an abort is lost (`abort_kept_iff`).
-/
namespace FedLoad.Run

variable {r r' : Run} {m : Move} {moves : List Move}

/-! ## The flag -/

theorem Step.thresholds (h : Step r m r') : r'.thresholds = r.thresholds := by
  cases h <;> rfl

theorem play?_thresholds (h : r.play? moves = some r') : r'.thresholds = r.thresholds :=
  play?_keeps (P := fun s => s.thresholds = r.thresholds)
    (fun hs hstep => hstep.thresholds.trans hs) rfl h

theorem Step.raised (h : Step r m r') (hup : r.raised) : r'.raised := by
  cases h with
  | watchBreach | raise => rfl
  | _ => exact hup

theorem play?_raised (h : r.play? moves = some r') (hup : r.raised) : r'.raised :=
  play?_keeps (P := fun s => s.raised) (fun hs hstep => hstep.raised hs) hup h

/-- The flag is raised by a breach or by somebody else. -/
theorem Step.raises (h : Step r m r') (hdown : ¬ r.raised) (hup : r'.raised) :
    m = .raise ∨ ∃ elapsed, m = .watch elapsed ∧
      (Threshold.breach? r.thresholds r.book.tally elapsed).isSome := by
  cases h with
  | raise => exact .inl rfl
  | watchBreach _ _ hbreach => exact .inr ⟨_, rfl, hbreach⟩
  | _ => exact absurd hup hdown

/-- Only with the flag up is a run aborted. -/
theorem Step.raised_of_aborted (h : Step r m r') (hflag : r.aborted → r.raised)
    (haborted : r'.aborted) : r'.raised := by
  cases h with
  | lookUp _ hup | abort _ hup => exact hup
  | watchBreach | raise => rfl
  | _ => exact hflag haborted

section Begun

variable {maxUsers : Nat} {thresholds : List Threshold} {book : Book}

theorem raised_of_aborted (h : (begin maxUsers thresholds book).play? moves = some r)
    (haborted : r.aborted) : r.raised := by
  refine play?_keeps (P := fun s => s.aborted → s.raised) ?_ ?_ h haborted
  · exact fun hs hstep => hstep.raised_of_aborted hs
  · exact nofun

/-! ## Breaches -/

/-- The watcher looks at the thresholds and finds one that aborts the run, whose delay is over, and
that fails on the tally of this moment. -/
def FindsBreach (thresholds : List Threshold) (s : Run) (m : Move) (_ : Run) : Prop :=
  ∃ elapsed, m = .watch elapsed ∧ ∃ t ∈ thresholds,
    t.aborts ∧ t.delay ≤ elapsed ∧ ¬ (t.evaluate s.book.tally).passed

theorem findsBreach_of_raised (honly : .raise ∉ moves)
    (h : (begin maxUsers thresholds book).play? moves = some r) (hup : r.raised) :
    (begin maxUsers thresholds book).Makes moves (FindsBreach thresholds) := by
  obtain ⟨before, m, after, s, s', hmoves, hbefore, hmove, -, hdown, hraised⟩ :=
    exists_change (Q := fun s => s.raised) h nofun hup
  refine ⟨before, m, after, s, s', hmoves, hbefore, hmove, ?_⟩
  rcases (step_of_step? hmove).raises hdown hraised with rfl | ⟨elapsed, rfl, hbreach⟩
  · exact absurd (hmoves ▸ by simp) honly
  · rw [play?_thresholds hbefore, Threshold.isSome_breach?_iff] at hbreach
    exact ⟨elapsed, rfl, hbreach⟩

/-- Where no threshold aborts, the watcher looks at none. -/
theorem Step.mayAbort_of_watch {elapsed : Span} (h : Step r (.watch elapsed) r') : r.mayAbort := by
  cases h with
  | watchBreach _ hmay | watch _ hmay => exact hmay

/-- A run in which only the watcher raises the flag is aborted for a breach that the watcher has
found. Where no threshold aborts, the watcher can go away at once and looks at nothing, and the run
is not aborted. -/
theorem breach_of_aborted (honly : .raise ∉ moves)
    (h : (begin maxUsers thresholds book).play? moves = some r) :
    (r.aborted → (begin maxUsers thresholds book).Makes moves (FindsBreach thresholds)) ∧
    ((∀ t ∈ thresholds, ¬ t.aborts) → r.aborted = false ∧ (∀ elapsed, .watch elapsed ∉ moves) ∧
      (begin maxUsers thresholds book).step? .leave =
        some { begin maxUsers thresholds book with watched := false }) := by
  have hbreach := fun haborted => findsBreach_of_raised honly h (raised_of_aborted h haborted)
  refine ⟨hbreach, fun hnone => ?_⟩
  have hmay : (begin maxUsers thresholds book).mayAbort = false := by
    simpa [mayAbort, begin] using hnone
  refine ⟨?_, fun elapsed hwatch => ?_, ?_⟩
  · refine Bool.eq_false_iff.2 fun haborted => ?_
    obtain ⟨-, -, -, elapsed, -, t, hmem, haborts, -⟩ := (hbreach haborted).found
    exact hnone t hmem haborts
  · obtain ⟨before, after, rfl⟩ := List.append_of_mem hwatch
    obtain ⟨s, s', hbefore, hmove, -⟩ := play?_split h
    have hlooks : s.thresholds.any (·.aborts) := (step_of_step? hmove).mayAbort_of_watch
    rw [play?_thresholds hbefore] at hlooks
    exact absurd (hmay.symm.trans hlooks) nofun
  · exact if_pos ⟨rfl, .inl (Bool.eq_false_iff.1 hmay)⟩

/-- The watcher finds a breach at its first look, and the run is aborted for it. -/
theorem breach_of_aborted_firstLook :
    ∃ moves r, .raise ∉ moves ∧
      (begin 1 [Threshold.anyCheck] .empty).play? moves = some r ∧ r.aborted ∧
      (begin 1 [Threshold.anyCheck] .empty).Makes moves (FindsBreach [Threshold.anyCheck]) :=
  have honly : .raise ∉ [Move.look, .watch .zero, .notice, .look, .finish] := by decide
  have h : (begin 1 [Threshold.anyCheck] .empty).play?
      [.look, .watch .zero, .notice, .look, .finish] =
      some { begin 1 [Threshold.anyCheck] .empty with
        phase := .over, raised := true, watched := false, aborted := true } := by decide +kernel
  ⟨_, _, honly, h, rfl, (breach_of_aborted honly h).1 rfl⟩

/-! ## Lost aborts -/

/-- The dispatcher leaves its loop, and the flag is up. -/
def LeavesRaised (s : Run) (_ : Move) (s' : Run) : Prop :=
  ¬ s.phase.isPast ∧ s'.phase.isPast ∧ s'.raised

/-- The dispatcher ends its wait by itself, though it could as well notice the flag. -/
def Overlooks (s : Run) (m : Move) (_ : Run) : Prop :=
  (m = .drained ∨ m = .expire) ∧ (s.step? .abort).isSome

theorem isSome_step?_abort (hphase : r.phase = .draining) (hup : r.raised) :
    (r.step? .abort).isSome := by
  rw [step?, if_pos ⟨hphase, hup⟩]
  rfl

/-- From a run that was not stopped, what the dispatcher overlooks is not made up for. -/
theorem not_aborted_of_overlooks (h : (begin maxUsers thresholds book).play? moves = some r)
    (hmakes : (begin maxUsers thresholds book).Makes moves Overlooks) : r.aborted = false := by
  obtain ⟨before, m, after, s, s', rfl, hbefore, hmove, hends, -⟩ := hmakes
  have hafter := play?_after h hbefore hmove
  have hstop : ¬ s.phase.isStopped ∧ s' = s.stop := by
    rcases hends with rfl | rfl
    · cases step_of_step? hmove with
      | drained hphase => exact ⟨by rw [hphase]; nofun, rfl⟩
    · cases step_of_step? hmove with
      | expire hphase => exact ⟨by rw [hphase]; nofun, rfl⟩
  obtain ⟨hgoing, rfl⟩ := hstop
  have haborted := (play?_going hbefore hgoing).aborted
  exact ((play?_stopped hafter rfl).2.2).trans haborted

/-- A run that is stopped with the flag up is aborted, unless the flag is overlooked. -/
theorem aborted_or_overlooks {s : Run} (h : s.play? moves = some r) (hup : s.raised)
    (hgoing : ¬ s.phase.isStopped) (hover : r.phase = .over) :
    r.aborted ∨ s.Makes moves Overlooks := by
  obtain ⟨before, m, after, t, t', hmoves, hbefore, hmove, hafter, hgoes, hstopped⟩ :=
    exists_change (Q := fun s => s.phase.isStopped) h hgoing (hover ▸ rfl)
  -- the flag stays up, so it is up at the stop, which notices it or overlooks it
  rcases (step_of_step? hmove).stops hgoes hstopped with ⟨-, rfl⟩ | ⟨hends, hphase, rfl⟩
  · exact .inl (play?_stopped hafter hstopped).2.2
  · exact .inr ⟨before, m, after, t, _, hmoves, hbefore, hmove, hends,
      isSome_step?_abort hphase (play?_raised hbefore hup)⟩

/-- If the flag is up when the dispatcher leaves its loop, the run is aborted in the end, unless the
dispatcher ends its wait by itself though it could as well notice the flag. -/
theorem abort_kept_iff (h : (begin maxUsers thresholds book).play? moves = some r)
    (hover : r.phase = .over)
    (hleft : (begin maxUsers thresholds book).Makes moves LeavesRaised) :
    r.aborted ↔ ¬ (begin maxUsers thresholds book).Makes moves Overlooks := by
  constructor
  · intro haborted hmakes
    exact absurd (haborted.symm.trans (not_aborted_of_overlooks h hmakes)) nofun
  · intro hkept
    obtain ⟨before, m, after, s, s', rfl, hbefore, hmove, hloop, hpast, hup⟩ := hleft
    have hafter := play?_after h hbefore hmove
    -- the loop is left for the flag, which stops the run at once, or because the schedule is over
    by_cases hstopped : s'.phase.isStopped
    · have hgoing : ¬ s.phase.isStopped := fun hstop => hloop (Phase.isPast_of_isStopped hstop)
      rcases (step_of_step? hmove).stops hgoing hstopped with ⟨-, rfl⟩ | ⟨-, hphase, -⟩
      · exact (play?_stopped hafter hstopped).2.2
      · exact absurd (hphase ▸ rfl) hloop
    · rcases aborted_or_overlooks hafter hup hstopped hover with haborted | hmakes
      · exact haborted
      · exact absurd (hmakes.after hbefore hmove) hkept

end Begun

/-- The watcher raises the flag as the schedule ends, and nothing is in flight. -/
theorem play?_overlooked : (begin 1 [Threshold.anyCheck] .empty).play?
    [.look, .watch .zero, .close, .drained, .finish] =
      some { begin 1 [Threshold.anyCheck] .empty with
        phase := .over, raised := true, watched := false } := by
  decide +kernel

theorem leavesRaised_overlooked : (begin 1 [Threshold.anyCheck] .empty).Makes
    [.look, .watch .zero, .close, .drained, .finish] LeavesRaised :=
  ⟨[.look, .watch .zero], .close, [.drained, .finish],
    { begin 1 [Threshold.anyCheck] .empty with
      phase := .waiting, raised := true, watched := false },
    { begin 1 [Threshold.anyCheck] .empty with
      phase := .draining, raised := true, watched := false },
    rfl, by decide +kernel, rfl, nofun, rfl, rfl⟩

theorem abort_kept_iff_overlooked : ∃ moves r,
    (begin 1 [Threshold.anyCheck] .empty).play? moves = some r ∧ r.phase = .over ∧
      (begin 1 [Threshold.anyCheck] .empty).Makes moves LeavesRaised ∧
      (r.aborted ↔ ¬ (begin 1 [Threshold.anyCheck] .empty).Makes moves Overlooks) :=
  ⟨_, _, play?_overlooked, rfl, leavesRaised_overlooked,
    abort_kept_iff play?_overlooked rfl leavesRaised_overlooked⟩

/-- An abort can be lost. -/
theorem abort_not_kept : ¬ ∀ (maxUsers : Nat) (thresholds : List Threshold) (book : Book)
    (moves : List Move) (r : Run), (begin maxUsers thresholds book).play? moves = some r →
      r.phase = .over → (begin maxUsers thresholds book).Makes moves LeavesRaised → r.aborted := by
  intro hkept
  exact nomatch hkept _ _ _ _ _ play?_overlooked rfl leavesRaised_overlooked

end FedLoad.Run
