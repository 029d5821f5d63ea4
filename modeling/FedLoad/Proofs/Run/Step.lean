import FedLoad.Proofs.Walk.Entries
import FedLoad.Run.Basic
/-!
# What a move can do

`Step r m r'` lists every way in which a move leads from one state of a run to another, with all
that allows it. A fact about all runs is one about these rules.

What a walk records is what an iteration may note, so every walk of an iteration under way is a
sequence of moves (`play?_walk`).

Main statements: `step_of_step?`, `play?_keeps` for what a whole run keeps, and `exists_change` for
the move that brings something about.
-/
namespace FedLoad.Run

/-- The ways in which a move leads from a run to another. -/
inductive Step (r : Run) : Move → Run → Prop
  | look (hphase : r.phase = .looking) (hdown : ¬ r.raised) :
    Step r .look { r with phase := .waiting }
  | lookUp (hphase : r.phase = .looking) (hup : r.raised) :
    Step r .look { r with aborted := true }.stop
  | tick {due : Nat} (hphase : r.phase = .waiting) :
    Step r (.tick due) { r with phase := .dispatching due }
  | start {left : Nat} (hphase : r.phase = .dispatching (left + 1))
      (hfree : r.running < r.maxUsers) :
    Step r .dispatch { r with
      running := r.running + 1, started := r.started + 1, phase := .dispatching left }
  | drop {left : Nat} (hphase : r.phase = .dispatching (left + 1))
      (hfull : r.maxUsers ≤ r.running) :
    Step r .dispatch { r with
      dropped := r.dropped + 1, book := r.book.record .dropped, phase := .dispatching left }
  | dispatched (hphase : r.phase = .dispatching 0) :
    Step r .dispatched { r with phase := .looking }
  | notice (hphase : r.phase = .waiting) (hlistening : r.listening)
      (hchange : r.raised ∨ ¬ r.watched) :
    Step r .notice { r with phase := .looking, listening := r.raised }
  | collectWaiting (hphase : r.phase = .waiting) (hended : 0 < r.ended) :
    Step r .collect { r with phase := .looking, ended := r.ended - 1 }
  | collect (hphase : r.phase = .draining ∨ r.phase = .stopping) (hended : 0 < r.ended) :
    Step r .collect { r with ended := r.ended - 1 }
  | close (hphase : r.phase = .waiting) : Step r .close { r with phase := .draining }
  | drained (hphase : r.phase = .draining) (hempty : r.inFlight = 0) : Step r .drained r.stop
  | expire (hphase : r.phase = .draining) : Step r .expire r.stop
  | abort (hphase : r.phase = .draining) (hup : r.raised) :
    Step r .abort { r with aborted := true }.stop
  | cancel (hphase : r.phase = .stopping) (hawake : 0 < r.awake) :
    Step r .cancel { r with
      running := r.running - 1, awake := r.awake - 1, active := r.active - 1 }
  | discard (hphase : r.phase = .stopping) (hasleep : r.awake < r.running) :
    Step r .discard { r with running := r.running - 1 }
  | finish (hphase : r.phase = .stopping) (hempty : r.inFlight = 0) :
    Step r .finish { r with phase := .over }
  | wake (hasleep : r.awake < r.running) :
    Step r .wake { r with awake := r.awake + 1, active := r.active + 1 }
  | note {event : Event} (hawake : 0 < r.awake) (hwalk : event.ofWalk) :
    Step r (.note event) { r with book := r.book.record event }
  | complete (hawake : 0 < r.awake) :
    Step r .complete { r with
      running := r.running - 1
      awake := r.awake - 1
      active := r.active - 1
      ended := r.ended + 1
      book := r.book.record .iteration }
  | watchBreach {elapsed : Span} (hwatched : r.watched) (hmay : r.mayAbort)
      (hbreach : (Threshold.breach? r.thresholds r.book.tally elapsed).isSome) :
    Step r (.watch elapsed) { r with raised := true, watched := false }
  | watch {elapsed : Span} (hwatched : r.watched) (hmay : r.mayAbort)
      (hnone : Threshold.breach? r.thresholds r.book.tally elapsed = none) :
    Step r (.watch elapsed) r
  | leave (hwatched : r.watched) (hover : ¬ r.mayAbort ∨ r.phase = .over) :
    Step r .leave { r with watched := false }
  | raise (hwatched : r.watched) : Step r .raise { r with raised := true }

theorem step_dispatch {r r' : Run} (h : r.step? .dispatch = some r') : Step r .dispatch r' := by
  simp only [step?] at h
  split at h
  · next left hphase =>
    cases h
    unfold startOrDrop
    by_cases hfree : r.running < r.maxUsers
    · rw [if_pos hfree]
      exact .start hphase hfree
    · rw [if_neg hfree]
      exact .drop hphase (Nat.not_lt.1 hfree)
  · cases h

theorem step_collect {r r' : Run} (h : r.step? .collect = some r') : Step r .collect r' := by
  simp only [step?] at h
  split at h
  · next hended =>
    split at h
    · next hphase => cases h; exact .collectWaiting hphase hended
    · next hphase => cases h; exact .collect (.inl hphase) hended
    · next hphase => cases h; exact .collect (.inr hphase) hended
    · cases h
  · cases h

theorem step_watch {r r' : Run} {elapsed : Span} (h : r.step? (.watch elapsed) = some r') :
    Step r (.watch elapsed) r' := by
  simp only [step?, Option.ite_none_right_eq_some, Option.some.injEq] at h
  obtain ⟨⟨hwatched, hmay⟩, rfl⟩ := h
  cases hbreach : Threshold.breach? r.thresholds r.book.tally elapsed with
  | none => exact .watch hwatched hmay hbreach
  | some b => exact .watchBreach hwatched hmay (hbreach ▸ rfl)

/-- A move that is open does what one of the rules says. -/
theorem step_of_step? {r r' : Run} {m : Move} (h : r.step? m = some r') : Step r m r' := by
  cases m with
  | dispatch => exact step_dispatch h
  | collect => exact step_collect h
  | watch => exact step_watch h
  | look =>
    simp only [step?, Option.ite_none_right_eq_some, Option.some.injEq] at h
    obtain ⟨hphase, rfl⟩ := h
    by_cases hup : r.raised
    · rw [if_pos hup]
      exact .lookUp hphase hup
    · rw [if_neg hup]
      exact .look hphase hup
  | notice =>
    simp only [step?, Option.ite_none_right_eq_some, Option.some.injEq] at h
    obtain ⟨⟨hphase, hlistening, hchange⟩, rfl⟩ := h
    exact .notice hphase hlistening hchange
  | tick | dispatched | close | expire | wake | complete | raise =>
    simp only [step?, Option.ite_none_right_eq_some, Option.some.injEq] at h
    obtain ⟨hguard, rfl⟩ := h
    constructor
    exact hguard
  | drained | abort | cancel | discard | finish | note | leave =>
    simp only [step?, Option.ite_none_right_eq_some, Option.some.injEq] at h
    obtain ⟨⟨hfirst, hsecond⟩, rfl⟩ := h
    constructor
    · exact hfirst
    · exact hsecond

/-! ## Sequences of moves -/

theorem play?_cons_eq_some {r r' : Run} {m : Move} {rest : List Move} :
    r.play? (m :: rest) = some r' ↔ ∃ s, r.step? m = some s ∧ s.play? rest = some r' :=
  Option.bind_eq_some_iff

/-- What every move keeps, every sequence of moves keeps. -/
theorem play?_keeps {P : Run → Prop} (hkeep : ∀ {r r' : Run} {m : Move}, P r → Step r m r' → P r')
    {r r' : Run} {moves : List Move} (h : P r) (hplay : r.play? moves = some r') : P r' := by
  induction moves generalizing r with
  | nil => exact Option.some.inj hplay ▸ h
  | cons m rest ih =>
    obtain ⟨s, hstep, hrest⟩ := play?_cons_eq_some.1 hplay
    exact ih (hkeep h (step_of_step? hstep)) hrest

theorem play?_split {first last : Run} {before after : List Move} {m : Move}
    (h : first.play? (before ++ m :: after) = some last) :
    ∃ s s', first.play? before = some s ∧ s.step? m = some s' ∧ s'.play? after = some last := by
  rw [play?_append] at h
  obtain ⟨s, hbefore, hrest⟩ := Option.bind_eq_some_iff.1 h
  obtain ⟨s', hstep, hafter⟩ := play?_cons_eq_some.1 hrest
  exact ⟨s, s', hbefore, hstep, hafter⟩

theorem play?_after {first s s' last : Run} {before after : List Move} {m : Move}
    (h : first.play? (before ++ m :: after) = some last) (hbefore : first.play? before = some s)
    (hstep : s.step? m = some s') : s'.play? after = some last := by
  rwa [play?_append, hbefore, Option.bind_some, play?, hstep, Option.bind_some] at h

/-- Among these moves of a run is one of which `P` holds, and of the states around it. -/
def Makes (first : Run) (moves : List Move) (P : Run → Move → Run → Prop) : Prop :=
  ∃ before m after s s', moves = before ++ m :: after ∧ first.play? before = some s ∧
    s.step? m = some s' ∧ P s m s'

theorem Makes.found {first : Run} {moves : List Move} {P : Run → Move → Run → Prop}
    (h : first.Makes moves P) : ∃ s m s', P s m s' := by
  obtain ⟨-, m, -, s, s', -, -, -, hP⟩ := h
  exact ⟨s, m, s', hP⟩

theorem Makes.after {first s s' : Run} {before after : List Move} {m : Move}
    {P : Run → Move → Run → Prop} (hbefore : first.play? before = some s)
    (hstep : s.step? m = some s') (h : s'.Makes after P) : first.Makes (before ++ m :: after) P := by
  obtain ⟨more, n, rest, t, t', rfl, hmore, hmove, hP⟩ := h
  refine ⟨before ++ m :: more, n, rest, t, t', by rw [List.append_assoc, List.cons_append], ?_,
    hmove, hP⟩
  rw [play?_append, hbefore, Option.bind_some]
  exact play?_cons_eq_some.2 ⟨s', hstep, hmore⟩

/-- What holds at the end of a run and not at its beginning is brought about by one of its moves. -/
theorem exists_change {Q : Run → Prop} {first last : Run} {moves : List Move}
    (h : first.play? moves = some last) (hno : ¬ Q first) (hyes : Q last) :
    ∃ before m after s s', moves = before ++ m :: after ∧ first.play? before = some s ∧
      s.step? m = some s' ∧ s'.play? after = some last ∧ ¬ Q s ∧ Q s' := by
  induction moves generalizing first with
  | nil => exact absurd hyes (Option.some.inj h ▸ hno)
  | cons m rest ih =>
    obtain ⟨s, hstep, hrest⟩ := play?_cons_eq_some.1 h
    by_cases hs : Q s
    · exact ⟨[], m, rest, first, s, rfl, rfl, hstep, hrest, hno, hs⟩
    · obtain ⟨before, n, after, t, t', rfl, hbefore, hchange⟩ := ih hrest hs
      exact ⟨m :: before, n, after, t, t', rfl, play?_cons_eq_some.2 ⟨s, hstep, hbefore⟩, hchange⟩

/-! ## Walks as moves -/

/-- What a walk records is neither an iteration nor a drop nor a failed threshold. -/
theorem record_of_walk {event : Event} (h : event.ofWalk) (b : Book) :
    (b.record event).tally.iterations = b.tally.iterations ∧
      (b.record event).tally.dropped = b.tally.dropped ∧
      (b.record event).counters.breaches = b.counters.breaches := by
  cases event with
  | iteration | dropped | breach => cases h
  | _ => exact ⟨rfl, rfl, rfl⟩

theorem play?_notes {r : Run} (hawake : 0 < r.awake) {events : List Event}
    (hwalk : ∀ e ∈ events, e.ofWalk) :
    r.play? (events.map .note) = some { r with book := r.book.recordAll events } := by
  induction events generalizing r with
  | nil => rfl
  | cons e rest ih =>
    obtain ⟨he, hrest⟩ := List.forall_mem_cons.1 hwalk
    have hnote : r.step? (.note e) = some { r with book := r.book.record e } :=
      if_pos ⟨hawake, he⟩
    rw [List.map_cons, play?, hnote, Option.bind_some]
    exact ih hawake hrest

/-- The walk of an actor by an iteration under way is a sequence of moves. -/
theorem play?_walk {r : Run} (hawake : 0 < r.awake) (requested : List String) (web : Web)
    (maxPages : Nat) (a : Actor) : ∃ moves, r.play? moves =
      some { r with book := ((⟨requested, r.book⟩ : Trail).actor web maxPages a).2.book } := by
  obtain ⟨events, hwalk, hbook⟩ := (⟨requested, r.book⟩ : Trail).walked_actor web maxPages a
  exact ⟨events.map .note, hbook ▸ play?_notes hawake hwalk⟩

end FedLoad.Run
