import FedLoad.Proofs.Run.Step
/-!
# Slots and drops

An iteration that comes due is started or dropped, and dropped only while every slot is held, so the
two numbers add up to what came due, less what the dispatcher still has before it. A slot is held
from the start of an iteration to its end, whether it completes, is told to stop, or is told to stop
before its first step; an active user is shown from the first step to that end. What was dropped is
entered into the book, and nothing else enters a drop.

Once the dispatcher has left its loop it starts nothing more, and when the run is over nothing is in
flight, so the number of active users that is shown is what it was at the beginning.

Main statement: `play_kept`, about every sequence of moves.
-/
namespace FedLoad

/-- The iterations that came due and have neither been started nor dropped yet. -/
def Phase.left : Phase → Nat
  | .dispatching left => left
  | _ => 0

/-- Has the dispatcher left its loop? -/
def Phase.isPast : Phase → Bool
  | .draining | .stopping | .over => true
  | .looking | .waiting | .dispatching _ => false

namespace Run

/-- The number of iterations that come due with a move. -/
def Move.due : Move → Nat
  | .tick due => due
  | _ => 0

/-- The number of iterations that come due in a sequence of moves. -/
def dueIn : List Move → Nat
  | [] => 0
  | m :: rest => m.due + dueIn rest

/-! ## What a move keeps -/

/-- How the slots and the book of a run stand since its beginning. -/
structure Sound (first r : Run) : Prop where
  users : r.maxUsers = first.maxUsers
  slots : r.running ≤ r.maxUsers
  awake : r.awake ≤ r.running
  active : r.active = first.active + r.awake
  dropped : r.book.tally.dropped = first.book.tally.dropped + r.dropped
  empty : r.phase = .over → r.inFlight = 0

namespace Sound

variable {first r r' : Run} {m : Move}

/-- When the run is over no slot is held. -/
theorem running_of_over (h : Sound first r) (hphase : r.phase = .over) : r.running = 0 :=
  (Nat.add_eq_zero_iff.1 (h.empty hphase)).1

/-- An iteration under way gives its slot back and is shown no more. -/
theorem release (h : Sound first r) (hawake : 0 < r.awake) :
    Sound first { r with
      running := r.running - 1, awake := r.awake - 1, active := r.active - 1 } := by
  have hasleep := h.awake
  have hactive := h.active
  have hshown : r.active - 1 = first.active + (r.awake - 1 : Nat) := by omega
  exact { h with
    slots := Nat.le_trans (Nat.sub_le _ _) h.slots
    awake := Nat.sub_le_sub_right h.awake 1
    active := hshown
    empty := fun hphase => absurd (h.running_of_over hphase) (by omega) }

theorem step (h : Sound first r) (hstep : Step r m r') : Sound first r' := by
  cases hstep with
  | start _ hfree =>
    exact { h with slots := hfree, awake := Nat.le_succ_of_le h.awake, empty := nofun }
  | drop => exact { h with dropped := congrArg (· + 1) h.dropped, empty := nofun }
  | wake hasleep =>
    have hactive := h.active
    have hshown : r.active + 1 = first.active + (r.awake + 1 : Nat) := by omega
    exact { h with awake := hasleep, active := hshown }
  | note _ hwalk =>
    obtain ⟨-, hdropped, -⟩ := record_of_walk hwalk r.book
    exact { h with dropped := hdropped.trans h.dropped }
  | complete hawake =>
    have hrunning : 0 < r.running := Nat.lt_of_lt_of_le hawake h.awake
    exact { h.release hawake with
      empty := fun hphase => absurd (h.running_of_over hphase) (Nat.ne_zero_of_lt hrunning) }
  | cancel _ hawake => exact h.release hawake
  | discard _ hasleep =>
    exact { h with
      slots := Nat.le_trans (Nat.sub_le _ _) h.slots
      awake := Nat.le_sub_one_of_lt hasleep
      empty := fun hphase => absurd (h.running_of_over hphase) (Nat.ne_zero_of_lt hasleep) }
  | collect hphase =>
    have hgoes : r.phase ≠ .over := by rcases hphase with hphase | hphase <;> simp [hphase]
    exact { h with empty := fun hover => absurd hover hgoes }
  | finish _ hnone => exact { h with empty := fun _ => hnone }
  | watchBreach | watch | leave | raise => exact { h with }
  | look | lookUp | tick | dispatched | notice | collectWaiting | close | drained | expire
  | abort =>
    exact { h with empty := nofun }

end Sound

/-- What comes due with a move is dealt with or left to be dealt with. -/
theorem Step.due {r r' : Run} {m : Move} (h : Step r m r') :
    r'.started + r'.dropped + r'.phase.left = r.started + r.dropped + r.phase.left + m.due := by
  cases h with
  | start hphase | drop hphase =>
    simp only [hphase, Phase.left, Move.due]
    omega
  | look hphase | lookUp hphase | tick hphase | dispatched hphase | notice hphase
  | collectWaiting hphase | close hphase | drained hphase | expire hphase | abort hphase
  | finish hphase =>
    simp only [hphase, Phase.left, Move.due, stop, Nat.add_zero]
  | collect | cancel | discard | wake | note | complete | watchBreach | watch | leave | raise => rfl

/-- Once the dispatcher has left its loop it does not come back to it and starts nothing. -/
theorem Step.past {r r' : Run} {m : Move} (h : Step r m r') (hpast : r.phase.isPast) :
    r'.started = r.started ∧ r'.phase.isPast := by
  cases h with
  | look hphase | lookUp hphase | tick hphase | start hphase | drop hphase | dispatched hphase
  | notice hphase | collectWaiting hphase | close hphase =>
    rw [hphase] at hpast
    cases hpast
  | drained | expire | abort | finish => exact ⟨rfl, rfl⟩
  | collect | cancel | discard | wake | note | complete | watchBreach | watch | leave | raise =>
    exact ⟨rfl, hpast⟩

/-- An iteration is dropped only while every slot is held. -/
theorem Step.full_of_drop {first r r' : Run} {m : Move} (h : Step r m r') (hsound : Sound first r)
    (hdrop : r'.dropped ≠ r.dropped) : r.running = first.maxUsers := by
  cases h with
  | drop _ hfull => exact (Nat.le_antisymm hsound.slots hfull).trans hsound.users
  | _ => exact absurd rfl hdrop

/-! ## What a run keeps -/

theorem play?_due {r r' : Run} {moves : List Move} (h : r.play? moves = some r') :
    r'.started + r'.dropped + r'.phase.left =
      r.started + r.dropped + r.phase.left + dueIn moves := by
  induction moves generalizing r with
  | nil => exact Option.some.inj h ▸ rfl
  | cons m rest ih =>
    obtain ⟨s, hstep, hrest⟩ := play?_cons_eq_some.1 h
    have hone := (step_of_step? hstep).due
    have hmore := ih hrest
    rw [dueIn]
    omega

theorem play?_past {r r' : Run} {moves : List Move} (h : r.play? moves = some r')
    (hpast : r.phase.isPast) : r'.started = r.started ∧ r'.phase.isPast := by
  refine play?_keeps (P := fun s => s.started = r.started ∧ s.phase.isPast) ?_ ⟨rfl, hpast⟩ h
  intro s s' m hs hstep
  obtain ⟨hstarted, hpast⟩ := hstep.past hs.2
  exact ⟨hstarted.trans hs.1, hpast⟩

/-- How a run that began as `first` stands after these moves. -/
structure Kept (first : Run) (moves : List Move) (r : Run) : Prop where
  /-- No more slots are held than there are. -/
  slots : r.running ≤ first.maxUsers
  /-- What came due was started or dropped, or is next. -/
  due : dueIn moves = r.started + r.dropped + r.phase.left
  /-- Only while all slots are held is anything dropped. -/
  full : ∀ m r', r.step? m = some r' → r'.dropped ≠ r.dropped → r.running = first.maxUsers
  /-- What was dropped is in the book. -/
  dropped : r.book.tally.dropped = first.book.tally.dropped + r.dropped
  /-- Nothing is started after the dispatcher has left its loop. -/
  past : r.phase.isPast → ∀ more r', r.play? more = some r' →
    r'.started = r.started ∧ r'.phase.isPast
  /-- The number of active users that is shown is that of the iterations that have begun. -/
  active : r.active = first.active + r.awake
  /-- When the run is over nothing is in flight, and as many active users are shown as before. -/
  idle : r.phase = .over → r.inFlight = 0 ∧ r.active = first.active

theorem sound_begin (maxUsers : Nat) (thresholds : List Threshold) (book : Book) (shown : Int) :
    Sound { begin maxUsers thresholds book with active := shown }
      { begin maxUsers thresholds book with active := shown } :=
  ⟨rfl, Nat.zero_le _, Nat.le_refl 0, (Int.add_zero shown).symm, rfl, nofun⟩

/-- Whatever the dispatcher, the iterations and the watcher do, and in whatever order, the run keeps
its books. -/
theorem play_kept {maxUsers : Nat} {thresholds : List Threshold} {book : Book} {shown : Int}
    {moves : List Move} {r : Run}
    (h : { begin maxUsers thresholds book with active := shown }.play? moves = some r) :
    Kept { begin maxUsers thresholds book with active := shown } moves r := by
  have hsound := play?_keeps Sound.step (sound_begin maxUsers thresholds book shown) h
  constructor
  case slots => exact hsound.users ▸ hsound.slots
  case due =>
    have hdue : _ = 0 + 0 + 0 + dueIn moves := play?_due h
    omega
  case full => exact fun m r' hstep => (step_of_step? hstep).full_of_drop hsound
  case dropped => exact hsound.dropped
  case past => exact fun hpast more r' hmore => play?_past hmore hpast
  case active => exact hsound.active
  case idle =>
    intro hover
    have hempty : r.running + r.ended = 0 := hsound.empty hover
    have hasleep := hsound.awake
    have hactive := hsound.active
    exact ⟨hempty, by omega⟩

/-- With one slot the second of two iterations that come due is dropped. -/
theorem play_kept_oneSlot :
    ∃ (moves : List Move) (r : Run),
      { begin 1 [] .empty with active := 5 }.play? moves = some r ∧
      dueIn moves = 2 ∧ r.started = 1 ∧ r.phase = .over ∧
      Kept { begin 1 [] .empty with active := 5 } moves r :=
  have h : { begin 1 [] .empty with active := 5 }.play?
      [.look, .tick 2, .dispatch, .wake, .dispatch, .dispatched, .look, .close, .complete, .collect,
        .drained, .finish] =
      some { begin 1 [] ((Book.empty.record .dropped).record .iteration) with
        active := 5, phase := .over, started := 1, dropped := 1 } := rfl
  ⟨_, _, h, rfl, rfl, rfl, play_kept h⟩

end Run

end FedLoad
