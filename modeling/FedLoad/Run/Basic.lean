import FedLoad.Threshold.Basic
/-!
# A run as a sequence of moves

A dispatcher starts iterations when they come due, each in a slot of its own; an iteration that
comes due while all slots are held is dropped. A watcher may raise a flag that aborts the run. The
dispatcher, the iterations and the watcher go on side by side, so a run is whatever sequence of
moves their states allow, in whatever order.

An iteration holds its slot from the moment it is started, and is shown as an active virtual user
from its first step on, which it may never take.

When the schedule is over the dispatcher waits for the iterations under way, for a limited time and
as long as the flag is down. Then it counts those that it has not collected, tells them to stop, and
collects what is left. Where several moves are open to the dispatcher at once it may make any of
them.
-/
namespace FedLoad

/-- Where the dispatcher stands. -/
inductive Phase where
  /-- About to look at the flag. -/
  | looking
  /-- Waiting for the next tick, for a change of the flag, or for an iteration to collect. -/
  | waiting
  /-- Starting the iterations that came due at a tick. -/
  | dispatching (left : Nat)
  /-- Waiting for the iterations under way to end. -/
  | draining
  /-- Collecting the iterations that were told to stop. -/
  | stopping
  | over
deriving DecidableEq, Repr

/-- A run, between two moves. -/
structure Run where
  maxUsers : Nat
  thresholds : List Threshold
  phase : Phase
  /-- Is the flag up? -/
  raised : Bool
  /-- May the flag still be raised? -/
  watched : Bool
  /-- Does the dispatcher still wait for a change of the flag? -/
  listening : Bool
  /-- Iterations that hold a slot. -/
  running : Nat
  /-- Iterations that hold a slot and have taken their first step. -/
  awake : Nat
  /-- The number of active virtual users that is shown. -/
  active : Int
  /-- Iterations that have ended and given their slot back, and are not collected yet. -/
  ended : Nat
  started : Nat
  dropped : Nat
  interrupted : Nat
  aborted : Bool
  book : Book
deriving DecidableEq, Repr

namespace Run

/-- A run before its first move. -/
def begin (maxUsers : Nat) (thresholds : List Threshold) (book : Book) : Run where
  maxUsers := maxUsers
  thresholds := thresholds
  phase := .looking
  raised := false
  watched := true
  listening := true
  running := 0
  awake := 0
  active := 0
  ended := 0
  started := 0
  dropped := 0
  interrupted := 0
  aborted := false
  book := book

/-- Iterations that are not collected yet. -/
def inFlight (r : Run) : Nat := r.running + r.ended

/-- Does some threshold abort the run? -/
def mayAbort (r : Run) : Bool := r.thresholds.any (·.aborts)

inductive Move where
  /-- The dispatcher looks at the flag. -/
  | look
  /-- Iterations come due. -/
  | tick (due : Nat)
  /-- One of the iterations that came due is started or dropped. -/
  | dispatch
  /-- All iterations that came due are dealt with. -/
  | dispatched
  /-- The dispatcher notices that the flag was raised or can no longer be raised. -/
  | notice
  /-- The dispatcher collects an iteration that has ended. -/
  | collect
  /-- The schedule is over. -/
  | close
  /-- Nothing is in flight any more. -/
  | drained
  /-- The time to wait for iterations under way is over. -/
  | expire
  /-- The dispatcher notices the flag while it waits for iterations under way. -/
  | abort
  /-- An iteration that was told to stop stops. -/
  | cancel
  /-- An iteration that was told to stop before its first step never takes it. -/
  | discard
  /-- Everything is collected. -/
  | finish
  /-- An iteration takes its first step. -/
  | wake
  /-- An iteration records something of its walks. -/
  | note (event : Event)
  /-- An iteration ends. -/
  | complete
  /-- The watcher looks at the thresholds, this long after the start. -/
  | watch (elapsed : Span)
  /-- The watcher goes away. -/
  | leave
  /-- Somebody else raises the flag. -/
  | raise
deriving DecidableEq, Repr

/-- Tells everything in flight to stop. -/
def stop (r : Run) : Run := { r with phase := .stopping, interrupted := r.inFlight }

/-- Starts an iteration if a slot is free, and drops it otherwise. -/
def startOrDrop (r : Run) : Run :=
  if r.running < r.maxUsers then { r with running := r.running + 1, started := r.started + 1 }
  else { r with dropped := r.dropped + 1, book := r.book.record .dropped }

/-- One move, if it is open. -/
def step? (r : Run) : Move → Option Run
  | .look =>
    if r.phase = .looking then
      some (if r.raised then { r with aborted := true }.stop else { r with phase := .waiting })
    else none
  | .tick due =>
    if r.phase = .waiting then some { r with phase := .dispatching due } else none
  | .dispatch =>
    match r.phase with
    | .dispatching (left + 1) => some { r.startOrDrop with phase := .dispatching left }
    | _ => none
  | .dispatched => if r.phase = .dispatching 0 then some { r with phase := .looking } else none
  | .notice =>
    if r.phase = .waiting ∧ r.listening ∧ (r.raised ∨ ¬ r.watched) then
      some { r with phase := .looking, listening := r.raised }
    else none
  | .collect =>
    if 0 < r.ended then
      match r.phase with
      | .waiting => some { r with phase := .looking, ended := r.ended - 1 }
      | .draining | .stopping => some { r with ended := r.ended - 1 }
      | _ => none
    else none
  | .close => if r.phase = .waiting then some { r with phase := .draining } else none
  | .drained => if r.phase = .draining ∧ r.inFlight = 0 then some r.stop else none
  | .expire => if r.phase = .draining then some r.stop else none
  | .abort =>
    if r.phase = .draining ∧ r.raised then some { r with aborted := true }.stop else none
  | .cancel =>
    if r.phase = .stopping ∧ 0 < r.awake then
      some { r with running := r.running - 1, awake := r.awake - 1, active := r.active - 1 }
    else none
  | .discard =>
    if r.phase = .stopping ∧ r.awake < r.running then some { r with running := r.running - 1 }
    else none
  | .finish =>
    if r.phase = .stopping ∧ r.inFlight = 0 then some { r with phase := .over } else none
  | .wake =>
    if r.awake < r.running then some { r with awake := r.awake + 1, active := r.active + 1 }
    else none
  | .note event =>
    if 0 < r.awake ∧ event.ofWalk then some { r with book := r.book.record event } else none
  | .complete =>
    if 0 < r.awake then
      some { r with
        running := r.running - 1
        awake := r.awake - 1
        active := r.active - 1
        ended := r.ended + 1
        book := r.book.record .iteration }
    else none
  | .watch elapsed =>
    if r.watched ∧ r.mayAbort then
      some (if (Threshold.breach? r.thresholds r.book.tally elapsed).isSome then
        { r with raised := true, watched := false } else r)
    else none
  | .leave =>
    if r.watched ∧ (¬ r.mayAbort ∨ r.phase = .over) then some { r with watched := false } else none
  | .raise => if r.watched then some { r with raised := true } else none

/-- Moves one after the other, if each is open in its turn. -/
def play? (r : Run) : List Move → Option Run
  | [] => some r
  | m :: rest => (r.step? m).bind fun r => r.play? rest

/-- Makes a move if it is open. -/
def attempt (r : Run) (m : Move) : Run := (r.step? m).getD r

/-- Makes a move as long as it is open, at most `n` times. -/
def exhaust (r : Run) (m : Move) : Nat → Run
  | 0 => r
  | n + 1 =>
    match r.step? m with
    | some r => r.exhaust m n
    | none => r

/-! ## Laws -/

theorem play?_append (r : Run) (xs ys : List Move) :
    r.play? (xs ++ ys) = (r.play? xs).bind fun r => r.play? ys := by
  induction xs generalizing r with
  | nil => rfl
  | cons m rest ih =>
    simp only [List.cons_append, play?]
    cases r.step? m with
    | none => rfl
    | some r' => exact ih r'

end Run

end FedLoad
