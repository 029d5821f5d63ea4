import FedLoad.Load.Budget
import FedLoad.Run.Basic
import FedLoad.Run.Report
/-!
# Runs on a clock

Here the moves of a run are made in the order that a clock gives them. The clock goes from one timer
to the next and shows whole milliseconds, so a timer goes off at the first millisecond that is not
before its time. At one instant the dispatcher acts first, then iterations end and the watcher looks,
and then the dispatcher sees what they did.

The time that an iteration takes is the sum of its pauses; a slot that is given back can be taken at
the next instant.
-/
namespace FedLoad

/-- What may raise the flag, and when. -/
inductive Alarm where
  | none
  | once (time : Span)
  /-- The watcher looks at the thresholds at every multiple of an interval, from the `count`th on. -/
  | every (interval : Span) (count : Nat)
deriving DecidableEq, Repr

/-- The instant of the next alarm. -/
def Alarm.instant? : Alarm → Option Nat
  | .none => .none
  | .once time => some time.ceilMillis
  | .every interval count => some (Span.ceilMillis ⟨interval.nanos * count⟩)

/-- The alarms after the next. -/
def Alarm.later : Alarm → Alarm
  | .every interval count => .every interval (count + 1)
  | _ => .none

/-- What a run on a clock is about. -/
structure Schedule where
  model : LoadModel Float
  gracefulStop : Span
  /-- The pauses of an iteration, in order. -/
  pauses : List Span
  /-- What an iteration records before its end. -/
  events : List Event
deriving Repr

/-- How long an iteration takes, in milliseconds. -/
def Schedule.iterationMillis (s : Schedule) : Nat := (s.pauses.map Span.ceilMillis).foldr (· + ·) 0

/-- A run at an instant of the clock. -/
structure Timed where
  run : Run
  /-- Milliseconds since the start. -/
  now : Nat
  nextTick : Span
  /-- The instant of the tick before, in seconds. -/
  lastTick : Float
  budget : Budget Float
  /-- When the iterations under way end. -/
  ends : List Nat
  /-- When the wait for the iterations under way is over. -/
  deadline : Nat
  alarm : Alarm
deriving Repr

namespace Timed

def start (run : Run) (alarm : Alarm) : Timed :=
  ⟨run.attempt .look, 0, .zero, 0.0, .start, [], 0, alarm⟩

/-- The instant at which the dispatcher acts next. -/
def dispatcherInstant (t : Timed) : Nat :=
  if t.run.phase = .draining then t.deadline else t.nextTick.ceilMillis

/-- The next instant at which anything happens. -/
def nextInstant (t : Timed) : Nat :=
  (t.ends ++ t.alarm.instant?.toList).foldl min t.dispatcherInstant

/-- Everything in flight is told to stop, and stops. -/
def halt (t : Timed) : Timed :=
  if t.run.phase = .stopping then
    let held := t.run.running
    let run := (((t.run.exhaust .cancel held).exhaust .discard held).exhaust .collect
      t.run.inFlight).attempt .finish
    { t with run := run, ends := [] }
  else t

/-- The schedule is over. -/
def endSchedule (t : Timed) (s : Schedule) : Timed :=
  { t with
    run := (t.run.attempt .close).attempt .drained
    deadline := t.now + s.gracefulStop.ceilMillis }

/-- What comes due is started or dropped. -/
def tick (t : Timed) (s : Schedule) : Except Span.Fault Timed :=
  let time : Float := (Span.ofMillis t.now).seconds
  let (due, budget) := t.budget.advance s.model t.lastTick time
  let run := ((((t.run.attempt (.tick due)).exhaust .dispatch due).attempt .dispatched).attempt
    .look).exhaust .wake due
  let ends := List.replicate (run.started - t.run.started) (t.now + s.iterationMillis)
  match Tick.after s.model time with
  | .error e => .error e
  | .ok wait =>
    .ok { t with
      run := run
      nextTick := t.nextTick + wait
      lastTick := time
      budget := budget
      ends := t.ends ++ ends }

/-- The dispatcher acts, if it is time. -/
def dispatch (t : Timed) (s : Schedule) (total : Span) : Except Span.Fault Timed :=
  if t.run.phase = .waiting ∧ t.nextTick.ceilMillis ≤ t.now then
    if total ≤ Span.ofMillis t.now then .ok (t.endSchedule s) else t.tick s
  else .ok t

/-- The wait for the iterations under way is over, if it is time. -/
def expire (t : Timed) : Timed :=
  if t.run.phase = .draining ∧ t.deadline ≤ t.now then { t with run := t.run.attempt .expire }
  else t

/-- Iterations end one by one, and each records what it did. -/
def endIterations (r : Run) (events : List Event) : Nat → Run
  | 0 => r
  | n + 1 =>
    endIterations ((events.foldl (fun r e => r.attempt (.note e)) r).attempt .complete) events n

/-- The iterations end whose time it is. -/
def complete (t : Timed) (s : Schedule) : Timed :=
  let (ending, rest) := t.ends.partition (· ≤ t.now)
  { t with run := endIterations t.run s.events ending.length, ends := rest }

/-- The alarm goes off, if it is time. -/
def sound (t : Timed) : Timed :=
  if t.alarm.instant? = some t.now then
    let move := match t.alarm with
      | .every .. => .watch (Span.ofMillis t.now)
      | _ => .raise
    { t with run := t.run.attempt move, alarm := t.alarm.later }
  else t

/-- Collects iterations one by one, looking at the flag after each. -/
def collect (r : Run) : Nat → Run
  | 0 => r
  | n + 1 => collect ((r.attempt .collect).attempt .look) n

/-- The dispatcher sees what happened. -/
def see (t : Timed) : Timed :=
  let run :=
    if t.run.phase = .waiting then
      if t.run.raised then (t.run.attempt .notice).attempt .look else collect t.run t.run.ended
    else if t.run.raised then t.run.attempt .abort
    else (t.run.exhaust .collect t.run.ended).attempt .drained
  { t with run := run }

/-- Everything that happens at the next instant. -/
def advance (t : Timed) (s : Schedule) (total : Span) : Except Span.Fault Timed :=
  match { t with now := t.nextInstant }.dispatch s total with
  | .error e => .error e
  | .ok t => .ok (if t.expire.run.phase = .stopping then t.expire.halt
      else (t.expire.complete s).sound.see.halt)

/-- Goes on from instant to instant, at most `fuel` times. -/
def go (s : Schedule) (total : Span) (t : Timed) : Nat → Except Span.Fault Timed
  | 0 => .ok t
  | fuel + 1 =>
    if t.run.phase = .over then .ok t
    else
      match t.advance s total with
      | .error e => .error e
      | .ok t => t.go s total fuel

/-- A bound on the number of instants: the clock shows a later one each time. -/
def instants (s : Schedule) (total : Span) : Nat :=
  total.ceilMillis + s.gracefulStop.ceilMillis + Tick.longest.ceilMillis + 2

def summary (t : Timed) : Summary :=
  ⟨t.run.started, t.run.dropped, t.run.interrupted, t.run.aborted, .ofMillis t.now⟩

end Timed

/-- Plays a run on a clock from its beginning to its end. -/
def Run.playOnClock (r : Run) (s : Schedule) (alarm : Alarm) : Except Span.Fault Timed :=
  match s.model.total with
  | .error e => .error e
  | .ok total => ((Timed.start r alarm).halt).go s total (Timed.instants s total)

end FedLoad
