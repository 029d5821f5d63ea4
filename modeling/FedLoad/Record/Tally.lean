import FedLoad.Keyed
import FedLoad.Latency.Histogram
import FedLoad.Record.Event
import FedLoad.Record.Rate
/-!
# The tally of a run

The tally is what thresholds and the final report look at: pass and fail counts of all defects and
of each, of all checks and of each by name, the latency histogram, and the numbers of iterations,
dropped iterations and pages.
-/
namespace FedLoad

/-- One rate for each defect. -/
structure DefectRates where
  status : Rate
  contentType : Rate
  bodySize : Rate
  objectType : Rate
deriving DecidableEq, Repr

namespace DefectRates

def zero : DefectRates := ⟨.zero, .zero, .zero, .zero⟩

def get (r : DefectRates) : Defect → Rate
  | .status => r.status
  | .contentType => r.contentType
  | .bodySize => r.bodySize
  | .objectType => r.objectType

/-- One more sample of a defect. -/
def add (r : DefectRates) (d : Defect) (passed : Bool) : DefectRates :=
  match d with
  | .status => { r with status := r.status.add passed }
  | .contentType => { r with contentType := r.contentType.add passed }
  | .bodySize => { r with bodySize := r.bodySize.add passed }
  | .objectType => { r with objectType := r.objectType.add passed }

theorem get_add (r : DefectRates) (d e : Defect) (passed : Bool) :
    (r.add d passed).get e = if e = d then (r.get e).add passed else r.get e := by
  cases d <;> cases e <;> simp [add, get]

end DefectRates

structure Tally where
  /-- Samples of every defect together. -/
  samples : Rate
  byDefect : DefectRates
  /-- Checks of every name together. -/
  checks : Rate
  /-- Checks by name, in ascending order. -/
  byCheck : List (String × Rate)
  latencies : Latency.Histogram
  iterations : Nat
  dropped : Nat
  pages : Nat
deriving DecidableEq, Repr

namespace Tally

def empty : Tally where
  samples := .zero
  byDefect := .zero
  checks := .zero
  byCheck := []
  latencies := .empty
  iterations := 0
  dropped := 0
  pages := 0

/-- The tally after one more event. -/
def record (t : Tally) : Event → Tally
  | .sample d passed =>
    { t with samples := t.samples.add passed, byDefect := t.byDefect.add d passed }
  | .check name passed =>
    { t with
      checks := t.checks.add passed
      byCheck := Keyed.alter name (fun r => (r.getD .zero).add passed) t.byCheck }
  | .latency took => { t with latencies := t.latencies.recordSpan took }
  | .iteration => { t with iterations := t.iterations + 1 }
  | .dropped => { t with dropped := t.dropped + 1 }
  | .page => { t with pages := t.pages + 1 }
  | .request | .answered _ | .outage _ | .breach _ => t

/-- The tally after a sequence of events. -/
def recordAll (t : Tally) (events : List Event) : Tally := events.foldl record t

end Tally

end FedLoad
