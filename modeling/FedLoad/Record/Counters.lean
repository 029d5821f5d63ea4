import FedLoad.Keyed
import FedLoad.Record.Event
/-!
# The counters that are exposed

The counters are kept beside the tally, under the labels with which they are exposed. A labelled
counter exists once it has been counted up.
-/
namespace FedLoad

structure Counters where
  requests : Nat
  /-- Answers by the label of their status. -/
  statuses : List (List String × Nat)
  /-- Outages by category. -/
  outages : List (List String × Nat)
  /-- How long each request took, the latest first. -/
  latencies : List Span
  /-- Checks by name and result. -/
  checks : List (List String × Nat)
  /-- Samples by defect and result. -/
  samples : List (List String × Nat)
  pages : Nat
  iterations : Nat
  dropped : Nat
  /-- Failed thresholds by metric. -/
  breaches : List (List String × Nat)
deriving DecidableEq, Repr

namespace Counters

def empty : Counters := ⟨0, [], [], [], [], [], 0, 0, 0, []⟩

/-- The statuses that have a label of their own. -/
def ownStatuses : List Nat :=
  [200, 204, 301, 302, 304, 400, 401, 403, 404, 406, 410, 429, 500, 502, 503, 504]

/-- The label of a status: its number, `other` for a rare one, `error` for none at all. -/
def statusLabel : Option Nat → String
  | none => "error"
  | some status => if ownStatuses.contains status then toString status else "other"

def resultLabel (passed : Bool) : String := if passed then "passed" else "failed"

/-- The counters after one more event. -/
def record (c : Counters) : Event → Counters
  | .sample d passed =>
    { c with samples := Keyed.bump [d.label, resultLabel passed] 1 c.samples }
  | .check name passed => { c with checks := Keyed.bump [name, resultLabel passed] 1 c.checks }
  | .latency took => { c with latencies := took :: c.latencies }
  | .iteration => { c with iterations := c.iterations + 1 }
  | .dropped => { c with dropped := c.dropped + 1 }
  | .page => { c with pages := c.pages + 1 }
  | .request => { c with requests := c.requests + 1 }
  | .answered status => { c with statuses := Keyed.bump [statusLabel status] 1 c.statuses }
  | .outage cause => { c with outages := Keyed.bump [cause.label] 1 c.outages }
  | .breach metric => { c with breaches := Keyed.bump [metric] 1 c.breaches }

/-- The counters after a sequence of events. -/
def recordAll (c : Counters) (events : List Event) : Counters := events.foldl record c

/-- The count under some labels; nothing counted is zero. -/
def countAt (labels : List String) (counts : List (List String × Nat)) : Nat :=
  (counts.lookup labels).getD 0

end Counters

end FedLoad
