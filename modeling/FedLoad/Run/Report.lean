import FedLoad.Latency.Stats
import FedLoad.Text.Columns
import FedLoad.Threshold.Basic
/-!
# The report of a run

After a run its figures are reported as text: every check with its passes and failures, the error
rates, the latencies, what became of the iterations, and the outcome of every threshold.
-/
namespace FedLoad

open Text Decimal

/-- What became of a run. -/
structure Summary where
  started : Nat
  dropped : Nat
  interrupted : Nat
  aborted : Bool
  elapsed : Span
deriving DecidableEq, Repr

namespace Report

/-- A share in percent with two places. -/
def percent : Option Float → String
  | some share => fixed 2 (share * 100.0) ++ "%"
  | none => "n/a"

def mark (passed : Bool) : String := if passed then "✓" else "✗"

/-! ## Checks -/

/-- The four columns of a check, of which the first is `width` wide. -/
def checkColumns (width : Nat) (name passes fails share : String) : String :=
  " ".intercalate [padRight width name, padLeft 10 passes, padLeft 10 fails, padLeft 10 share]

def checkFigures (name : String) (r : Rate) : String :=
  checkColumns 38 name (toString r.passed) (toString r.failed) (percent (r.passShare Float))

def checkLines (t : Tally) : List String :=
  ["", "## Checks", "", checkColumns 40 "Check" "Passes" "Fails" "Pass %", rule 73] ++
  (if t.byCheck.isEmpty then ["No checks ran."]
    else t.byCheck.map fun (name, r) => mark (r.failed == 0) ++ " " ++ checkFigures name r) ++
  ["  " ++ checkFigures "checks" t.checks]

/-! ## Error rates and latencies -/

def rateLine (label : String) (r : Rate) : String :=
  "  " ++ padRight 36 label ++ " " ++ padLeft 8 (toString r.failed) ++ " of " ++
    padRight 8 (toString r.total) ++ " " ++ percent (r.failureShare Float)

def rateLines (t : Tally) : List String :=
  ["", "## Error rate", "", rateLine (Metric.write (.defects none)) t.samples] ++
  Defect.all.map fun d => rateLine (Metric.write (.defects (some d))) (t.byDefect.get d)

/-- The table of latencies, which ends its own lines. -/
def latencyTable (t : Tally) : String :=
  Latency.table "Request latency"
    (t.latencies.stats.map fun stats => (Metric.write .latency, stats)).toList

/-! ## Iterations and thresholds -/

def iterationLines (t : Tally) (s : Summary) : List String :=
  ["", "## Iterations", "",
    s!"  started:     {s.started}",
    s!"  completed:   {t.iterations}",
    s!"  dropped:     {t.dropped}",
    s!"  interrupted: {s.interrupted}",
    s!"  pages:       {t.pages}",
    s!"  elapsed:     {fixed 1 s.elapsed.seconds}s"] ++
  (if s.aborted then ["  run aborted by threshold"] else [])

def outcomeLine (t : Threshold) (o : Threshold.Outcome) : String :=
  " ".intercalate [mark o.passed, padRight 40 t.metric.write, padRight 16 t.source, "observed",
    (o.observed.map (fixed 4)).getD "no samples"]

def outcomeLines (outcomes : List (Threshold × Threshold.Outcome)) : List String :=
  ["", "## Thresholds", ""] ++
  (if outcomes.isEmpty then ["No thresholds configured."]
    else outcomes.map fun (t, o) => outcomeLine t o)

/-! ## The whole report -/

/-- Every line ended. -/
def ended (lines : List String) : String := String.join (lines.map (· ++ "\n"))

def render (t : Tally) (s : Summary) (outcomes : List (Threshold × Threshold.Outcome)) : String :=
  ended (checkLines t ++ rateLines t) ++ latencyTable t ++
    ended (iterationLines t s ++ outcomeLines outcomes)

end Report

end FedLoad
