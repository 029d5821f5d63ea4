import FedLoad.Record.Book
import FedLoad.Threshold.Expression
import FedLoad.Threshold.Metric
/-!
# Thresholds

A threshold is an expression about a metric. It passes as long as the comparison holds between what
is observed and the limit, and while there is nothing to observe. Of rates only the rate and the
count can be asked, of latencies everything but a rate.

A threshold may ask for the run to be aborted when it fails, though not before some time is over.
-/
namespace FedLoad

structure Threshold where
  metric : Metric
  expression : Expression
  /-- The expression as written, without blanks around it. -/
  source : String
  /-- Does a failure abort the run? -/
  aborts : Bool
  /-- How long a failure is ignored. -/
  delay : Span
deriving DecidableEq, Repr

namespace Threshold

/-! ## Reading -/

inductive ReadError where
  | metric (text : String)
  | expression (cause : Expression.ReadError)
  | unsupported (metric : Metric) (statistic : Statistic)

def ReadError.message : ReadError → String
  | .metric text => s!"Unknown metric '{text}'. Expected error_rate, " ++
    "error_rate\x7berrorType:...\x7d, checks or http_req_duration"
  | .expression cause => cause.message
  | .unsupported m s => s!"Aggregation '{s.write}' is not available for metric '{m.write}'"

/-- Can this statistic be asked of this metric? -/
def supports (m : Metric) (s : Statistic) : Bool :=
  match m, s with
  | .defects _, .rate | .defects _, .count | .checks, .rate | .checks, .count => true
  | .defects _, _ | .checks, _ => false
  | .latency, .rate => false
  | .latency, _ => true

/-- Reads a threshold. The metric is looked at first, then the expression. -/
def read (metric expression : String) (aborts : Bool) (delay : Span) :
    Except ReadError Threshold :=
  match Metric.read? metric with
  | none => .error (.metric metric)
  | some m =>
    match Expression.read expression with
    | .error cause => .error (.expression cause)
    | .ok e =>
      if supports m e.statistic then
        .ok ⟨m, e, String.ofList (Text.trim expression.toList), aborts, delay⟩
      else .error (.unsupported m e.statistic)

/-! ## Observing -/

/-- The rate of samples of a choice of defects. -/
def defectRate (t : Tally) : Option Defect → Rate
  | none => t.samples
  | some d => t.byDefect.get d

/-- A statistic of a rate; `share` is what its rate means, `number` its count. -/
def ofRate (share : Option Float) (number : Nat) : Statistic → Option Float
  | .count => some (floatOfNat number)
  | _ => share

/-- A statistic of latencies in milliseconds. -/
def ofLatencies (h : Latency.Histogram) : Statistic → Option Float
  | .count => some (floatOfNat h.count)
  | .avg => h.meanMillis
  | .min => h.leastMillis
  | .max => h.mostMillis
  | .med => h.percentileMillis 50.0
  | .percentile p => h.percentileMillis p
  | .rate => none

/-- What is observed, if there is anything to observe. -/
def observe (t : Threshold) (tally : Tally) : Option Float :=
  match t.metric with
  | .defects only =>
    let r := defectRate tally only
    ofRate (r.failureShare Float) r.failed t.expression.statistic
  | .checks =>
    ofRate (tally.checks.passShare Float) tally.checks.total t.expression.statistic
  | .latency => ofLatencies tally.latencies t.expression.statistic

/-- What a threshold observed, and whether it passed. -/
structure Outcome where
  observed : Option Float
  passed : Bool
deriving DecidableEq, Repr

def evaluate (t : Threshold) (tally : Tally) : Outcome :=
  let observed := t.observe tally
  ⟨observed, observed.all fun x => t.expression.comparison.holds x t.expression.limit⟩

/-! ## During and after the run -/

/-- Is this threshold watched for aborting after some time? -/
def isWatched (elapsed : Span) (t : Threshold) : Bool := t.aborts && decide (t.delay ≤ elapsed)

/-- The first watched threshold that fails. -/
def breach? (thresholds : List Threshold) (tally : Tally) (elapsed : Span) :
    Option (Threshold × Outcome) :=
  ((thresholds.filter (isWatched elapsed)).map fun t => (t, t.evaluate tally)).find?
    fun (_, outcome) => !outcome.passed

/-- The outcomes of all thresholds, for the verdict. -/
def outcomes (thresholds : List Threshold) (tally : Tally) : List (Threshold × Outcome) :=
  thresholds.map fun t => (t, t.evaluate tally)

/-- The events of a verdict: one for each threshold that fails. -/
def breaches (outcomes : List (Threshold × Outcome)) : List Event :=
  (outcomes.filter fun (_, o) => !o.passed).map fun (t, _) => .breach t.metric.write

/-- Evaluates all thresholds and enters the failures into the book. -/
def evaluateAll (thresholds : List Threshold) (book : Book) :
    List (Threshold × Outcome) × Book :=
  let all := outcomes thresholds book.tally
  (all, book.recordAll (breaches all))

/-! ## Defaults -/

/-- The limit on the latency of nearly all requests. -/
def latencyDefault : Threshold :=
  ⟨.latency, ⟨.percentile 95.0, .lt, 200.0⟩, "p(95)<200", false, .zero⟩

/-- The limit on samples with any defect, which aborts after the first second. -/
def defectsDefault : Threshold :=
  ⟨.defects none, ⟨.rate, .lt, 0.01⟩, "rate < 0.01", true, .ofSeconds 1⟩

/-- The limit on samples with one defect. -/
def defectDefault (d : Defect) : Threshold :=
  ⟨.defects (some d), ⟨.rate, .lt, 0.1⟩, "rate < 0.1", false, .zero⟩

/-- The thresholds of a run that names none. -/
def defaults : List Threshold := latencyDefault :: defectsDefault :: Defect.all.map defectDefault

end Threshold

end FedLoad
