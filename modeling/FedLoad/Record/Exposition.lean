import FedLoad.Decimal.Style
import FedLoad.Record.Counters
/-!
# Exposition of the counters

The counters are exposed as lines of text. A family has two lines of heading, with its help and its
type, and a line for each sample; families stand in ascending order of names, samples in ascending
order of labels, and a family with labels is left out while it has no sample. In a label a
backslash, a quote and a line feed are escaped. Gauges are read between requests and iterations,
when none is under way.
-/
namespace FedLoad.Exposition

/-- How a family is described and counted. -/
inductive Values where
  | counter (n : Nat)
  | labelled (names : List String) (counts : List (List String × Nat))
  | gauge (n : Nat)
  | latencies (taken : List Span)

structure Family where
  name : String
  help : String
  values : Values

def Values.type : Values → String
  | .counter _ | .labelled .. => "counter"
  | .gauge _ => "gauge"
  | .latencies _ => "histogram"

/-- The families in ascending order of names. -/
def families (c : Counters) : List Family := [
  ⟨"active_vus", "Virtual users currently running an iteration", .gauge 0⟩,
  ⟨"checks_total", "Total number of response checks", .labelled ["check", "result"] c.checks⟩,
  ⟨"concurrent_requests", "Number of HTTP requests currently in flight", .gauge 0⟩,
  ⟨"dropped_iterations_total", "Iterations not started because every VU was busy",
    .counter c.dropped⟩,
  ⟨"error_rate_samples_total", "Error-rate samples by errorType",
    .labelled ["error_type", "result"] c.samples⟩,
  ⟨"iterations_total", "Completed scenario iterations", .counter c.iterations⟩,
  ⟨"pages_fetched_total", "Collection pages fetched while paginating", .counter c.pages⟩,
  ⟨"request_duration_seconds", "HTTP request latencies in seconds.", .latencies c.latencies⟩,
  ⟨"request_errors_by_category_total", "Transport failures by category",
    .labelled ["category"] c.outages⟩,
  ⟨"requests_status_codes_total", "Number of HTTP requests by status code",
    .labelled ["status_code"] c.statuses⟩,
  ⟨"requests_total", "Total number of HTTP requests made", .counter c.requests⟩,
  ⟨"thresholds_breached_total", "Threshold evaluations that failed",
    .labelled ["metric"] c.breaches⟩]

/-! ## Lines -/

def escapedLabel (s : String) : String :=
  String.ofList <| s.toList.flatMap fun c =>
    match c with
    | '\\' => ['\\', '\\']
    | '"' => ['\\', '"']
    | '\n' => ['\\', 'n']
    | c => [c]

def labelled (labels : List (String × String)) : String :=
  "\x7b" ++ ",".intercalate (labels.map fun (name, value) => name ++ "=\"" ++ escapedLabel value
    ++ "\"") ++ "\x7d"

/-- The upper ends of the buckets of request durations, in seconds. -/
def durationBounds : List Float :=
  [0.005, 0.01, 0.025, 0.05, 0.1, 0.25, 0.5, 1.0, 2.5, 5.0, 10.0]

/-- The lines of the buckets, the sum and the count of request durations. -/
def durationLines (name : String) (taken : List Span) : List String :=
  let seconds : List Float := taken.reverse.map Span.seconds
  let bucket (bound : String) (n : Nat) : String :=
    s!"{name}_bucket" ++ labelled [("le", bound)] ++ s!" {n}"
  durationBounds.map (fun b =>
    bucket (Decimal.write .amount b) (seconds.filter fun s => s ≤ b).length) ++
  [bucket "+Inf" seconds.length,
   s!"{name}_sum {Decimal.write .amount (seconds.foldl (· + ·) 0.0)}",
   s!"{name}_count {seconds.length}"]

def Family.samples (f : Family) (name : String) : List String :=
  match f.values with
  | .counter n | .gauge n => [s!"{name} {n}"]
  | .labelled names counts =>
    counts.map fun (values, n) => name ++ labelled (names.zip values) ++ s!" {n}"
  | .latencies taken => durationLines name taken

/-- The heading and the samples of a family, nothing if it has no sample. -/
def Family.lines (f : Family) (space : String) : List String :=
  let name := if space.isEmpty then f.name else space ++ "_" ++ f.name
  match f.samples name with
  | [] => []
  | samples => s!"# HELP {name} {f.help}" :: s!"# TYPE {name} {f.values.type}" :: samples

/-- All lines of the exposition; the names of all families begin with `space`. -/
def lines (space : String) (c : Counters) : List String :=
  (families c).flatMap (·.lines space)

/-- The name space of the counters when none is set. -/
def defaultSpace : String := "activitypub_loadtest"

/-- The content type under which the lines are served. -/
def contentType : String := "text/plain; version=0.0.4"

end FedLoad.Exposition
