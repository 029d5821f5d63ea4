import FedLoad.Record.Exposition
import FedLoad.Run.Iteration
import FedLoad.Run.Timed
import FedLoad.Settings.Overview
/-!
# The program

The program takes its settings from an environment, shows them, looks at the actors if that is asked
for, makes the run, and reports on it. It ends with a code that says whether the run passed: all
thresholds have to pass at the end, and none may have aborted the run. Faulty settings are reported
with help instead.

Here no server can be reached, and the run is made on a clock.
-/
namespace FedLoad.Program

/-- How the program ends, and what it has written. -/
structure Ending where
  code : Nat
  output : String
  complaint : String
deriving DecidableEq, Repr

/-! ## Codes -/

def passed : Nat := 0

def badSettings : Nat := 1

def failed : Nat := 99

/-- The code when a calculation has no result. -/
def noResult : Nat := 101

/-- The code after a run. -/
def verdict (s : Summary) (outcomes : List (Threshold × Threshold.Outcome)) : Nat :=
  if s.aborted || outcomes.any (fun (_, o) => !o.passed) then failed else passed

/-! ## Parts of the output -/

/-- Faulty settings, and the help. -/
def complain (message : String) : Ending :=
  ⟨badSettings, "", "Configuration error: " ++ message ++ "\n\n" ++ Defaults.helpText⟩

/-- A calculation without a result ends the program; `shown` was written before. -/
def giveUp (shown : String) (fault : Span.Fault) : Ending :=
  ⟨noResult, shown, fault.message ++ "\n"⟩

/-- How often the watcher looks at the thresholds. -/
def watchInterval : Span := .ofSeconds 2

/-- The names of all counters begin so. -/
def space (env : Environment) : String :=
  (env.lookup "METRIC_NAMESPACE").getD Exposition.defaultSpace

/-- The counters after a run. -/
def finalMetrics (env : Environment) (book : Book) : String :=
  let lines := Exposition.lines (space env) book.counters
  "\n--- FINAL METRICS ---\n" ++ String.join (lines.map fun line => line ++ "\n") ++
    "\n--- END OF FINAL METRICS ---\n\n"

/-! ## The run -/

/-- The book after the actors were looked at, if that is asked for. -/
def bookBefore (s : Settings) : Book :=
  if s.hasSetup then (Trail.empty.setup Web.offline s.actors).2.book else .empty

/-- Makes the run. -/
def play (s : Settings) : Except Span.Fault Timed :=
  let scenario : Scenario := ⟨s.actors, s.sleep⟩
  (Run.begin s.maxUsers s.thresholds (bookBefore s)).playOnClock
    ⟨s.model, s.gracefulStop, scenario.pauses 0, scenario.eventsOffline⟩ (.every watchInterval 0)

/-- Reports on a run. -/
def conclude (env : Environment) (s : Settings) (overview : String) (timed : Timed) : Ending :=
  let (outcomes, book) := Threshold.evaluateAll s.thresholds timed.run.book
  ⟨verdict timed.summary outcomes,
    overview ++ Report.render book.tally timed.summary outcomes ++ "\n" ++ finalMetrics env book,
    ""⟩

/-- Runs the program; `text` finds the text of a name. -/
def run (env : Environment) (text : String → Except String String) : Ending :=
  match Settings.load env text with
  | .error e => complain e.message
  | .ok s =>
    match Client.build s.client with
    | .error e => complain e.message
    | .ok client =>
      match s.overview client.headers with
      | .error fault => giveUp s.opening fault
      | .ok overview =>
        match play s with
        | .error fault => giveUp overview fault
        | .ok timed => conclude env s overview timed

end FedLoad.Program
