import FedLoad.Settings.Basic
/-!
# The overview of settings

Before a run its settings are shown, one to a line: the load in full, then the limits, the actors,
the thresholds and the headers. Spans are shown in their largest fitting unit, and a header whose
value is not plain text is shown by name only.
-/
namespace FedLoad

open Decimal

/-- A rate among settings. -/
def shownRate (x : Float) : String := Decimal.write .setting x

/-- A name with its parts in braces. -/
def shownRecord (name : String) (parts : List (String × String)) : String :=
  name ++ " \x7b " ++ ", ".intercalate (parts.map fun (part, value) => part ++ ": " ++ value) ++
    " \x7d"

def Stage.shown (s : Stage Float) : String :=
  shownRecord "Stage" [("target", shownRate s.target), ("duration", s.duration.shown)]

def LoadModel.shown : LoadModel Float → String
  | .constant rate unit duration =>
    shownRecord "ConstantArrivalRate"
      [("rate", shownRate rate), ("time_unit", unit.shown), ("duration", duration.shown)]
  | .ramping startRate unit stages =>
    shownRecord "RampingArrivalRate"
      [("start_rate", shownRate startRate), ("time_unit", unit.shown),
        ("stages", "[" ++ ", ".intercalate (stages.map Stage.shown) ++ "]")]

def Pause.shown : Pause → String
  | .fixed length => "Fixed(" ++ length.shown ++ ")"
  | .between least most => shownRecord "Random" [("min", least.shown), ("max", most.shown)]

namespace Settings

def actorLine (a : Actor) : String :=
  "    " ++ a.id.getD "<missing id>" ++ " (" ++ a.type.getD "any type" ++ ")"

def thresholdLine (t : Threshold) : String :=
  s!"    {t.metric.write}: {t.source}" ++ (if t.aborts then " (abortOnFail)" else "")

def headerLine (name value : String) : String :=
  s!"    {name}: " ++
    (if Headers.isShown value then value else "<non-ASCII or sensitive value>")

/-- The lines before the length of the load. -/
def openingLines (s : Settings) : List String :=
  ["Starting ActivityPub load test:",
    s!"  Base URL: {s.baseUrl}",
    s!"  Load Model: {s.model.shown}"]

/-- The lines of the overview; `total` is the length of the load. -/
def overviewLines (s : Settings) (total : Span) (headers : Headers) : List String :=
  s.openingLines ++
  [s!"  Total Duration: {total.shown}",
    s!"  Max VUs: {s.maxUsers}",
    s!"  Request Timeout: {s.timeout.shown}",
    s!"  Max Pages per Collection: {s.maxPages}",
    "  Sleep Time: " ++ (match s.sleep with
      | none => "None"
      | some p => "Some(" ++ p.shown ++ ")"),
    s!"  Graceful Stop: {s.gracefulStop.shown}",
    s!"  Skip TLS Verify: {s.skipTlsVerify}"] ++
  "  Actors:" :: s.actors.map actorLine ++
  "  Thresholds:" :: s.thresholds.map thresholdLine ++
  "  Request Headers:" :: headers.map fun (name, value) => headerLine name value

/-- Lines of the overview, every line ended. -/
def shown (lines : List String) : String := String.join (lines.map fun line => line ++ "\n")

/-- The overview; there is none for a load that is too long. -/
def overview (s : Settings) (headers : Headers) : Except Span.Fault String :=
  s.model.total.map fun total => shown (s.overviewLines total headers)

/-- What is shown of a load that is too long. -/
def opening (s : Settings) : String := shown s.openingLines

end Settings

end FedLoad
