import FedLoad.Plan.Written
/-!
# Plans

A plan describes a run in a text: the service, the load, the actors to walk and the thresholds to
meet. All of it but the version may be left out. The load is a constant rate if one is given, and a
ramp otherwise.
-/
namespace FedLoad

/-- What a plan says about itself. -/
structure PlanNotes where
  name : Option String
  description : Option String
  tags : List String
deriving DecidableEq, Repr

/-- What a plan says about the way of the run. -/
structure PlanConfig where
  baseUrl : Option String
  timeout : Option WrittenSpan
  maxUsers : Option Nat
  maxPages : Option Nat
  sleep : Option WrittenPause
  gracefulStop : Option WrittenSpan
  skipTlsVerify : Option Bool
  headers : Option String
  setupEnding : Option String
deriving DecidableEq, Repr

/-- What a plan says about the load. -/
structure PlanLoad where
  startRate : Float
  timeUnit : Option WrittenSpan
  stages : List WrittenStage
  /-- The constant rate, if there is one. -/
  rate : Option Float
  duration : Option WrittenSpan
deriving Repr

structure Plan where
  version : String
  notes : PlanNotes
  config : PlanConfig
  load : Option PlanLoad
  actors : List Actor
  /-- Metrics in ascending order, with their thresholds in the order written. -/
  thresholds : List (String × List WrittenThreshold)

namespace PlanNotes

def none : PlanNotes := ⟨.none, .none, []⟩

end PlanNotes

namespace PlanConfig

def none : PlanConfig := ⟨.none, .none, .none, .none, .none, .none, .none, .none, .none⟩

end PlanConfig

namespace PlanLoad

def isConstant (l : PlanLoad) : Bool := l.rate.isSome

/-- The unit of time, unless one is written the one given. -/
def timeUnitOr (l : PlanLoad) (unit : Span) : Except PlanError Span :=
  match WrittenSpan.given? l.timeUnit with
  | .ok given => .ok (given.getD unit)
  | .error e => .error e

/-- The length of a constant load, which must be written. -/
def constantDuration (l : PlanLoad) : Except PlanError Span :=
  match l.duration with
  | none => .error .noDuration
  | some w => w.span

/-- The load model that is meant. -/
def model (l : PlanLoad) (unit : Span) : Except PlanError (LoadModel Float) :=
  match l.timeUnitOr unit with
  | .error e => .error e
  | .ok unit =>
    match l.rate with
    | some rate =>
      match l.constantDuration with
      | .error e => .error e
      | .ok duration => .ok (.constant rate unit duration)
    | none =>
      match WrittenStage.stages l.stages with
      | .error e => .error e
      | .ok stages => .ok (.ramping l.startRate unit stages)

end PlanLoad

namespace Plan

/-- Every threshold with its metric: by metrics, then in the order written. -/
def entries (p : Plan) : List (String × WrittenThreshold) :=
  p.thresholds.flatMap fun (metric, ws) => ws.map fun w => (metric, w)

/-- The thresholds that are meant. -/
def readThresholds (p : Plan) : Except PlanError (List Threshold) :=
  WrittenThreshold.thresholds p.entries

end Plan

end FedLoad
