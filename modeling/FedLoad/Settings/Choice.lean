import FedLoad.Plan.Reader
import FedLoad.Settings.Defaults
import FedLoad.Settings.Layers
/-!
# The choice of single settings

Every setting is chosen by itself, from an environment and a plan. What the environment says goes
before what the plan says, and that before the defaults.

The load of a plan at a constant rate is taken as a whole, unless the environment gives a rate or
stages. Otherwise the load is a ramp, whose start, unit of time and stages are chosen apart.
-/
namespace FedLoad.Choice

open Environment (readSpan readPause readWhole readFloat readStages readFlag)

/-! ## The load -/

def startRate (env : Environment) (load : Option PlanLoad) : Except SettingsError Float :=
  match env.read? "START_RATE" readFloat with
  | .error e => .error e
  | .ok none => .ok ((load.map PlanLoad.startRate).getD 0.0)
  | .ok (some x) =>
    if Stage.isRate x then .ok x
    else .error (.value "START_RATE" (Decimal.write .amount x) .noRate)

def timeUnit (env : Environment) (load : Option PlanLoad) : Except SettingsError Span :=
  match layered (env.read? "TIME_UNIT" readSpan)
      (planned (WrittenSpan.given? (load.bind PlanLoad.timeUnit))) Defaults.timeUnit with
  | .error e => .error e
  | .ok unit => if unit.isZero then .error (.value "TIME_UNIT" "0" .zero) else .ok unit

/-- The stages of a plan, if it has any. -/
def plannedStages (load : Option PlanLoad) : Except PlanError (Option (List (Stage Float))) :=
  match (load.map PlanLoad.stages).getD [] with
  | [] => .ok none
  | stages =>
    match WrittenStage.stages stages with
    | .ok stages => .ok (some stages)
    | .error e => .error e

def stages (env : Environment) (load : Option PlanLoad) :
    Except SettingsError (List (Stage Float)) :=
  layered (env.read? "RAMP_STAGES" readStages) (planned (plannedStages load)) Defaults.ramp

/-- Does the environment leave the shape of the load alone? -/
def keepsShape (env : Environment) : Bool :=
  (env.given? "START_RATE").isNone && (env.given? "RAMP_STAGES").isNone

/-- The load of a plan, if it is taken as a whole. -/
def constantLoad? (env : Environment) (load : Option PlanLoad) : Option PlanLoad :=
  load.filter fun l => l.isConstant && keepsShape env

def model (env : Environment) (load : Option PlanLoad) :
    Except SettingsError (LoadModel Float) := do
  let startRate ← startRate env load
  let unit ← timeUnit env load
  match constantLoad? env load with
  | some l => planned (l.model unit)
  | none => return .ramping startRate unit (← stages env load)

/-! ## Single settings -/

/-- The address of the service, without slashes at its end. -/
def baseUrl (env : Environment) (c : PlanConfig) : Except SettingsError String :=
  match (env.given? "TEST_HOST").or c.baseUrl with
  | none => .error .noBaseUrl
  | some url =>
    match Fault.ofUrl? url with
    | some fault => .error (.value "TEST_HOST" url (.field fault))
    | none => .ok (Actor.dropSlashes url)

def maxUsers (env : Environment) (c : PlanConfig) : Except SettingsError Nat :=
  match layered (env.read? "MAX_VUS" (readWhole 64)) (.ok c.maxUsers) Defaults.maxUsers with
  | .error e => .error e
  | .ok n =>
    match Fault.ofRange? n 1 PlanConfig.userLimit "MAX_VUS" with
    | some fault => .error (.value "MAX_VUS" (toString n) (.field fault))
    | none => .ok n

def timeout (env : Environment) (c : PlanConfig) : Except SettingsError Span :=
  layered (env.read? "REQUEST_TIMEOUT" readSpan) (planned (WrittenSpan.given? c.timeout))
    Defaults.timeout

def maxPages (env : Environment) (c : PlanConfig) : Except SettingsError Nat :=
  match layered (env.read? "MAX_PAGES" (readWhole 64)) (.ok c.maxPages) Defaults.maxPages with
  | .error e => .error e
  | .ok n => if n = 0 then .error (.value "MAX_PAGES" "0" .noPage) else .ok n

def sleep (env : Environment) (c : PlanConfig) : Except SettingsError (Option Pause) :=
  match env.read? "SLEEP_TIME" readPause with
  | .error e => .error e
  | .ok (some p) => .ok (some p)
  | .ok none => planned (WrittenPause.given? c.sleep)

def gracefulStop (env : Environment) (c : PlanConfig) : Except SettingsError Span :=
  layered (env.read? "GRACEFUL_STOP" readSpan) (planned (WrittenSpan.given? c.gracefulStop))
    Defaults.gracefulStop

def setupEnding (env : Environment) (c : PlanConfig) : String :=
  ((env.given? "SETUP_HOST_SUFFIX").or c.setupEnding).getD Defaults.setupEnding

def skipTlsVerify (env : Environment) (c : PlanConfig) : Bool :=
  (((env.given? "SKIP_TLS_VERIFY").map readFlag).or c.skipTlsVerify).getD false

def headers (env : Environment) (c : PlanConfig) : Option String :=
  (env.given? "CUSTOM_HEADERS").or c.headers

def metricsPort (env : Environment) : Except SettingsError Nat :=
  layered (env.read? "METRICS_PORT" (readWhole 16)) (.ok none) Defaults.metricsPort

/-- The actors of a plan, or the one that stands for the service. -/
def actors (plan : Option Plan) (baseUrl : String) : List Actor :=
  match (plan.map Plan.actors).getD [] with
  | [] => [.serviceRoot baseUrl]
  | actors => actors.map fun a => a.resolve baseUrl

/-- The thresholds of a plan that names a metric, or else the defaults. -/
def thresholds (plan : Option Plan) : Except SettingsError (List Threshold) :=
  match plan.filter fun p => !p.thresholds.isEmpty with
  | some p => planned p.readThresholds
  | none => .ok Threshold.defaults

end FedLoad.Choice
