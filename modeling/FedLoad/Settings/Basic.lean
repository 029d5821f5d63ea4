import FedLoad.Client.Basic
import FedLoad.Settings.Choice
/-!
# Settings

The settings of a run are put together from an environment and a plan, if there is one. They are
chosen in a fixed order, and the first that is at fault decides the error. The plan may be named by
the environment; then it must be readable and acceptable as a whole before any setting is chosen.
-/
namespace FedLoad

structure Settings where
  /-- The address of the service, without slashes at its end. -/
  baseUrl : String
  actors : List Actor
  model : LoadModel Float
  maxUsers : Nat
  timeout : Span
  maxPages : Nat
  sleep : Option Pause
  gracefulStop : Span
  setupEnding : String
  skipTlsVerify : Bool
  /-- The address to connect to, if it is not the one that the name of the service has. -/
  resolve : Option String
  headers : Option String
  metricsPort : Nat
  thresholds : List Threshold

namespace Settings

/-- Chooses every setting. -/
def build (env : Environment) (plan : Option Plan) : Except SettingsError Settings := do
  let config := (plan.map Plan.config).getD .none
  let baseUrl ← Choice.baseUrl env config
  let model ← Choice.model env (plan.bind Plan.load)
  let maxUsers ← Choice.maxUsers env config
  let timeout ← Choice.timeout env config
  let maxPages ← Choice.maxPages env config
  let sleep ← Choice.sleep env config
  let gracefulStop ← Choice.gracefulStop env config
  let metricsPort ← Choice.metricsPort env
  let thresholds ← Choice.thresholds plan
  return {
    baseUrl, model, maxUsers, timeout, maxPages, sleep, gracefulStop, metricsPort, thresholds
    actors := Choice.actors plan baseUrl
    setupEnding := Choice.setupEnding env config
    skipTlsVerify := Choice.skipTlsVerify env config
    resolve := env.given? "RESOLVE_TARGET_ADDR"
    headers := Choice.headers env config }

/-- The plan that the environment names; `text` finds the text of a name. -/
def namedPlan? (env : Environment) (text : String → Except String String) :
    Except SettingsError (Option Plan) :=
  match env.given? "CONFIG_FILE" with
  | none => .ok none
  | some name =>
    match text name with
    | .error cause => .error (.plan (.file cause))
    | .ok s =>
      match Plan.ofText s with
      | .error e => .error (.plan e)
      | .ok p => .ok (some p)

/-- The settings of an environment, with the plan that it names. -/
def load (env : Environment) (text : String → Except String String) :
    Except SettingsError Settings := do
  build env (← namedPlan? env text)

/-- How requests are made. -/
def client (s : Settings) : ClientSettings := ⟨s.timeout, s.skipTlsVerify, s.resolve, s.headers⟩

/-- Are the actors looked at once before the run? -/
def hasSetup (s : Settings) : Bool := Url.hostEndsWith s.baseUrl s.setupEnding

end Settings

end FedLoad
