import FedLoad.Proofs.Settings.Precedence
/-!
# What the environment overrides

Two runs are compared here. Where the environment gives a setting, what the plan says about it is
not looked at, whether anything is wrong with it or not: the plan may say something else, or nothing
(`Setting.drop`). And the environment is looked at through its given texts only, so that a blank
text may as well be missing. In both cases every single choice is the same (`SameChoices`), and so
is the outcome, be it settings or an error.

Main statement: `Settings.build_precedence`.
-/
namespace FedLoad

open Text
open Environment (readSpan)

/-! ## The same choices -/

namespace Settings

variable {env env' : Environment} {plan plan' : Option Plan}

end Settings

/-! ## A given setting -/

/-- A load that says nothing, which is as good as none. -/
def PlanLoad.empty : PlanLoad := ⟨0.0, none, [], none, none⟩

namespace Choice

variable {env : Environment} {c c' : PlanConfig} {load : Option PlanLoad}

end Choice

/-! ## Settings with a layer in the plan -/

/-- The settings that an environment and a plan can give, but for the unit of time. -/
inductive Setting where
  | baseUrl
  | maxUsers
  | timeout
  | maxPages
  | sleep
  | gracefulStop
  | setupEnding
  | skipTlsVerify
  | headers
  | startRate
  | stages

namespace Setting

/-- The name under which the environment gives a setting. -/
def name : Setting → String
  | .baseUrl => "TEST_HOST"
  | .maxUsers => "MAX_VUS"
  | .timeout => "REQUEST_TIMEOUT"
  | .maxPages => "MAX_PAGES"
  | .sleep => "SLEEP_TIME"
  | .gracefulStop => "GRACEFUL_STOP"
  | .setupEnding => "SETUP_HOST_SUFFIX"
  | .skipTlsVerify => "SKIP_TLS_VERIFY"
  | .headers => "CUSTOM_HEADERS"
  | .startRate => "START_RATE"
  | .stages => "RAMP_STAGES"

/-- The plan without what it says about a setting. As for the parts of a ramp, a plan without a load
and one whose load says nothing come to the same. -/
def drop (p : Plan) : Setting → Plan
  | .baseUrl => { p with config := { p.config with baseUrl := none } }
  | .maxUsers => { p with config := { p.config with maxUsers := none } }
  | .timeout => { p with config := { p.config with timeout := none } }
  | .maxPages => { p with config := { p.config with maxPages := none } }
  | .sleep => { p with config := { p.config with sleep := none } }
  | .gracefulStop => { p with config := { p.config with gracefulStop := none } }
  | .setupEnding => { p with config := { p.config with setupEnding := none } }
  | .skipTlsVerify => { p with config := { p.config with skipTlsVerify := none } }
  | .headers => { p with config := { p.config with headers := none } }
  | .startRate => { p with load := some { p.load.getD .empty with startRate := 0.0 } }
  | .stages => { p with load := some { p.load.getD .empty with stages := [] } }

end Setting

/-! ## Blank texts -/

namespace Environment

variable {env env' : Environment}

/-- The environment with a name unset. -/
def unset (env : Environment) (name : String) : Environment := env.filter fun p => p.1 != name

end Environment

namespace Settings

variable {env env' : Environment} {plan : Option Plan}

end Settings

end FedLoad
