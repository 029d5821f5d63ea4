import FedLoad.Plan.Written
/-!
# Faults of settings

Why the settings of a run cannot be put together: there is no service, the text of a name cannot be
used, or the plan cannot be used. A text is shown as it was given, except that a number out of its
range is shown as a number.
-/
namespace FedLoad

open Decimal

/-- What is wrong with the text of a name. -/
inductive SettingCause where
  | field (fault : Fault)
  | span (cause : Span.ReadError)
  | whole (cause : WholeError)
  | float (cause : FloatError)
  | stages (cause : Stage.ReadError)
  /-- A rate that is negative or not finite. -/
  | noRate
  /-- A span without length. -/
  | zero
  /-- No page at all. -/
  | noPage

def SettingCause.message : SettingCause → String
  | .field fault => fault.message
  | .span cause => cause.message
  | .whole cause => cause.message
  | .float cause => cause.message
  | .stages cause => cause.message
  | .noRate => "must be >= 0"
  | .zero => "must be greater than zero"
  | .noPage => "must be at least 1"

inductive SettingsError where
  | noBaseUrl
  | value (name text : String) (cause : SettingCause)
  | plan (cause : PlanError)

def SettingsError.message : SettingsError → String
  | .noBaseUrl =>
    "TEST_HOST environment variable (or config.baseUrl in CONFIG_FILE) must be set"
  | .value name text cause => s!"Invalid {name} value '{text}': {cause.message}"
  | .plan cause => cause.message

end FedLoad
