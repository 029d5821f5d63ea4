import FedLoad.Run.Program
/-!
# The command line

Hands the environment and the text of a plan to the program, and writes what it has to say.
-/
namespace FedLoad.CommandLine

/-- The names that settings are taken from. -/
def names : List String := [
  "TEST_HOST", "CONFIG_FILE", "MAX_VUS", "START_RATE", "TIME_UNIT", "RAMP_STAGES", "SLEEP_TIME",
  "REQUEST_TIMEOUT", "MAX_PAGES", "GRACEFUL_STOP", "SETUP_HOST_SUFFIX", "SKIP_TLS_VERIFY",
  "RESOLVE_TARGET_ADDR", "CUSTOM_HEADERS", "METRICS_PORT", "METRIC_NAMESPACE", "LOG_FORMAT"]

/-- The names that have a text. -/
def environment : IO Environment :=
  names.filterMapM fun name => do
    return (← IO.getEnv name).map fun s => (name, s)

/-- The text of a file, or why there is none. -/
def textOf (name : String) : IO (Except String String) := do
  try
    return .ok (← IO.FS.readFile name)
  catch e =>
    return .error (toString e)

end FedLoad.CommandLine

open FedLoad in
def main : IO UInt32 := do
  let env ← CommandLine.environment
  let plan ← match env.given? "CONFIG_FILE" with
    | none => pure (.error "no name")
    | some name => CommandLine.textOf name
  let ending := Program.run env fun _ => plan
  (← IO.getStdout).putStr ending.output
  (← IO.getStderr).putStr ending.complaint
  return ending.code.toUInt32
