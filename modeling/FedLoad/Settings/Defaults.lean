import FedLoad.Load.Stage
/-!
# Defaults and help

The settings of a run that gives none, and what is said about settings when they cannot be put
together.
-/
namespace FedLoad.Defaults

/-- How many virtual users there may be. -/
def maxUsers : Nat := 100

/-- How many pages of a collection are fetched. -/
def maxPages : Nat := 1000

def timeUnit : Span := .ofSeconds 30

def timeout : Span := .ofSeconds 30

def gracefulStop : Span := .ofSeconds 30

/-- The ramp, as it would be written. -/
def rampText : String := "200:120s,20:10s"

/-- The ramp. -/
def ramp : List (Stage Float) := [⟨200.0, .ofSeconds 120⟩, ⟨20.0, .ofSeconds 10⟩]

/-- The ending of the hosts whose actors are looked at before the run. -/
def setupEnding : String := ".local"

def metricsPort : Nat := 9090

/-- The lines of the help. -/
def help : List String := [
  "Required environment variables:",
  "  TEST_HOST              Base URL of the ActivityPub service (e.g. http://fedbox.local)",
  "                         (or config.baseUrl in the YAML file)",
  "",
  "Optional environment variables:",
  "  CONFIG_FILE            YAML test plan (actors, load, thresholds)",
  "  MAX_VUS                Maximum concurrent virtual users (default: " ++ toString maxUsers ++ ")",
  "  START_RATE             Starting iteration rate (default: 0)",
  "  TIME_UNIT              Rate time unit (default: 30s)",
  "  RAMP_STAGES            target:duration list (default: " ++ rampText ++ ")",
  "  SLEEP_TIME             End-of-iteration pause, '2s' or '1s-3s' (default: none)",
  "  REQUEST_TIMEOUT        Per-request timeout (default: 30s)",
  "  MAX_PAGES              Page cap per collection (default: " ++ toString maxPages ++ ")",
  "  GRACEFUL_STOP          Wait for in-flight iterations (default: 30s)",
  "  SETUP_HOST_SUFFIX      Host suffix that enables setup (default: " ++ setupEnding ++ ")",
  "  SKIP_TLS_VERIFY        Accept invalid certificates (default: false)",
  "  RESOLVE_TARGET_ADDR    DNS override, 'hostname:ip:port'",
  "  CUSTOM_HEADERS         'Name:Value' list, '\\,' escapes a comma",
  "  METRICS_PORT           Prometheus port, 0 disables (default: " ++ toString metricsPort ++ ")",
  "  METRIC_NAMESPACE       Prometheus namespace (default: activitypub_loadtest)",
  "  LOG_FORMAT             'text' or 'json' (default: text)",
  "  RUST_LOG               Log filter (default: info)",
  "",
  "Duration format: 10ms, 30s, 5m, 2h, 1d"]

/-- The help, every line ended. -/
def helpText : String := String.join (help.map fun line => line ++ "\n")

end FedLoad.Defaults
