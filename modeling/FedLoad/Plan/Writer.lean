import FedLoad.Plan.Basic
/-!
# Plans as data

A plan is shown as data with every field in its place: what was left out is null, and spans, pauses
and thresholds stand as they were written.
-/
namespace FedLoad

/-- A value that may be left out. -/
def Json.ofOption {α : Type} (toJson : α → Json) : Option α → Json
  | none => .null
  | some a => toJson a

/-- A number of items. -/
def Json.ofNat (n : Nat) : Json := .int n

def WrittenSpan.toJson : WrittenSpan → Json
  | .seconds n => .ofNat n
  | .text s => .text s

def WrittenPause.toJson : WrittenPause → Json
  | .between least most => .record [("max", most.toJson), ("min", least.toJson)]
  | .single length => length.toJson

def WrittenStage.toJson (w : WrittenStage) : Json :=
  .record [("duration", w.duration.toJson), ("target", .float w.target)]

def WrittenThreshold.toJson : WrittenThreshold → Json
  | .short expression => .text expression
  | .long expression aborts delay =>
    .record [("abortOnFail", .bool aborts), ("delayAbortEval", .ofOption WrittenSpan.toJson delay),
      ("threshold", .text expression)]

def PlanNotes.toJson (n : PlanNotes) : Json :=
  .record [("description", .ofOption .text n.description), ("name", .ofOption .text n.name),
    ("tags", .list (n.tags.map .text))]

def PlanConfig.toJson (c : PlanConfig) : Json :=
  .record [("baseUrl", .ofOption .text c.baseUrl), ("customHeaders", .ofOption .text c.headers),
    ("gracefulStop", .ofOption WrittenSpan.toJson c.gracefulStop),
    ("maxPages", .ofOption .ofNat c.maxPages), ("maxVUs", .ofOption .ofNat c.maxUsers),
    ("setupHostSuffix", .ofOption .text c.setupEnding),
    ("skipTlsVerify", .ofOption .bool c.skipTlsVerify),
    ("sleepTime", .ofOption WrittenPause.toJson c.sleep),
    ("timeout", .ofOption WrittenSpan.toJson c.timeout)]

def PlanLoad.toJson (l : PlanLoad) : Json :=
  .record [("duration", .ofOption WrittenSpan.toJson l.duration),
    ("rate", .ofOption .float l.rate), ("stages", .list (l.stages.map WrittenStage.toJson)),
    ("startRate", .float l.startRate), ("timeUnit", .ofOption WrittenSpan.toJson l.timeUnit)]

def Plan.toJson (p : Plan) : Json :=
  .record [("actors", .list (p.actors.map Actor.toJson)), ("config", p.config.toJson),
    ("load", .ofOption PlanLoad.toJson p.load), ("metadata", p.notes.toJson),
    ("thresholds", .record (p.thresholds.map fun (metric, ws) =>
      (metric, .list (ws.map WrittenThreshold.toJson)))),
    ("version", .text p.version)]

end FedLoad
