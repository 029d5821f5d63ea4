import FedLoad.Plan.Review
import FedLoad.Yaml.Value
/-!
# Reading plans

A plan is written as YAML. Every field of a record is looked at once and fields without a meaning
are passed over; a field that comes twice makes the text unreadable. A field that may be left out
may be null as well. A written span, pause or threshold is told from its value: there a number is a
number of seconds and a text is a text, and a quoted number is a text.
-/
namespace FedLoad

open Yaml

/-! ## Fields -/

/-- A field of a record, or what stands for it if it is missing. -/
def Yaml.fieldOf? {α β : Type} (fields : List (String × α)) (name : String) (read : α → Option β)
    (missing : Option β) : Option β :=
  match fields.lookup name with
  | none => missing
  | some a => read a

/-- A field that must be there. -/
def Yaml.required? {α β : Type} (fields : List (String × α)) (name : String)
    (read : α → Option β) : Option β :=
  fieldOf? fields name read none

/-- A field that stands for `default` if it is missing. -/
def Yaml.defaulted? {α β : Type} (fields : List (String × α)) (name : String)
    (read : α → Option β) (default : β) : Option β :=
  fieldOf? fields name read (some default)

/-- A field of a node that may be missing or null. -/
def Yaml.Node.optionalField? {β : Type} (fields : List (String × Node)) (name : String)
    (read : Node → Option β) : Option (Option β) :=
  fieldOf? fields name (Node.optional? read) (some none)

/-- The named fields of a node, each at most once. -/
def Yaml.Node.named? (n : Node) (names : List String) : Option (List (String × Node)) :=
  n.fields?.bind fun fields => Yaml.named? names fields

/-- The name of a field, for which its place among the names may stand. -/
def Yaml.Value.fieldName? (names : List String) : Value → Option String
  | .text s => some s
  | .whole (.ofNat n) => some (names[n]?.getD "")
  | _ => none

/-- A pair as a field with a name. -/
def Yaml.Value.field? (names : List String) (pair : Value × Value) : Option (String × Value) :=
  (fieldName? names pair.1).map fun name => (name, pair.2)

/-- The named fields of a value, each at most once. -/
def Yaml.Value.named? (names : List String) : Value → Option (List (String × Value))
  | .record pairs => (pairs.mapM (field? names)).bind (Yaml.named? names)
  | _ => none

/-! ## Written values -/

def WrittenSpan.ofValue? : Value → Option WrittenSpan
  | .whole (.ofNat n) => some (.seconds n)
  | .text s => some (.text s)
  | _ => none

def WrittenSpan.ofNode? (n : Node) : Option WrittenSpan := n.single?.bind WrittenSpan.ofValue?

/-- The two ends of a pause. -/
def WrittenPause.ofFields? (fields : List (String × Value)) : Option WrittenPause := do
  let least ← required? fields "min" WrittenSpan.ofValue?
  let most ← required? fields "max" WrittenSpan.ofValue?
  pure (.between least most)

def WrittenPause.ofValue? (v : Value) : Option WrittenPause :=
  match (v.named? ["min", "max"]).bind WrittenPause.ofFields? with
  | some p => some p
  | none => (WrittenSpan.ofValue? v).map .single

/-- Reads a pause that has this room. -/
def WrittenPause.ofNode? (room : Node.Room) (n : Node) : Option WrittenPause :=
  (n.value? room).bind WrittenPause.ofValue?

/-- A text among values. -/
def Yaml.Value.text? : Value → Option String
  | .text s => some s
  | _ => none

/-- A flag among values. -/
def Yaml.Value.flag? : Value → Option Bool
  | .flag b => some b
  | _ => none

/-- A span among values that may be null. -/
def WrittenSpan.ofNullable? : Value → Option (Option WrittenSpan)
  | .null => some none
  | v => (WrittenSpan.ofValue? v).map some

def WrittenThreshold.ofFields? (fields : List (String × Value)) : Option WrittenThreshold := do
  let expression ← required? fields "threshold" Value.text?
  let aborts ← defaulted? fields "abortOnFail" Value.flag? false
  let delay ← defaulted? fields "delayAbortEval" WrittenSpan.ofNullable? none
  pure (.long expression aborts delay)

def WrittenThreshold.ofValue? : Value → Option WrittenThreshold
  | .text s => some (.short s)
  | v => (v.named? ["threshold", "abortOnFail", "delayAbortEval"]).bind WrittenThreshold.ofFields?

/-- Reads a threshold that has this room. -/
def WrittenThreshold.ofNode? (room : Node.Room) (n : Node) : Option WrittenThreshold :=
  (n.value? room).bind WrittenThreshold.ofValue?

/-! ## Actors -/

/-- Reads one field of an actor that has this room: id, name and type come at most once and may be
null. -/
def Actor.Draft.takeNode? (room : Node.Room) (d : Draft) (key : String) (n : Node) : Option Draft :=
  match key with
  | "id" => if d.id.isSome then none else (n.optional? Node.text?).map fun v => { d with id := v }
  | "name" =>
    if d.name.isSome then none else (n.optional? Node.text?).map fun v => { d with name := v }
  | "type" =>
    if d.type.isSome then none else (n.optional? Node.text?).map fun v => { d with type := v }
  | _ => ((n.value? (room.inside 1)).bind Value.json?).map fun j =>
    { d with others := Keyed.insert key j d.others }

def Actor.Draft.takeNodes? (room : Node.Room) (d : Draft) : List (String × Node) → Option Draft
  | [] => some d
  | (key, n) :: rest => (d.takeNode? room key n).bind fun d => d.takeNodes? room rest

/-- Reads an actor that has this room; all fields without a meaning of their own are properties. -/
def Actor.ofNode? (room : Node.Room) (n : Node) : Option Actor :=
  (n.fields?.bind (Draft.takeNodes? room ⟨none, none, none, []⟩)).map fun d =>
    ⟨d.id.join, d.name.join, d.type.join, d.others⟩

/-! ## Plans -/

def WrittenStage.ofNode? (n : Node) : Option WrittenStage := do
  let fields ← n.named? ["target", "duration"]
  let target ← required? fields "target" Node.decimal?
  let duration ← required? fields "duration" WrittenSpan.ofNode?
  pure ⟨target, duration⟩

def PlanLoad.ofNode? (n : Node) : Option PlanLoad := do
  let fields ← n.named? ["startRate", "timeUnit", "stages", "rate", "duration"]
  let startRate ← defaulted? fields "startRate" Node.decimal? 0.0
  let timeUnit ← Node.optionalField? fields "timeUnit" WrittenSpan.ofNode?
  let stages ← defaulted? fields "stages"
    (fun n => n.items?.bind fun items => items.mapM WrittenStage.ofNode?) []
  let rate ← Node.optionalField? fields "rate" Node.decimal?
  let duration ← Node.optionalField? fields "duration" WrittenSpan.ofNode?
  pure ⟨startRate, timeUnit, stages, rate, duration⟩

def PlanNotes.ofNode? (n : Node) : Option PlanNotes := do
  let fields ← n.named? ["name", "description", "tags"]
  let name ← Node.optionalField? fields "name" Node.text?
  let description ← Node.optionalField? fields "description" Node.text?
  let tags ← defaulted? fields "tags"
    (fun n => n.items?.bind fun items => items.mapM Node.text?) []
  pure ⟨name, description, tags⟩

/-- Reads the settings of a plan that has this room. -/
def PlanConfig.ofNode? (room : Node.Room) (n : Node) : Option PlanConfig := do
  let fields ← n.named? ["baseUrl", "timeout", "maxVUs", "maxPages", "sleepTime", "gracefulStop",
    "skipTlsVerify", "customHeaders", "setupHostSuffix"]
  let baseUrl ← Node.optionalField? fields "baseUrl" Node.text?
  let timeout ← Node.optionalField? fields "timeout" WrittenSpan.ofNode?
  let maxUsers ← Node.optionalField? fields "maxVUs" Node.natural?
  let maxPages ← Node.optionalField? fields "maxPages" Node.natural?
  let sleep ← Node.optionalField? fields "sleepTime" (WrittenPause.ofNode? (room.inside 2))
  let gracefulStop ← Node.optionalField? fields "gracefulStop" WrittenSpan.ofNode?
  let skipTlsVerify ← Node.optionalField? fields "skipTlsVerify" Node.flag?
  let headers ← Node.optionalField? fields "customHeaders" Node.text?
  let setupEnding ← Node.optionalField? fields "setupHostSuffix" Node.text?
  pure ⟨baseUrl, timeout, maxUsers, maxPages, sleep, gracefulStop, skipTlsVerify, headers,
    setupEnding⟩

/-- The thresholds on one metric in a plan that has this room. -/
def WrittenThreshold.listOfNode? (room : Node.Room) (n : Node) : Option (List WrittenThreshold) :=
  n.items?.bind fun items => items.mapM (WrittenThreshold.ofNode? (room.inside 3))

/-- Reads the thresholds by metrics in a plan that has this room; a metric that comes again has its
last thresholds only. -/
def WrittenThreshold.tableOfNode? (room : Node.Room) (n : Node) :
    Option (List (String × List WrittenThreshold)) :=
  (n.fields?.bind fun fields =>
    fields.mapM fun (metric, n) => (listOfNode? room n).map fun ws => (metric, ws)).map Keyed.ofList

namespace Plan

def ofNode? (n : Node) : Option Plan := do
  let fields ← n.named? ["version", "metadata", "config", "load", "actors", "thresholds"]
  let version ← required? fields "version" Node.text?
  let notes ← defaulted? fields "metadata" PlanNotes.ofNode? .none
  let config ← defaulted? fields "config" (PlanConfig.ofNode? n.room) .none
  let load ← Node.optionalField? fields "load" PlanLoad.ofNode?
  let actors ← defaulted? fields "actors"
    (fun n => n.items?.bind fun items => items.mapM (Actor.ofNode? (n.room.inside 2))) []
  let thresholds ← defaulted? fields "thresholds" (WrittenThreshold.tableOfNode? n.room) []
  pure ⟨version, notes, config, load, actors, thresholds⟩

/-- Reads a plan without a review. -/
def read (s : String) : Except PlanError Plan :=
  match (Node.ofText? s).bind ofNode? with
  | some p => .ok p
  | none => .error .form

/-- Reads a plan that has nothing to be said against it. -/
def ofText (s : String) : Except PlanError Plan :=
  match read s with
  | .ok p => p.accept
  | .error e => .error e

end Plan

end FedLoad
