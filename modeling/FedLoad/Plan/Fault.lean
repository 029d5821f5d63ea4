import FedLoad.Actor
import FedLoad.Load.Stage
import FedLoad.Url.Basic
/-!
# Faults of fields

What is wrong with a value is said together with the field that it belongs to. Each rule looks at
one value and finds at most one fault: an address must name a server, a whole number must lie in a
range, a rate must be neither negative nor infinite, a ramp must have stages and take time, and an
actor must have an id that leads somewhere.
-/
namespace FedLoad

inductive Fault where
  | general (field message : String)
  | missing (field : String)
  | outOfRange (field value least most : String)
  | form (field message : String)
deriving DecidableEq, Repr

namespace Fault

def message : Fault → String
  | .general field m => s!"Field '{field}': {m}"
  | .missing field => s!"Field '{field}' is required but not provided"
  | .outOfRange field value least most =>
    s!"Field '{field}': value {value} is out of range ({least} to {most})"
  | .form field m => s!"Field '{field}': invalid format - {m}"

/-! ## Rules -/

/-- An address of a server: with one of two beginnings, and readable. -/
def ofUrl? (url : String) : Option Fault :=
  if url.isEmpty then some (.form "url" "URL cannot be empty")
  else if !url.startsWith "http://" && !url.startsWith "https://" then
    some (.form "url" ("URL must start with http:// or https://, got: " ++ url))
  else
    match Url.read url with
    | .ok _ => none
    | .error e => some (.form "url" s!"{url}: {e.message}")

/-- A whole number in a range. -/
def ofRange? (value least most : Nat) (field : String) : Option Fault :=
  if value < least || most < value then
    some (.outOfRange field (toString value) (toString least) (toString most))
  else none

/-- A rate. -/
def ofRate? (value : Float) (field : String) : Option Fault :=
  if Stage.isRate value then none
  else some (.outOfRange field (Decimal.write .amount value) "0" "unlimited")

/-- The first target that is not a rate; stages are counted from `index`. -/
def ofTargets? (index : Nat) : List (Stage Float) → Option Fault
  | [] => none
  | stage :: rest =>
    (ofRate? stage.target s!"stages[{index}].target").or (ofTargets? (index + 1) rest)

/-- A ramp. -/
def ofStages? (stages : List (Stage Float)) : Option Fault :=
  if stages.isEmpty then some (.missing "stages")
  else (ofTargets? 0 stages).or
    (if stages.all (·.duration.isZero) then
      some (.general "stages" "total ramp duration must be greater than zero")
    else none)

/-- The id of an actor: an address, or a path on the server. -/
def ofActor? (a : Actor) : Option Fault :=
  match a.id with
  | none => some (.missing "id")
  | some id =>
    if id.isEmpty then some (.missing "id")
    else if id.startsWith "/" then none
    else ofUrl? id

end Fault

end FedLoad
