import FedLoad.Check.Basic
/-!
# Actor descriptors

A descriptor names an actor to visit and the properties that its representation is expected to
have. Its id says where the actor is; an id that begins with a slash is relative to the root of the
service. Name and type, where given, and all other properties are expected to be found unchanged.
-/
namespace FedLoad

structure Actor where
  id : Option String
  name : Option String
  type : Option String
  /-- Other properties in ascending order of keys. -/
  others : List (String × Json)

namespace Actor

def ofId (id : String) : Actor := ⟨some id, none, none, []⟩

def withName (a : Actor) (name : String) : Actor := { a with name := some name }

def withType (a : Actor) (type : String) : Actor := { a with type := some type }

def withProperty (a : Actor) (key : String) (value : Json) : Actor :=
  { a with others := Keyed.insert key value a.others }

/-- A text without the slashes at its end. -/
def dropSlashes (s : String) : String :=
  String.ofList (s.toList.reverse.dropWhile (· = '/')).reverse

/-- The actor that stands for the service itself. -/
def serviceRoot (baseUrl : String) : Actor :=
  (ofId (dropSlashes baseUrl ++ "/")).withName "self" |>.withType "Service"

/-- The actor with an id that is relative to the root of `baseUrl` completed. -/
def resolve (a : Actor) (baseUrl : String) : Actor :=
  match a.id with
  | some id => if id.startsWith "/" then { a with id := some (dropSlashes baseUrl ++ id) } else a
  | none => a

/-- The properties that a representation is expected to have: all but the id. -/
def expected (a : Actor) : List (String × Json) :=
  (a.name.map fun s => ("name", Json.text s)).toList ++
  (a.type.map fun s => ("type", Json.text s)).toList ++
  a.others.filter fun (key, _) => key != "id"

/-- The checks of a representation. -/
def checks (a : Actor) : List Check :=
  Check.basic ++ [.body] ++ a.expected.map fun (name, value) => .property name value

/-! ## As a value -/

/-- The descriptor as a record: what is absent is left out. -/
def toJson (a : Actor) : Json :=
  let named := [("id", a.id), ("name", a.name), ("type", a.type)].filterMap fun (key, value) =>
    value.map fun s => (key, Json.text s)
  .record (Keyed.ofList (named ++ a.others))

/-- The value of an optional text: null counts as absent. -/
def optionalText? : Json → Option (Option String)
  | .null => some none
  | .text s => some (some s)
  | _ => none

/-- A descriptor while it is read, with the fields that have been met. -/
structure Draft where
  id : Option (Option String)
  name : Option (Option String)
  type : Option (Option String)
  others : List (String × Json)

/-- Reads one field: id, name and type must be texts or null and come at most once. -/
def Draft.take? (d : Draft) (key : String) (value : Json) : Option Draft :=
  match key with
  | "id" => if d.id.isSome then none else (optionalText? value).map fun v => { d with id := v }
  | "name" =>
    if d.name.isSome then none else (optionalText? value).map fun v => { d with name := v }
  | "type" =>
    if d.type.isSome then none else (optionalText? value).map fun v => { d with type := v }
  | _ => some { d with others := Keyed.insert key value.normalize d.others }

def Draft.takeAll? (d : Draft) : List (String × Json) → Option Draft
  | [] => some d
  | (key, value) :: rest => (d.take? key value).bind fun d => d.takeAll? rest

/-- Reads the fields of a record as written. -/
def ofFields? (fields : List (String × Json)) : Option Actor :=
  (Draft.takeAll? ⟨none, none, none, []⟩ fields).map fun d =>
    ⟨d.id.join, d.name.join, d.type.join, d.others⟩

/-- Reads a descriptor from a record as written. -/
def ofRaw? : Json → Option Actor
  | .record fields => ofFields? fields
  | _ => none

/-- Reads a descriptor from a JSON text. -/
def read? (s : String) : Option Actor := (Json.readRaw? s).bind ofRaw?

end Actor

end FedLoad
