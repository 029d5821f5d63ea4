import FedLoad.Json.Basic
/-!
# Links

A value links to an address in one of two ways: it is the address, or it is an object with that
address as its id. The empty text is no address. An actor links to its collections under eight
fixed properties, and under `streams`, which may hold one link or a list of them.
-/
namespace FedLoad

/-- The address that a value links to. -/
def linkOf (value : Json) : Option String :=
  match value with
  | .text s => if s.isEmpty then none else some s
  | .record _ =>
    match value.field? "id" with
    | some (.text s) => if s.isEmpty then none else some s
    | _ => none
  | _ => none

/-- The id that an object carries, which may be empty. -/
def ownId (object : Json) : Option String := (object.field? "id").bind Json.text?

/-- The address linked to under a property. -/
def linkAt (object : Json) (key : String) : Option String := (object.field? key).bind linkOf

/-- The address linked to under a property, unless it is the object's own id. -/
def outwardLink (object : Json) (key : String) : Option String :=
  (linkAt object key).filter fun target => some target != ownId object

/-- The properties of an actor that link to a collection, in the order of visiting. -/
def collectionKeys : List String :=
  ["inbox", "outbox", "following", "followers", "liked", "likes", "shares", "replies"]

/-- The addresses linked to under `streams`. -/
def streamLinks (actor : Json) : List String :=
  match actor.field? "streams" with
  | some (.list items) => items.filterMap linkOf
  | some single => (linkOf single).toList
  | none => []

/-- The collections of an actor, in the order of visiting. -/
def collectionsOf (actor : Json) : List String :=
  collectionKeys.filterMap (linkAt actor) ++ streamLinks actor

end FedLoad
