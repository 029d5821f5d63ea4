import FedLoad.Json.Printer
import FedLoad.Record.Book
import FedLoad.Response
import FedLoad.Text.Quoted
/-!
# Checks

A check is a named statement about a response. Whether it holds depends on the response alone; when
it does not, it says why. Running a list of checks runs every one of them, whatever the others say:
each gives one result, is tallied under its name, and takes a sample of every defect it looks for,
each with an outcome of its own.
-/
namespace FedLoad

/-- The beginnings of the content types in which an object may be sent. -/
def mediaTypes : List String :=
  ["application/json", "application/activity+json", "application/ld+json"]

def collectionTypes : List String := ["Collection", "OrderedCollection"]

def pageTypes : List String := ["CollectionPage", "OrderedCollectionPage"]

inductive Check where
  /-- The status is 200. -/
  | status
  /-- The content type begins like one of `mediaTypes` and the body is not empty. -/
  | media
  /-- The object's type is one of these. -/
  | typeIn (allowed : List String)
  /-- The value in the body is neither null nor empty. -/
  | body
  /-- The object has no such property, or has it with this value. -/
  | property (name : String) (expected : Json)

namespace Check

/-- The name under which a check is tallied. -/
def name : Check → String
  | .status => "status 200"
  | .media => "is ActivityPub"
  | .typeIn _ => "has correct Type"
  | .body => "has body"
  | .property name _ => "property " ++ Text.toUpper name

/-- Why a check does not hold. -/
inductive Failure where
  | status (actual : Option Nat)
  | contentType (actual : String)
  | emptyBody
  | contentTypeAndEmptyBody (actual : String)
  | objectType (actual : Option String) (allowed : List String)
  | property (name : String) (expected actual : Json)

def Failure.message : Failure → String
  | .status actual =>
    "Status code mismatch: expected 200, got " ++ (actual.map toString).getD "no response"
  | .contentType actual => s!"Unexpected content type '{actual}'"
  | .emptyBody => "Response body is empty"
  | .contentTypeAndEmptyBody actual =>
    s!"Content type '{actual}' is not ActivityPub and the body is empty"
  | .objectType actual allowed =>
    s!"Object type {Text.quotedOption actual} is not one of {Text.quotedList allowed}"
  | .property name expected actual =>
    s!"Property '{name}' mismatch: expected {expected.write}, got {actual.write}"

/-! ## What is looked for -/

def statusHolds (r : Response) : Bool := r.status == some 200

def contentTypeHolds (r : Response) : Bool := mediaTypes.any fun m => r.contentType.startsWith m

def bodyHolds (r : Response) : Bool := !r.body.isEmpty

def typeHolds (allowed : List String) (r : Response) : Bool :=
  match r.objectType with
  | some t => allowed.contains t
  | none => false

/-- Is there something in a value? -/
def isPresent : Json → Bool
  | .null => false
  | .record fields => !fields.isEmpty
  | .list items => !items.isEmpty
  | .text s => !s.isEmpty
  | .bool _ | .int _ | .float _ => true

/-! ## Running checks -/

/-- Why a check does not hold of a response; nothing if it holds. -/
def failure? (r : Response) : Check → Option Failure
  | .status => if statusHolds r then none else some (.status r.status)
  | .media =>
    match contentTypeHolds r, bodyHolds r with
    | true, true => none
    | false, false => some (.contentTypeAndEmptyBody r.contentType)
    | false, true => some (.contentType r.contentType)
    | true, false => some .emptyBody
  | .typeIn allowed =>
    if typeHolds allowed r then none else some (.objectType r.objectType allowed)
  | .body => if isPresent r.json then none else some .emptyBody
  | .property name expected =>
    match r.json.field? name with
    | some actual =>
      if actual.same expected then none else some (.property name expected actual)
    | none => none

def holds (r : Response) (c : Check) : Bool := (c.failure? r).isNone

/-- The samples that a check takes of a response. -/
def samples (r : Response) : Check → List Event
  | .status => [.sample .status (statusHolds r)]
  | .media => [.sample .contentType (contentTypeHolds r), .sample .bodySize (bodyHolds r)]
  | .typeIn allowed => [.sample .objectType (typeHolds allowed r)]
  | .body | .property .. => []

/-- The outcome of one check; a message says why it does not hold. -/
structure Result where
  name : String
  passed : Bool
  message : Option String
deriving DecidableEq, Repr

def result (r : Response) (c : Check) : Result :=
  ⟨c.name, c.holds r, (c.failure? r).map Failure.message⟩

/-- The events of running one check: its samples, then its place in the tally. -/
def events (r : Response) (c : Check) : List Event :=
  c.samples r ++ [.check c.name (c.holds r)]

/-- The results of running checks in order. -/
def results (checks : List Check) (r : Response) : List Result := checks.map (result r)

/-- Enters the running of checks into the book. -/
def run (checks : List Check) (r : Response) (book : Book) : List Result × Book :=
  (results checks r, book.recordAll (checks.flatMap (events r)))

/-! ## Lists of checks -/

/-- For every response. -/
def basic : List Check := [.status, .media]

/-- For a collection. -/
def ofCollection : List Check := basic ++ [.typeIn collectionTypes]

/-- For a page of a collection. -/
def ofPage : List Check := basic ++ [.typeIn pageTypes]

end Check

end FedLoad
