import FedLoad.Json.Token
/-!
# Reading JSON

Tokens are put together from left to right with a stack of the lists and records that are still
open. At most 127 of them may be open at a time. What is read first keeps the fields of a record as
written; `read?` gives the normal form.
-/
namespace FedLoad.Json

/-- A list or record that is still open, with what it holds so far, the last item first. -/
inductive Frame where
  | list (items : List Json)
  | record (fields : List (String × Json))
  /-- A record in which a value has to come for the key. -/
  | field (fields : List (String × Json)) (key : String)

/-- What may come next. -/
inductive Expect where
  /-- A value; the flag says that a list may be closed instead. -/
  | value (orClose : Bool)
  /-- A key; the flag says that the record may be closed instead. -/
  | key (orClose : Bool)
  /-- The colon after a key. -/
  | colon
  /-- A comma, or the end of what is open. -/
  | more
deriving DecidableEq

/-- How many lists and records may be open at a time. -/
def depthLimit : Nat := 127

/-- The stack after a value is complete, if one is open to take it. -/
def Frame.accept? (value : Json) : List Frame → Option (List Frame)
  | .list items :: rest => some (.list (value :: items) :: rest)
  | .field fields key :: rest => some (.record ((key, value) :: fields) :: rest)
  | _ => none

/-- Puts tokens together. -/
def build? (stack : List Frame) (expect : Expect) : List Token → Option Json
  | [] => none
  | token :: rest =>
    let complete (value : Json) (open_ : List Frame) : Option Json :=
      match open_ with
      | [] => if rest.isEmpty then some value else none
      | _ =>
        match Frame.accept? value open_ with
        | some stack => build? stack .more rest
        | none => none
    match expect, token, stack with
    | .value _, .scalar value, _ => complete value stack
    | .value _, .openList, _ =>
      if stack.length < depthLimit then build? (.list [] :: stack) (.value true) rest else none
    | .value _, .openRecord, _ =>
      if stack.length < depthLimit then build? (.record [] :: stack) (.key true) rest else none
    | .value true, .closeList, .list items :: below => complete (.list items.reverse) below
    | .key _, .scalar (.text key), .record fields :: below =>
      build? (.field fields key :: below) .colon rest
    | .key true, .closeRecord, .record fields :: below => complete (.record fields.reverse) below
    | .colon, .colon, _ => build? stack (.value false) rest
    | .more, .comma, .list _ :: _ => build? stack (.value false) rest
    | .more, .comma, .record _ :: _ => build? stack (.key false) rest
    | .more, .closeList, .list items :: below => complete (.list items.reverse) below
    | .more, .closeRecord, .record fields :: below => complete (.record fields.reverse) below
    | _, _, _ => none

/-- The value of a text with its fields as written. -/
def readRaw? (s : String) : Option Json :=
  (tokens? s.toList).bind (build? [] (.value false))

/-- The value of a text. -/
def read? (s : String) : Option Json := (readRaw? s).map normalize

/-- The value of a text, and null for a text that has none. -/
def readOrNull (s : String) : Json := (read? s).getD .null

end FedLoad.Json
