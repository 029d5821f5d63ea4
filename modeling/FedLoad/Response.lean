import FedLoad.Json.Reader
import FedLoad.Record.Event
import FedLoad.Text.Case
/-!
# Responses

A response is what a request for a URL led to. A request that was never answered gives a response
without status, content type and body, so that it fails the checks of all three like any other bad
response. An answer that broke off before its body was complete keeps its status and content type
and has an empty body.
-/
namespace FedLoad

/-- What comes back for a request. -/
inductive Reply where
  /-- No answer, after this time. -/
  | lost (cause : Outage) (message : String) (took : Span)
  /-- An answer with its whole body. -/
  | complete (status : Nat) (contentType body : String) (took : Span)
  /-- An answer that broke off in its body. -/
  | broken (status : Nat) (contentType : String) (cause : Outage) (message : String) (took : Span)
deriving DecidableEq, Repr

structure Response where
  url : String
  /-- None when there was no answer. -/
  status : Option Nat
  /-- In lower case, empty when there is none. -/
  contentType : String
  body : String
  took : Span
  /-- What broke off, if anything did. -/
  failure : Option String
deriving DecidableEq, Repr

namespace Response

/-- An answer with its whole body. -/
def answered (url : String) (status : Nat) (contentType body : String) (took : Span) : Response :=
  ⟨url, some status, Text.toLower contentType, body, took, none⟩

/-- A request without an answer. -/
def failed (url message : String) (took : Span) : Response :=
  ⟨url, none, "", "", took, some message⟩

/-- The response that a reply amounts to. -/
def ofReply (url : String) : Reply → Response
  | .lost _ message took => failed url message took
  | .complete status contentType body took => answered url status contentType body took
  | .broken status contentType _ message took =>
    { answered url status contentType "" took with failure := some message }

/-- The body as a value; null when it is none. -/
def json (r : Response) : Json := Json.readOrNull r.body

/-- The `type` of the object in the body, when that is a text. -/
def objectType (r : Response) : Option String := (r.json.field? "type").bind Json.text?

end Response

/-- The events of one request. -/
def Reply.events : Reply → List Event
  | .lost cause _ took => [.request, .answered none, .outage cause, .latency took]
  | .complete status _ _ took => [.request, .answered (some status), .latency took]
  | .broken status _ cause _ took =>
    [.request, .answered (some status), .outage cause, .latency took]

end FedLoad
