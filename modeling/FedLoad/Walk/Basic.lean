import FedLoad.Actor
import FedLoad.Walk.Cursor
/-!
# Walking actors, collections and pages

A walk goes through everything that an actor leads to, one request after the other: the actor, then
each of its collections, then every page of each collection. What fails is recorded, and the walk
goes on.

The web that is walked answers a request in any way it likes, which may depend on every request that
came before. Nothing is assumed about it: that a walk ends, and where it goes, follows from the
walk alone.
-/
namespace FedLoad

/-- What answers requests, given the addresses requested before, the oldest first. -/
abbrev Web := List String → String → Reply

/-- Where a run stands: the addresses requested so far, the oldest first, and the book. -/
structure Trail where
  requested : List String
  book : Book
deriving DecidableEq, Repr

namespace Trail

def empty : Trail := ⟨[], .empty⟩

def record (t : Trail) (e : Event) : Trail := { t with book := t.book.record e }

/-- Requests an address. -/
def fetch (t : Trail) (web : Web) (url : String) : Response × Trail :=
  let reply := web t.requested url
  (Response.ofReply url reply,
    { t with requested := t.requested ++ [url], book := t.book.recordAll reply.events })

/-- Runs checks on a response. -/
def check (t : Trail) (checks : List Check) (r : Response) : List Check.Result × Trail :=
  let (results, book) := Check.run checks r t.book
  (results, { t with book := book })

/-- Requests an address and runs checks on what comes back. -/
def visit (t : Trail) (web : Web) (url : String) (checks : List Check) :
    Response × List Check.Result × Trail :=
  let (response, t) := t.fetch web url
  let (results, t) := t.check checks response
  (response, results, t)

end Trail

/-! ## Reports -/

structure PageReport where
  index : Nat
  url : String
  results : List Check.Result
deriving DecidableEq, Repr

structure CollectionReport where
  url : String
  results : List Check.Result
  pages : List PageReport
deriving DecidableEq, Repr

structure ActorReport where
  id : String
  results : List Check.Result
  collections : List CollectionReport
deriving DecidableEq, Repr

namespace CollectionReport

/-- The addresses that the visit of a collection requested. -/
def urls (r : CollectionReport) : List String := r.url :: r.pages.map PageReport.url

def allResults (r : CollectionReport) : List Check.Result :=
  r.results ++ r.pages.flatMap PageReport.results

end CollectionReport

namespace ActorReport

/-- The addresses that the walk requested. -/
def urls (r : ActorReport) : List String := r.id :: r.collections.flatMap CollectionReport.urls

/-- The number of requests of the walk. -/
def requests (r : ActorReport) : Nat :=
  1 + (r.collections.map fun c => 1 + c.pages.length).foldr (· + ·) 0

/-- Did every check pass? -/
def allPassed (r : ActorReport) : Bool :=
  r.results.all (·.passed) && r.collections.all fun c =>
    c.results.all (·.passed) && c.pages.all fun p => p.results.all (·.passed)

def allResults (r : ActorReport) : List Check.Result :=
  r.results ++ r.collections.flatMap CollectionReport.allResults

end ActorReport

/-! ## Walking -/

namespace Trail

/-- Fetches pages for as long as the cursor leads on from `object`. -/
def pagesFrom (t : Trail) (web : Web) (cursor : Cursor) (object : Json) :
    List PageReport × Trail :=
  match _h : cursor.next object with
  | (none, _) => ([], t)
  | (some target, cursor') =>
    let (response, results, t) := t.visit web target Check.ofPage
    let t := t.record .page
    let (rest, t) := t.pagesFrom web (cursor'.fetched target response.json) response.json
    (⟨cursor'.index, target, results⟩ :: rest, t)
termination_by cursor.maxPages - cursor.index
decreasing_by
  have := Cursor.index_lt_of_next _h
  simp only [Cursor.fetched, this.2]
  omega

/-- Fetches the pages of a collection that was fetched from `url`. -/
def pages (t : Trail) (web : Web) (maxPages : Nat) (url : String) (collection : Json) :
    List PageReport × Trail :=
  t.pagesFrom web (.start url collection maxPages) collection

/-- Visits a collection and all of its pages. -/
def collection (t : Trail) (web : Web) (maxPages : Nat) (url : String) :
    CollectionReport × Trail :=
  let (response, results, t) := t.visit web url Check.ofCollection
  let (pages, t) := t.pages web maxPages url response.json
  (⟨url, results, pages⟩, t)

/-- Visits collections in order. -/
def collections (t : Trail) (web : Web) (maxPages : Nat) :
    List String → List CollectionReport × Trail
  | [] => ([], t)
  | url :: rest =>
    let (report, t) := t.collection web maxPages url
    let (reports, t) := t.collections web maxPages rest
    (report :: reports, t)

/-- Walks everything that an actor leads to; an actor without an id leads nowhere. -/
def actor (t : Trail) (web : Web) (maxPages : Nat) (a : Actor) : Option ActorReport × Trail :=
  match a.id with
  | none => (none, t)
  | some id =>
    let (response, results, t) := t.visit web id a.checks
    let (collections, t) := t.collections web maxPages (collectionsOf response.json)
    (some ⟨id, results, collections⟩, t)

/-- Requests every actor that has an id once, and counts those that send an object. -/
def setup (t : Trail) (web : Web) : List Actor → Nat × Trail
  | [] => (0, t)
  | a :: rest =>
    match a.id with
    | none => t.setup web rest
    | some id =>
      let (_, results, t) := t.visit web id [.media]
      let (passed, t) := t.setup web rest
      (if results.all (·.passed) then passed + 1 else passed, t)

end Trail

end FedLoad
