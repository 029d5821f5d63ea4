import Mathlib.Data.List.Forall2
import FedLoad.Proofs.Walk.Paging
/-!
# Links and embedded objects

Where a body links to an address, it may as well hold an object with that address as its id. Two
webs that differ in this way alone are told apart by no walk: the same addresses are requested in
the same order, and all collections and pages give the same results. An actor gives the same results
too, but for the checks of properties that differ.

`Embedded` says of two values what may differ, one link at a time, and `Web.Embedded` of two webs.
The walk is followed on both side by side: the cursors stay equal, since they are made of links and
ids alone, and the objects that they stand on stay related.

Main statement: `Trail.actor_embedded`.
-/
namespace FedLoad

/-! ## Values -/

/-- A link, and a value in its place: the same value, or an object whose id is the text that it
takes the place of. -/
inductive Embedded : Json → Json → Prop
  | same (j : Json) : Embedded j j
  | object {s : String} {fields : List (String × Json)}
    (id : (Json.record fields).field? "id" = some (.text s)) : Embedded (.text s) (.record fields)

/-- The properties that hold one link. -/
def linkKeys : List String := collectionKeys ++ ["streams", "first", "next"]

/-- A property, and one in its place: a link, or under `streams` some of the links of a list, may be
embedded objects. -/
inductive EmbeddedAt : String → Json → Json → Prop
  | same (key : String) (j : Json) : EmbeddedAt key j j
  | link {key : String} {j j' : Json} (key_mem : key ∈ linkKeys) (link : Embedded j j') :
    EmbeddedAt key j j'
  | streams {items items' : List Json} (links : List.Forall₂ Embedded items items') :
    EmbeddedAt "streams" (.list items) (.list items')

/-- The value of a body, and one in its place: any of its links may be embedded objects. -/
inductive EmbeddedIn : Json → Json → Prop
  | same (j : Json) : EmbeddedIn j j
  | record {fields fields' : List (String × Json)}
    (links : List.Forall₂ (fun p p' => p.1 = p'.1 ∧ EmbeddedAt p.1 p.2 p'.2) fields fields') :
    EmbeddedIn (.record fields) (.record fields')

section Links

variable {j j' : Json} {key : String}

theorem linkOf_embedded (h : Embedded j j') : linkOf j' = linkOf j := by
  cases h with
  | same => rfl
  | object id => simp [linkOf, id]

theorem linkOf_embeddedAt (h : EmbeddedAt key j j') : linkOf j' = linkOf j := by
  cases h with
  | same => rfl
  | link _ hlink => exact linkOf_embedded hlink
  | streams => rfl

theorem filterMap_linkOf_embedded {items items' : List Json}
    (h : List.Forall₂ Embedded items items') :
    items'.filterMap linkOf = items.filterMap linkOf := by
  induction h with
  | nil => rfl
  | cons hlink _ ih => rw [List.filterMap_cons, List.filterMap_cons, linkOf_embedded hlink, ih]

/-- A property is there in both values or in none. -/
theorem field?_embedded (h : EmbeddedIn j j') (key : String) :
    Option.Rel (EmbeddedAt key) (j.field? key) (j'.field? key) := by
  cases h with
  | same =>
    cases j.field? key with
    | none => exact .none
    | some value => exact .some (.same key value)
  | record hfields =>
    simp only [Json.field?]
    induction hfields with
    | nil => exact .none
    | @cons p p' _ _ hp _ ih =>
      obtain ⟨k, value⟩ := p
      obtain ⟨k', value'⟩ := p'
      obtain ⟨rfl, hvalue⟩ := hp
      simp only [List.lookup_cons]
      cases hkey : key == k with
      | true =>
        rw [eq_of_beq hkey]
        exact .some hvalue
      | false => exact ih

/-- Properties that hold no link are the same. -/
theorem field?_eq_of_embedded (h : EmbeddedIn j j') (hkey : key ∉ linkKeys) :
    j'.field? key = j.field? key := by
  have hfield := field?_embedded h key
  generalize j.field? key = value at hfield
  generalize j'.field? key = value' at hfield
  cases hfield with
  | none => rfl
  | some hvalue =>
    cases hvalue with
    | same => rfl
    | link hmem => exact absurd hmem hkey
    | streams => exact absurd (by decide) hkey

theorem linkAt_embedded (h : EmbeddedIn j j') (key : String) : linkAt j' key = linkAt j key := by
  have hfield := field?_embedded h key
  unfold linkAt
  generalize j.field? key = value at hfield
  generalize j'.field? key = value' at hfield
  cases hfield with
  | none => rfl
  | some hvalue => exact linkOf_embeddedAt hvalue

theorem ownId_embedded (h : EmbeddedIn j j') : ownId j' = ownId j := by
  rw [ownId, field?_eq_of_embedded h (by decide), ← ownId]

theorem outwardLink_embedded (h : EmbeddedIn j j') (key : String) :
    outwardLink j' key = outwardLink j key := by
  rw [outwardLink, linkAt_embedded h, ownId_embedded h, ← outwardLink]

theorem streamLinks_embedded (h : EmbeddedIn j j') : streamLinks j' = streamLinks j := by
  have hfield := field?_embedded h "streams"
  unfold streamLinks
  generalize j.field? "streams" = value at hfield
  generalize j'.field? "streams" = value' at hfield
  cases hfield with
  | none => rfl
  | some hvalue =>
    cases hvalue with
    | same => rfl
    | streams hlinks => exact filterMap_linkOf_embedded hlinks
    | link _ hlink =>
      cases hlink with
      | same => rfl
      | object id => exact congrArg Option.toList (linkOf_embedded (.object id))

theorem collectionsOf_embedded (h : EmbeddedIn j j') : collectionsOf j' = collectionsOf j := by
  rw [collectionsOf, streamLinks_embedded h, funext (linkAt_embedded h), ← collectionsOf]

theorem isPresent_embedded (h : EmbeddedIn j j') : Check.isPresent j' = Check.isPresent j := by
  cases h with
  | same => rfl
  | record hfields => cases hfields <;> rfl

end Links

/-! ## Responses -/

/-- A reply, and one in its place: the body may hold embedded objects. -/
inductive Reply.Embedded : Reply → Reply → Prop
  | same (reply : Reply) : Embedded reply reply
  | body {status : Nat} {contentType body body' : String} {took : Span}
    {fields fields' : List (String × Json)} (read : Json.read? body = some (.record fields))
    (read' : Json.read? body' = some (.record fields'))
    (links : EmbeddedIn (.record fields) (.record fields')) :
    Embedded (.complete status contentType body took) (.complete status contentType body' took)

/-- What two responses have in common if one may hold embedded objects in place of links. -/
structure Response.Embedded (r r' : Response) : Prop where
  status : r'.status = r.status
  contentType : r'.contentType = r.contentType
  body : r'.body.isEmpty = r.body.isEmpty
  json : EmbeddedIn r.json r'.json

/-- A text that holds an object is not empty. -/
theorem isEmpty_of_read? {body : String} {j : Json} (h : Json.read? body = some j) :
    body.isEmpty = false := by
  refine Bool.eq_false_iff.2 fun hempty => ?_
  rw [String.isEmpty_iff.1 hempty] at h
  cases h

theorem Response.embedded_ofReply {reply reply' : Reply} (h : reply.Embedded reply')
    (url : String) : (ofReply url reply).Embedded (ofReply url reply') := by
  cases h with
  | same => exact ⟨rfl, rfl, rfl, .same _⟩
  | @body _ _ body body' _ _ _ read read' links =>
    refine ⟨rfl, rfl, ?_, ?_⟩
    · exact (isEmpty_of_read? read').trans (isEmpty_of_read? read).symm
    · simp only [json, ofReply, answered, Json.readOrNull, read, read', Option.getD_some]
      exact links

/-- A check of a property that differs between two values is none that they agree on. -/
def Check.Spares (old new : Json) : Check → Prop
  | .property name _ => new.field? name = old.field? name
  | _ => True

theorem Check.result_embedded {r r' : Response} (h : r.Embedded r') {c : Check}
    (hc : c.Spares r.json r'.json) : c.result r' = c.result r := by
  have hfailure : c.failure? r' = c.failure? r := by
    cases c with
    | status =>
      have hholds : statusHolds r' = statusHolds r := by simp only [statusHolds, h.status]
      simp only [failure?]
      rw [hholds, h.status]
    | media => simp only [failure?, contentTypeHolds, bodyHolds, h.contentType, h.body]
    | typeIn allowed =>
      have htype : r'.objectType = r.objectType := by
        rw [Response.objectType, field?_eq_of_embedded h.json (by decide), ← Response.objectType]
      have hholds : typeHolds allowed r' = typeHolds allowed r := by simp only [typeHolds, htype]
      simp only [failure?]
      rw [hholds, htype]
    | body => simp only [failure?, isPresent_embedded h.json]
    | property name expected =>
      have hfield : r'.json.field? name = r.json.field? name := hc
      simp only [failure?, hfield]
  simp only [result, holds, hfailure]

/-- Checks that look at no property give the same results. -/
theorem Check.results_embedded {r r' : Response} (h : r.Embedded r') {checks : List Check}
    (hchecks : ∀ c ∈ checks, c.Spares r.json r'.json) : results checks r' = results checks r :=
  List.map_congr_left fun c hc => result_embedded h (hchecks c hc)

theorem Check.spares_ofCollection (old new : Json) : ∀ c ∈ ofCollection, c.Spares old new := by
  simp [ofCollection, basic, Spares]

theorem Check.spares_ofPage (old new : Json) : ∀ c ∈ ofPage, c.Spares old new := by
  simp [ofPage, basic, Spares]

/-! ## Walks -/

/-- Two webs that answer alike after the same requests, except that bodies of the second may hold
embedded objects in place of links. -/
def Web.Embedded (web web' : Web) : Prop :=
  ∀ past url, (web past url).Embedded (web' past url)

namespace Cursor

variable {j j' : Json}

theorem marks_embedded (h : EmbeddedIn j j') (url : String) : marks url j' = marks url j := by
  rw [marks, ownId_embedded h, ← marks]

theorem start_embedded (h : EmbeddedIn j j') (url : String) (maxPages : Nat) :
    start url j' maxPages = start url j maxPages := by
  rw [start, outwardLink_embedded h, marks_embedded h, ← start]

theorem next_embedded (h : EmbeddedIn j j') (c : Cursor) : c.next j' = c.next j := by
  simp only [next, candidate, outwardLink_embedded h]

theorem fetched_embedded (h : EmbeddedIn j j') (c : Cursor) (url : String) :
    c.fetched url j' = c.fetched url j := by
  simp only [fetched, marks_embedded h]

end Cursor

namespace Trail

variable {web web' : Web} {t t' : Trail}

/-- One request: the responses are related, and the requests so far stay the same. -/
theorem visit_embedded (h : web.Embedded web') (hpast : t'.requested = t.requested) {url : String}
    {checks : List Check} {response response' : Response} {results results' : List Check.Result}
    {u u' : Trail} (hv : t.visit web url checks = (response, results, u))
    (hv' : t'.visit web' url checks = (response', results', u')) :
    response.Embedded response' ∧ results = Check.results checks response ∧
      results' = Check.results checks response' ∧ u'.requested = u.requested := by
  have hu := requested_of_visit hv
  have hu' := requested_of_visit hv'
  simp only [visit, fetch, check, Check.run, Prod.mk.injEq] at hv hv'
  obtain ⟨rfl, rfl, -⟩ := hv
  obtain ⟨rfl, rfl, -⟩ := hv'
  rw [hpast] at hu' ⊢
  exact ⟨Response.embedded_ofReply (h t.requested url) url, rfl, rfl, hu'.trans hu.symm⟩

/-- Side by side along the pages: the cursor is the same on both sides. -/
theorem pagesFrom_embedded (h : web.Embedded web') (t : Trail) (c : Cursor) (object : Json) :
    ∀ (t' : Trail) (object' : Json), t'.requested = t.requested → EmbeddedIn object object' →
      (t'.pagesFrom web' c object').1 = (t.pagesFrom web c object).1 ∧
        (t'.pagesFrom web' c object').2.requested = (t.pagesFrom web c object).2.requested := by
  fun_induction pagesFrom t web c object with
  | case1 t c object c' hnext =>
    intro t' object' hpast hobject
    have hnext' := (c.next_embedded hobject).trans hnext
    rw [pagesFrom]
    split
    · exact ⟨rfl, hpast⟩
    · next hsome => cases hnext'.symm.trans hsome
  | case2 t c object target c' hnext response results t₁ hv t₂ rest t₃ hr ih =>
    intro t' object' hpast hobject
    have hnext' := (c.next_embedded hobject).trans hnext
    rw [pagesFrom]
    split
    · next hnone => cases hnext'.symm.trans hnone
    · next target' c'' hsome =>
      cases hnext'.symm.trans hsome
      generalize hv' : t'.visit web' target Check.ofPage = visited'
      obtain ⟨response', results', t₁'⟩ := visited'
      obtain ⟨hresponse, rfl, rfl, hsame⟩ := visit_embedded h hpast hv hv'
      have hsame₂ : (t₁'.record .page).requested = t₂.requested := hsame
      obtain ⟨hpages, hrequested⟩ := ih _ _ hsame₂ hresponse.json
      rw [hr] at hpages hrequested
      have hresults := Check.results_embedded hresponse (Check.spares_ofPage _ _)
      simp only [Cursor.fetched_embedded hresponse.json, hpages, hresults]
      exact ⟨trivial, hrequested⟩

theorem collection_embedded (h : web.Embedded web') (hpast : t'.requested = t.requested)
    (maxPages : Nat) (url : String) :
    (t'.collection web' maxPages url).1 = (t.collection web maxPages url).1 ∧
      (t'.collection web' maxPages url).2.requested =
        (t.collection web maxPages url).2.requested := by
  unfold collection
  generalize hv : t.visit web url Check.ofCollection = visited
  generalize hv' : t'.visit web' url Check.ofCollection = visited'
  obtain ⟨response, results, t₁⟩ := visited
  obtain ⟨response', results', t₁'⟩ := visited'
  obtain ⟨hresponse, rfl, rfl, hsame⟩ := visit_embedded h hpast hv hv'
  obtain ⟨hpages, hrequested⟩ :=
    pagesFrom_embedded h t₁ (.start url response.json maxPages) _ _ _ hsame hresponse.json
  have hresults := Check.results_embedded hresponse (Check.spares_ofCollection _ _)
  simp only [pages, Cursor.start_embedded hresponse.json, hpages, hresults]
  exact ⟨trivial, hrequested⟩

theorem collections_embedded (h : web.Embedded web') (hpast : t'.requested = t.requested)
    (maxPages : Nat) (urls : List String) :
    (t'.collections web' maxPages urls).1 = (t.collections web maxPages urls).1 ∧
      (t'.collections web' maxPages urls).2.requested =
        (t.collections web maxPages urls).2.requested := by
  induction urls generalizing t t' with
  | nil => exact ⟨rfl, hpast⟩
  | cons url rest ih =>
    obtain ⟨hreport, hsame⟩ := collection_embedded h hpast maxPages url
    obtain ⟨hreports, hrequested⟩ := ih hsame
    simp only [collections, hreport, hreports]
    exact ⟨trivial, hrequested⟩

end Trail

/-- What the reports of two walks of `a` have in common whose requests for the actor itself brought
these values. -/
structure ActorReport.Embedded (a : Actor) (old new : Json) (r r' : ActorReport) : Prop where
  id : r'.id = r.id
  collections : r'.collections = r.collections
  requests : r'.requests = r.requests
  length : r.results.length = a.checks.length ∧ r'.results.length = a.checks.length
  /-- Only the checks of properties that differ may have another result. -/
  results : ∀ (i : Nat) (c : Check), a.checks[i]? = some c → c.Spares old new →
    r'.results[i]? = r.results[i]?

/-- Whether bodies hold links or embedded objects with these links as ids, a walk requests the same
addresses in the same order and reports the same, but for the checks of the actor's own properties
that differ. -/
theorem Trail.actor_embedded {web web' : Web} (h : web.Embedded web') {t t' : Trail}
    (hpast : t'.requested = t.requested) (maxPages : Nat) (a : Actor) :
    (t'.actor web' maxPages a).2.requested = (t.actor web maxPages a).2.requested ∧
    Option.Rel
      (fun r r' => r.Embedded a (web.value t.requested r.id) (web'.value t.requested r.id) r')
      (t.actor web maxPages a).1 (t'.actor web' maxPages a).1 := by
  unfold actor
  cases a.id with
  | none => exact ⟨hpast, .none⟩
  | some id =>
    dsimp only
    generalize hv : t.visit web id a.checks = visited
    generalize hv' : t'.visit web' id a.checks = visited'
    obtain ⟨response, results, t₁⟩ := visited
    obtain ⟨response', results', t₁'⟩ := visited'
    have hjson := json_of_visit hv
    have hjson' := json_of_visit hv'
    obtain ⟨hresponse, rfl, rfl, hsame⟩ := visit_embedded h hpast hv hv'
    obtain ⟨hcollections, hrequested⟩ :=
      collections_embedded h hsame maxPages (collectionsOf response.json)
    rw [collectionsOf_embedded hresponse.json]
    refine ⟨hrequested, .some ⟨rfl, hcollections, ?_, ?_, ?_⟩⟩
    · simp only [ActorReport.requests, hcollections]
    · exact ⟨List.length_map _, List.length_map _⟩
    · intro i c hc hspared
      rw [← hjson, ← hpast, ← hjson'] at hspared
      simp only [Check.results, List.getElem?_map, hc, Option.map_some]
      exact congrArg some (Check.result_embedded hresponse hspared)

/-! ## Two sites -/

namespace Site

def root : String := "http://fedbox.local/"

def inbox : String := "http://fedbox.local/inbox"

def stream : String := "http://fedbox.local/stream"

/-- An actor that links to a collection and to one of a list. -/
def linkingActor : String :=
  "\x7b\"inbox\":\"http://fedbox.local/inbox\",\"streams\":[\"http://fedbox.local/stream\"]\x7d"

/-- The same actor with an object for each of them. -/
def embeddingActor : String :=
  "\x7b\"inbox\":\x7b\"id\":\"http://fedbox.local/inbox\",\"totalItems\":2\x7d," ++
    "\"streams\":[\x7b\"id\":\"http://fedbox.local/stream\",\"next\":\"/\"\x7d]\x7d"

/-- A site with this actor, and with empty collections. -/
def ofActor (actor : String) : Site := fun url =>
  .complete 200 "application/activity+json" (if url = root then actor else "\x7b\x7d") .zero

/-- Is this what the linking actor reads as? -/
def isLinking : Json → Bool
  | .record [(key, .text s), (key', .list [.text s'])] =>
    [key, s, key', s'] == ["inbox", inbox, "streams", stream]
  | _ => false

/-- Is this what the embedding actor reads as, apart from the other members of its objects? -/
def isEmbedding : Json → Bool
  | .record [(key, .record ((id, .text s) :: _)),
      (key', .list [.record ((id', .text s') :: _)])] =>
    [key, id, s, key', id', s'] == ["inbox", "id", inbox, "streams", "id", stream]
  | _ => false

theorem read?_linkingActor : Json.read? linkingActor =
    some (.record [("inbox", .text inbox), ("streams", .list [.text stream])]) := by
  have hshape : (Json.read? linkingActor).any isLinking = true := by decide +kernel
  obtain ⟨j, hread, hj⟩ := (Option.any_eq_true _ _).1 hshape
  rw [hread]
  unfold isLinking at hj
  split at hj
  · cases eq_of_beq hj
    rfl
  · cases hj

theorem read?_embeddingActor : ∃ fields fields', Json.read? embeddingActor = some (.record
      [("inbox", .record (("id", .text inbox) :: fields)),
        ("streams", .list [.record (("id", .text stream) :: fields')])]) := by
  have hshape : (Json.read? embeddingActor).any isEmbedding = true := by decide +kernel
  obtain ⟨j, hread, hj⟩ := (Option.any_eq_true _ _).1 hshape
  rw [hread]
  unfold isEmbedding at hj
  split at hj
  · cases eq_of_beq hj
    exact ⟨_, _, rfl⟩
  · cases hj

theorem ofActor_embedded : (ofActor linkingActor).web.Embedded (ofActor embeddingActor).web := by
  intro past url
  obtain ⟨fields, fields', hread⟩ := read?_embeddingActor
  unfold web ofActor
  by_cases hurl : url = root
  · rw [if_pos hurl, if_pos hurl]
    refine .body read?_linkingActor hread (.record (.cons ⟨rfl, ?_⟩ (.cons ⟨rfl, ?_⟩ .nil)))
    · exact .link (by decide) (.object rfl)
    · exact .streams (.cons (.object rfl) .nil)
  · rw [if_neg hurl, if_neg hurl]
    exact .same _

end Site

/-- Both walks request the actor, the collection that it links to, and the one of the list. -/
theorem Trail.actor_embedded_twoSites :
    (Site.ofActor Site.linkingActor).web.Embedded (Site.ofActor Site.embeddingActor).web ∧
    (empty.actor (Site.ofActor Site.linkingActor).web 9 (.ofId Site.root)).2.requested =
      [Site.root, Site.inbox, Site.stream] ∧
    (empty.actor (Site.ofActor Site.embeddingActor).web 9 (.ofId Site.root)).2.requested =
      [Site.root, Site.inbox, Site.stream] := by
  have hplain : (empty.actor (Site.ofActor Site.linkingActor).web 9 (.ofId Site.root)).2.requested =
      [Site.root, Site.inbox, Site.stream] := by decide +kernel
  have hsame := actor_embedded Site.ofActor_embedded (t := empty) rfl 9 (.ofId Site.root)
  exact ⟨Site.ofActor_embedded, hplain, hsame.1.trans hplain⟩

end FedLoad
