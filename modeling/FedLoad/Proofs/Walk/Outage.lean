import FedLoad.Proofs.Record.Views
/-!
# Requests that break off

A reply breaks off before anything came, or in its body. Either way nothing of the body is kept, so
the response is empty: checks of its content fail, those of properties hold, since there is none to
differ, and the outage is counted once under its category, whatever checks are run. A reply that
broke off in its body keeps the status that came first, and with status 200 it passes the check of
the status.

Main statements: `Trail.visit_outage`, and `Trail.fetch_not_blank` for the status that stays.
-/
namespace FedLoad

/-- What broke off, if anything did. -/
def Reply.outage? : Reply → Option Outage
  | .lost cause .. | .broken _ _ cause .. => some cause
  | .complete .. => none

/-- The status that came, if any did. -/
def Reply.status? : Reply → Option Nat
  | .lost .. => none
  | .complete status .. | .broken status .. => some status

/-! ## Empty responses -/

/-- Does a check hold of a response of which nothing but a status came? -/
def Check.heldBlank (status : Option Nat) : Check → Bool
  | .status => status == some 200
  | .media | .typeIn _ | .body => false
  | .property .. => true

/-- Nothing but a status came, and checks say so. -/
structure Response.Blank (r : Response) (came : Option Nat) : Prop where
  status : r.status = came
  body : r.body = ""
  json : r.json = .null
  checks : ∀ checks : List Check,
    (Check.results checks r).map Check.Result.passed = checks.map (Check.heldBlank came)

theorem Response.json_of_body_empty {r : Response} (h : r.body = "") : r.json = .null := by
  rw [json, h]
  rfl

theorem Check.holds_of_body_empty {r : Response} (h : r.body = "") (c : Check) :
    c.holds r = c.heldBlank r.status := by
  have hjson := Response.json_of_body_empty h
  cases c with
  | status => cases hs : statusHolds r <;> simp_all [holds, failure?, heldBlank, statusHolds]
  | media =>
    have hbody : bodyHolds r = false := by rw [bodyHolds, h]; rfl
    cases hc : contentTypeHolds r <;> simp [holds, failure?, heldBlank, hc, hbody]
  | typeIn allowed =>
    have htype : typeHolds allowed r = false := by rw [typeHolds, Response.objectType, hjson]; rfl
    simp [holds, failure?, heldBlank, htype]
  | body => simp [holds, failure?, heldBlank, hjson, isPresent]
  | property name expected =>
    have hfield : Json.field? .null name = none := rfl
    simp [holds, failure?, heldBlank, hjson, hfield]

theorem Response.blank_of_body_empty {r : Response} (h : r.body = "") : r.Blank r.status where
  status := rfl
  body := h
  json := json_of_body_empty h
  checks checks := by
    rw [Check.results, List.map_map]
    exact List.map_congr_left fun c _ => Check.holds_of_body_empty h c

/-! ## Counting outages -/

theorem Outage.label_injective {a b : Outage} (h : a.label = b.label) : a = b := by
  cases a <;> cases b <;> first | rfl | exact absurd h (by decide)

theorem Check.count_outage (checks : List Check) (r : Response) (cause : Outage) :
    (checks.flatMap (events r)).count (.outage cause) = 0 := by
  refine List.count_eq_zero.2 fun h => ?_
  obtain ⟨c, -, hc⟩ := List.mem_flatMap.1 h
  cases c <;> simp [events, samples] at hc

theorem Reply.count_outage {reply : Reply} {cause : Outage} (h : reply.outage? = some cause)
    (category : Outage) :
    reply.events.count (.outage category) = if category = cause then 1 else 0 := by
  cases reply with
  | complete => cases h
  | lost | broken =>
    cases h
    by_cases heq : category = cause
    · simp [events, heq]
    · simp [events, heq, Ne.symm heq]

/-- Under a category every outage of it is counted once. -/
theorem Counters.countAt_outages {c : Counters} (h : Keyed.Ascending c.outages)
    (events : List Event) (cause : Outage) :
    countAt [cause.label] (c.recordAll events).outages =
      countAt [cause.label] c.outages + events.count (.outage cause) := by
  rw [labelled_outages.countAt_recordAll h]
  refine congrArg _ (List.countP_congr fun e _ => ?_)
  rw [decide_eq_true_eq, beq_iff_eq]
  cases e with
  | outage category =>
    have hlabel : category.label = cause.label ↔ category = cause :=
      ⟨Outage.label_injective, congrArg _⟩
    simp [Event.outageLabels?, hlabel]
  | _ => simp [Event.outageLabels?]

/-! ## Requests that break off -/

namespace Trail

theorem fetch_body {t : Trail} {web : Web} {url : String} {cause : Outage}
    (h : (web t.requested url).outage? = some cause) :
    (t.fetch web url).1.body = "" ∧
      (t.fetch web url).1.status = (web t.requested url).status? := by
  unfold fetch
  cases hreply : web t.requested url with
  | complete => rw [hreply] at h; cases h
  | lost | broken => exact ⟨rfl, rfl⟩

theorem book_visit (t : Trail) (web : Web) (url : String) (checks : List Check) :
    (t.visit web url checks).2.2.book = t.book.recordAll
      ((web t.requested url).events ++ checks.flatMap (Check.events (t.fetch web url).1)) := by
  rw [Book.recordAll_append]
  rfl

/-- A request that breaks off gives an empty response with the status that came, if any did, and
whatever is checked, the outage is counted once, under its category. The response has no status just
if none came. -/
theorem visit_outage {requested : List String} {history : List Event} {web : Web} {url : String}
    {cause : Outage} (h : (web requested url).outage? = some cause) (checks : List Check) :
    let t : Trail := ⟨requested, Book.empty.recordAll history⟩
    let visited := t.visit web url checks
    visited.1.Blank (web requested url).status? ∧
      (visited.1.Blank none ↔ (web requested url).status? = none) ∧
      visited.2.1.map Check.Result.passed =
        checks.map (Check.heldBlank (web requested url).status?) ∧
      ∀ category : Outage, Counters.countAt [category.label] visited.2.2.book.counters.outages =
        Counters.countAt [category.label] t.book.counters.outages +
          if category = cause then 1 else 0 := by
  intro t visited
  obtain ⟨hbody, hstatus⟩ := @fetch_body t _ _ _ h
  have hblank : visited.1.Blank (web requested url).status? :=
    hstatus ▸ Response.blank_of_body_empty hbody
  refine ⟨hblank, ⟨fun hnone => ?_, fun hnone => hnone ▸ hblank⟩, hblank.checks checks, ?_⟩
  · rw [← hblank.status, hnone.status]
  · intro category
    have hsorted : Keyed.Ascending t.book.counters.outages := by
      rw [Book.counters_recordAll]
      exact Counters.labelled_outages.ascending_recordAll (c := .empty) List.Pairwise.nil history
    rw [t.book_visit, Book.counters_recordAll, Counters.countAt_outages hsorted,
      List.count_append, Reply.count_outage h, Check.count_outage, Nat.add_zero]

/-- A page whose body breaks off after status 200 passes the check of the status and that of a
property, and no other. -/
theorem visit_outage_afterHead :
    let web : Web := fun _ _ => .broken 200 "application/activity+json" .network "broken" .zero
    let checks : List Check := Check.ofPage ++ [.body, .property "name" (.text "self")]
    let visited := Trail.empty.visit web "http://fedbox.local/" checks
    visited.1.status = some 200 ∧
      visited.2.1.map Check.Result.passed = [true, false, false, false, true] ∧
      Counters.countAt [Outage.network.label] visited.2.2.book.counters.outages = 1 := by
  intro web checks visited
  have hcause : (web [] "http://fedbox.local/").outage? = some .network := rfl
  obtain ⟨hblank, -, hresults, hcount⟩ := @visit_outage [] [] web _ _ hcause checks
  exact ⟨hblank.status, hresults, hcount .network⟩

/-- A response to a request that broke off need not be without a status. -/
theorem fetch_not_blank : ¬ ∀ (t : Trail) (web : Web) (url : String) (cause : Outage),
    (web t.requested url).outage? = some cause → (t.fetch web url).1.Blank none := by
  intro h
  let web : Web := fun _ _ => .broken 200 "application/activity+json" .network "broken" .zero
  have hblank := h .empty web "http://fedbox.local/" .network rfl
  cases hblank.status

end Trail

end FedLoad
