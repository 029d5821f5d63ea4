import FedLoad.Walk.Basic
/-!
# What a walk enters into the book

A walk enters events into the book and touches it in no other way, and all of them are events of
requests, checks and pages: a walk never counts an iteration or gives a verdict.

Main statements: `Trail.walked_visit` for one request and its checks, and from it, by induction over
the pages and the collections, `Trail.walked_actor` and `Trail.walked_setup`.
-/
namespace FedLoad.Trail

/-- From `t` to `t'` events of walks were entered into the book, and nothing else happened to it. -/
def Walked (t t' : Trail) : Prop :=
  ∃ events : List Event, (∀ e ∈ events, e.ofWalk) ∧ t'.book = t.book.recordAll events

namespace Walked

variable {t t' t'' : Trail}

theorem refl (t : Trail) : t.Walked t := ⟨[], by simp, rfl⟩

theorem trans (h : t.Walked t') (h' : t'.Walked t'') : t.Walked t'' := by
  obtain ⟨events, hevents, hbook⟩ := h
  obtain ⟨events', hevents', hbook'⟩ := h'
  refine ⟨events ++ events', List.forall_mem_append.2 ⟨hevents, hevents'⟩, ?_⟩
  rw [hbook', hbook, Book.recordAll_append]

end Walked

/-! ## The steps of a walk -/

theorem walked_fetch (t : Trail) (web : Web) (url : String) : t.Walked (t.fetch web url).2 := by
  refine ⟨(web t.requested url).events, ?_, rfl⟩
  cases web t.requested url <;> simp [Reply.events, Event.ofWalk]

theorem walked_check (t : Trail) (checks : List Check) (r : Response) :
    t.Walked (t.check checks r).2 := by
  refine ⟨checks.flatMap (Check.events r), fun e he => ?_, rfl⟩
  obtain ⟨c, -, hc⟩ := List.mem_flatMap.1 he
  rcases List.mem_append.1 hc with hc | hc
  · cases c <;> simp [Check.samples] at hc <;> rcases hc with rfl | rfl <;> rfl
  · rw [List.mem_singleton.1 hc]
    rfl

theorem walked_page (t : Trail) : t.Walked (t.record .page) :=
  ⟨[.page], by simp [Event.ofWalk], rfl⟩

theorem walked_visit {t t' : Trail} {web : Web} {url : String} {checks : List Check}
    {response : Response} {results : List Check.Result}
    (h : t.visit web url checks = (response, results, t')) : t.Walked t' := by
  simp only [visit, Prod.mk.injEq] at h
  obtain ⟨-, -, rfl⟩ := h
  exact (t.walked_fetch web url).trans (walked_check _ checks _)

/-! ## Pages, collections, actors -/

theorem walked_pagesFrom (t : Trail) (web : Web) (c : Cursor) (object : Json) :
    t.Walked (t.pagesFrom web c object).2 := by
  fun_induction pagesFrom t web c object with
  | case1 t c object c' h => exact .refl t
  | case2 t c object u c' h response results t₁ hv t₂ rest t₃ hr ih =>
    rw [hr] at ih
    exact ((walked_visit hv).trans t₁.walked_page).trans ih

theorem walked_collection (t : Trail) (web : Web) (maxPages : Nat) (url : String) :
    t.Walked (t.collection web maxPages url).2 := by
  unfold collection
  generalize hv : t.visit web url Check.ofCollection = visited
  obtain ⟨response, results, t₁⟩ := visited
  exact (walked_visit hv).trans (t₁.walked_pagesFrom web _ response.json)

theorem walked_collections (t : Trail) (web : Web) (maxPages : Nat) (urls : List String) :
    t.Walked (t.collections web maxPages urls).2 := by
  induction urls generalizing t with
  | nil => exact .refl t
  | cons url rest ih => exact (t.walked_collection web maxPages url).trans (ih _)

theorem walked_actor (t : Trail) (web : Web) (maxPages : Nat) (a : Actor) :
    t.Walked (t.actor web maxPages a).2 := by
  unfold actor
  cases a.id with
  | none => exact .refl t
  | some id =>
    dsimp only
    generalize hv : t.visit web id a.checks = visited
    obtain ⟨response, results, t₁⟩ := visited
    exact (walked_visit hv).trans (t₁.walked_collections web maxPages _)

theorem walked_setup (t : Trail) (web : Web) (actors : List Actor) :
    t.Walked (t.setup web actors).2 := by
  induction actors generalizing t with
  | nil => exact .refl t
  | cons a rest ih =>
    unfold setup
    cases a.id with
    | none => exact ih t
    | some id =>
      dsimp only
      generalize hv : t.visit web id [.media] = visited
      obtain ⟨response, results, t₁⟩ := visited
      exact (walked_visit hv).trans (ih t₁)

end FedLoad.Trail
