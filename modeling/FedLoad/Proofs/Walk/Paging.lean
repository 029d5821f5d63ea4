import FedLoad.Proofs.Walk.Route
/-!
# Paging follows a route

Paging through a collection requests exactly the longest route that begins at the collection. One
step of the cursor either goes one address further on every route there is, or there is none that
goes further; the run follows by induction along the pages.

Main statements: `pages_orderly` for a web of which nothing is assumed, and `pages_longest` for a
site, where the route is the longest prefix of a chain of links that knows no cursor.
-/
namespace FedLoad

/-! ## One step -/

namespace Cursor

/-- What a cursor that leads on says about the page it leads to. -/
theorem next_eq_some {c c' : Cursor} {object : Json} {u : String}
    (h : c.next object = (some u, c')) :
    c.candidate object = some u ∧ u ∉ c.visited ∧ c.index < c.maxPages ∧
      c' = { c with pending := none } := by
  obtain ⟨hindex, rfl⟩ := index_lt_of_next h
  simp only [next, Prod.mk.injEq, and_true] at h
  obtain ⟨hcandidate, hadmits⟩ := Option.filter_eq_some_iff.1 h
  simp only [admits, Bool.and_eq_true, Bool.not_eq_true', List.contains_eq_mem,
    decide_eq_false_iff_not] at hadmits
  exact ⟨hcandidate, hadmits.1, hindex, rfl⟩

/-- A cursor that does not lead on has no link to a new place, or no room. -/
theorem next_eq_none {c c' : Cursor} {object : Json} {u : String}
    (h : c.next object = (none, c')) (hu : c.candidate object = some u) :
    u ∈ c.visited ∨ c.maxPages ≤ c.index := by
  simp only [next, Prod.mk.injEq] at h
  have hadmits := Option.filter_eq_none_iff.1 h.1 u hu
  simp only [admits, Bool.and_eq_true, Bool.not_eq_true', List.contains_eq_mem,
    decide_eq_false_iff_not, decide_eq_true_eq, not_and, Nat.not_lt] at hadmits
  by_cases hmem : u ∈ c.visited
  · exact .inl hmem
  · exact .inr (hadmits hmem)

/-- After the first question only links onward count. -/
theorem candidate_fetched (c : Cursor) (u : String) (page object : Json) :
    (({ c with pending := none } : Cursor).fetched u page).candidate object = onward object := by
  simp [candidate, fetched, onward]

end Cursor

namespace Trail

variable {t t' : Trail} {web : Web} {u : String} {response : Response}
  {results : List Check.Result} {checks : List Check}

theorem json_of_visit (h : t.visit web u checks = (response, results, t')) :
    response.json = web.value t.requested u := by
  simp only [visit, fetch, check, Check.run, Prod.mk.injEq] at h
  obtain ⟨rfl, -, -⟩ := h
  rfl

theorem requested_of_visit (h : t.visit web u checks = (response, results, t')) :
    t'.requested = t.requested ++ [u] := by
  simp only [visit, fetch, check, Check.run, Prod.mk.injEq] at h
  obtain ⟨-, -, rfl⟩ := h
  rfl

theorem requested_record (t : Trail) (e : Event) : (t.record e).requested = t.requested := rfl

/-! ## The whole run -/

/-- What is requested stands in the reports, in the order of requesting, and is a route. -/
theorem pagesFrom_route (t : Trail) (web : Web) (c : Cursor) (object : Json) :
    (t.pagesFrom web c object).2.requested =
      t.requested ++ (t.pagesFrom web c object).1.map PageReport.url ∧
    Route web t.requested c.visited (c.candidate object) (c.maxPages - c.index)
      ((t.pagesFrom web c object).1.map PageReport.url) ∧
    (t.pagesFrom web c object).1.map PageReport.index =
      List.range' c.index (t.pagesFrom web c object).1.length := by
  fun_induction pagesFrom t web c object with
  | case1 t c object c' h => exact ⟨by simp, .halt, rfl⟩
  | case2 t c object u c' h response results t₁ hv t₂ rest t₃ hr ih =>
    obtain ⟨hcandidate, hunmet, hroom, rfl⟩ := Cursor.next_eq_some h
    obtain ⟨hreq, hroute, hindex⟩ := ih
    have hreq₂ : t₂.requested = t.requested ++ [u] :=
      (requested_record t₁ .page).trans (requested_of_visit hv)
    rw [hr] at hreq hroute hindex
    rw [Cursor.candidate_fetched, json_of_visit hv, hreq₂] at hroute
    refine ⟨?_, ?_, ?_⟩
    · rw [hreq₂] at hreq
      simpa using hreq
    · obtain ⟨room, hsucc⟩ : ∃ n, c.maxPages - c.index = n + 1 :=
        ⟨c.maxPages - c.index - 1, by omega⟩
      have hrest : c.maxPages - (c.index + 1) = room := by omega
      simp only [Cursor.fetched, hrest] at hroute
      rw [hcandidate, hsucc]
      exact .go hunmet hroute
    · simpa [Cursor.fetched, List.range'_succ] using hindex

/-- No route from where paging begins goes further than paging. -/
theorem isPrefix_pagesFrom (t : Trail) (web : Web) (c : Cursor) (object : Json) (us : List String)
    (hus : Route web t.requested c.visited (c.candidate object) (c.maxPages - c.index) us) :
    us <+: (t.pagesFrom web c object).1.map PageReport.url := by
  fun_induction pagesFrom t web c object generalizing us with
  | case1 t c object c' h =>
    generalize hlink : c.candidate object = link at hus
    generalize hroom : c.maxPages - c.index = room at hus
    cases hus with
    | halt => exact List.nil_prefix
    | go hunmet =>
      rcases Cursor.next_eq_none h hlink with hmet | hfull
      · exact absurd hmet hunmet
      · omega
  | case2 t c object u c' h response results t₁ hv t₂ rest t₃ hr ih =>
    obtain ⟨hcandidate, -, -, rfl⟩ := Cursor.next_eq_some h
    rw [hcandidate] at hus
    generalize hroom : c.maxPages - c.index = room at hus
    cases hus with
    | halt => exact List.nil_prefix
    | @go _ _ us _ room _ hrest =>
      have hreq₂ : t₂.requested = t.requested ++ [u] :=
        (requested_record t₁ .page).trans (requested_of_visit hv)
      have hroom' : c.maxPages - (c.index + 1) = room := by omega
      rw [hr, Cursor.candidate_fetched, json_of_visit hv, hreq₂] at ih
      simp only [Cursor.fetched, hroom'] at ih
      exact (List.prefix_cons_inj u).2 (ih us hrest)

/-- A collection leads on to its own link `next`, or to `first`; no page was fetched so far. -/
theorem pages_route (t : Trail) (web : Web) (maxPages : Nat) (url : String) (collection : Json) :
    Route web t.requested (Cursor.marks url collection)
      (outwardLink collection "next" <|> outwardLink collection "first") maxPages
      ((t.pages web maxPages url collection).1.map PageReport.url) :=
  (t.pagesFrom_route web (.start url collection maxPages) collection).2.1

end Trail

/-! ## A web of which nothing is assumed -/

/-- What holds of the addresses of pages in the order of fetching, if the collection was fetched
from `url` and all of `past` was requested before the first page. -/
structure Orderly (web : Web) (past : List String) (maxPages : Nat) (url : String)
    (collection : Json) (urls : List String) : Prop where
  bounded : urls.length ≤ maxPages
  nonempty : ∀ u ∈ urls, u ≠ ""
  distinct : urls.Nodup
  outside : ∀ u ∈ urls, u ≠ url ∧ ownId collection ≠ some u
  /-- No address is the id that an earlier page carries. -/
  unclaimed : ∀ j k (_ : j < k) (_ : k < urls.length),
    ownId (web.value (past ++ urls.take j) urls[j]) ≠ some urls[k]

theorem Route.orderly {web : Web} {past us : List String} {maxPages : Nat} {url : String}
    {collection : Json}
    (h : Route web past (Cursor.marks url collection)
      (outwardLink collection "next" <|> outwardLink collection "first") maxPages us) :
    Orderly web past maxPages url collection us where
  bounded := h.length_le
  nonempty := by
    refine h.ne_empty fun u hu => ?_
    rw [Option.orElse_eq_orElse, Option.orElse_eq_or] at hu
    rcases Option.or_eq_some_iff.1 hu with hnext | ⟨-, hfirst⟩
    · exact outwardLink_ne_empty hnext
    · exact outwardLink_ne_empty hfirst
  distinct := h.nodup
  outside := by
    intro u hu
    obtain ⟨k, hk, rfl⟩ := List.getElem_of_mem hu
    have hmet := (h.fresh k hk).1
    rw [Cursor.mem_marks, not_or] at hmet
    exact hmet
  unclaimed := by
    intro j k hjk hk hid
    exact (h.fresh k hk).2 j hjk (Cursor.mem_marks.2 (.inr hid))

/-- However the web answers, paging ends after at most the largest number of pages, never fetches a
place that it has met, and numbers the pages as it fetches them. -/
theorem Trail.pages_orderly (t : Trail) (web : Web) (maxPages : Nat) (url : String)
    (collection : Json) :
    let r := t.pages web maxPages url collection
    let urls := r.1.map PageReport.url
    r.2.requested = t.requested ++ urls ∧
    Orderly web t.requested maxPages url collection urls ∧
    r.1.map PageReport.index = List.range r.1.length := by
  intro r urls
  obtain ⟨hrequested, -, hindex⟩ :=
    t.pagesFrom_route web (.start url collection maxPages) collection
  refine ⟨hrequested, (t.pages_route web maxPages url collection).orderly, ?_⟩
  rw [List.range_eq_range']
  exact hindex

/-! ## Sites -/

namespace Site

variable {site : Site} {maxPages : Nat} {url : String} {collection : Json} {us ps : List String}

/-- The chain of links that begins at a collection: its link `next`, or else `first`, and then
onward from page to page. -/
def chain (site : Site) (collection : Json) (k : Nat) : Option String :=
  site.ahead (outwardLink collection "next" <|> outwardLink collection "first") k

/-- Is `us` a prefix of the chain, no longer than allowed, on which no place is met twice? -/
structure Clear (site : Site) (maxPages : Nat) (url : String) (collection : Json)
    (us : List String) : Prop where
  bounded : us.length ≤ maxPages
  chained : ∀ k (_ : k < us.length), site.chain collection k = some us[k]
  outside : ∀ k (_ : k < us.length), us[k] ≠ url ∧ ownId collection ≠ some us[k]
  unmet : ∀ j k (_ : j < k) (_ : k < us.length),
    us[k] ≠ us[j] ∧ ownId (site.page us[j]) ≠ some us[k]

/-- The clear prefixes of the chain are the routes, after whatever requests. -/
theorem clear_iff_route (past : List String) :
    site.Clear maxPages url collection us ↔
      Route site.web past (Cursor.marks url collection)
        (outwardLink collection "next" <|> outwardLink collection "first") maxPages us := by
  rw [route_iff]
  simp only [Cursor.mem_marks, not_or]
  constructor
  · rintro ⟨hlen, hchain, hout, hunmet⟩
    exact ⟨hlen, fun k hk => ⟨hchain k hk, hout k hk, fun j hj => hunmet j k hj hk⟩⟩
  · rintro ⟨hlen, hall⟩
    exact ⟨hlen, fun k hk => (hall k hk).1, fun k hk => (hall k hk).2.1,
      fun j k hj hk => (hall k hk).2.2 j hj⟩

/-- Where the pages carry their own addresses as ids and no two are alike, the chain is clear as far
as it is allowed to go. -/
theorem clear_take (hchain : ∀ k, site.chain collection k = ps[k]?)
    (hids : ∀ p ∈ ps, ownId (site.page p) = some p) (hdistinct : ps.Nodup)
    (hout : ∀ p ∈ ps, p ≠ url ∧ ownId collection ≠ some p) :
    site.Clear maxPages url collection (ps.take maxPages) := by
  have hlt : ∀ k, k < (ps.take maxPages).length → k < ps.length := by
    intro k hk
    rw [List.length_take] at hk
    omega
  refine ⟨List.length_take_le _ _, fun k hk => ?_, fun k hk => ?_, fun j k hj hk => ?_⟩
  · rw [hchain, List.getElem?_eq_getElem (hlt k hk), List.getElem_take]
  · rw [List.getElem_take]
    exact hout _ (List.getElem_mem _)
  · have hk' := hlt k hk
    have hj' := hlt j (Nat.lt_trans hj hk)
    have hne : ps[k] ≠ ps[j] := by
      have hapart := List.pairwise_iff_getElem.1 hdistinct j k hj' hk' hj
      exact fun heq => hapart heq.symm
    rw [List.getElem_take, List.getElem_take, hids _ (List.getElem_mem _)]
    exact ⟨hne, fun heq => hne (Option.some.inj heq).symm⟩

end Site

/-- On a site, paging requests the longest clear prefix of the chain. So a chain of pages that carry
their own, distinct addresses is requested in full, or as far as is allowed. -/
theorem Trail.pages_longest (t : Trail) (site : Site) (maxPages : Nat) (url : String)
    (collection : Json) :
    let r := t.pages site.web maxPages url collection
    let urls := r.1.map PageReport.url
    r.2.requested = t.requested ++ urls ∧
    site.Clear maxPages url collection urls ∧
    (∀ us, site.Clear maxPages url collection us → us <+: urls) ∧
    (∀ ps : List String, (∀ k, site.chain collection k = ps[k]?) →
      (∀ p ∈ ps, ownId (site.page p) = some p) → ps.Nodup →
      (∀ p ∈ ps, p ≠ url ∧ ownId collection ≠ some p) → urls = ps.take maxPages) := by
  intro r urls
  have hclear : site.Clear maxPages url collection urls :=
    (Site.clear_iff_route t.requested).2 (t.pages_route site.web maxPages url collection)
  have hlongest : ∀ us, site.Clear maxPages url collection us → us <+: urls := fun us hus =>
    t.isPrefix_pagesFrom site.web (.start url collection maxPages) collection us
      ((Site.clear_iff_route t.requested).1 hus)
  refine ⟨(t.pagesFrom_route site.web (.start url collection maxPages) collection).1, hclear,
    hlongest, fun ps hchain hids hdistinct hout => ?_⟩
  -- The run is no longer than the chain, so the prefix `ps.take maxPages` is all of it.
  have hlen : urls.length ≤ ps.length := by
    refine Nat.le_of_not_lt fun hlt => ?_
    have hpast := hclear.chained ps.length hlt
    rw [hchain, List.getElem?_eq_none (Nat.le_refl _)] at hpast
    exact absurd hpast (by simp)
  refine ((hlongest _ (Site.clear_take hchain hids hdistinct hout)).eq_of_length ?_).symm
  have hprefix := (hlongest _ (Site.clear_take hchain hids hdistinct hout)).length_le
  have := hclear.bounded
  rw [List.length_take] at hprefix ⊢
  omega

end FedLoad
