import FedLoad.Walk.Basic
/-!
# What a walk enters into the book

The requests, the reports, the tally and the counters of a walk are kept apart from each other, and
agree: `Trail.Grows` relates a trail to a later one by the addresses requested in between, the
results of the checks, the number of pages and the number of samples. A request, a run of checks and
a page are the only steps of a walk; each makes the trail grow by its own part, and the whole walk
by the parts together.

Main statement: `Trail.actor_accounts`, the account of a whole walk by its report.
-/
namespace FedLoad

/-! ## Sums of counts -/

namespace Keyed

variable {κ : Type} [Key κ] [DecidableEq κ]

/-- The sum of all counts. -/
def sum : List (κ × Nat) → Nat
  | [] => 0
  | (_, n) :: rest => n + sum rest

@[simp] theorem sum_bump (key : κ) (n : Nat) (pairs : List (κ × Nat)) :
    sum (bump key n pairs) = sum pairs + n := by
  unfold bump
  induction pairs with
  | nil => simp [alter, sum]
  | cons p rest ih =>
    obtain ⟨k, v⟩ := p
    unfold alter
    by_cases hbefore : Key.before key k
    · rw [if_pos hbefore]
      simp only [sum, Option.getD_none]
      omega
    · rw [if_neg hbefore]
      by_cases heq : key = k
      · rw [if_pos heq]
        simp only [sum, Option.getD_some]
        omega
      · rw [if_neg heq, sum, ih, sum]
        omega

end Keyed

theorem Latency.Histogram.count_eq_sum (h : Histogram) : h.count = Keyed.sum h.counts := by
  unfold count
  induction h.counts with
  | nil => rfl
  | cons p rest ih => rw [List.map_cons, List.foldr_cons, ih, Keyed.sum]

@[simp] theorem Latency.Histogram.count_recordSpan (h : Histogram) (s : Span) :
    (h.recordSpan s).count = h.count + 1 := by
  rw [count_eq_sum, count_eq_sum]
  exact Keyed.sum_bump _ 1 h.counts

/-! ## Results and samples of checks -/

namespace Check

/-- The number of failed results. -/
def failures (results : List Result) : Nat := results.countP fun r => !r.passed

@[simp] theorem failures_nil : failures [] = 0 := rfl

@[simp] theorem failures_append (xs ys : List Result) :
    failures (xs ++ ys) = failures xs + failures ys := List.countP_append

theorem failures_eq_zero {results : List Result} :
    failures results = 0 ↔ results.all (·.passed) := by
  simp [failures, List.countP_eq_zero]

/-- The number of samples that a check takes. -/
def sampleCount : Check → Nat
  | .status | .typeIn _ => 1
  | .media => 2
  | .body | .property .. => 0

/-- The number of samples that a list of checks takes. -/
def samplesOf : List Check → Nat
  | [] => 0
  | c :: rest => c.sampleCount + samplesOf rest

theorem samplesOf_ofPage : samplesOf ofPage = 4 := rfl

theorem samplesOf_ofCollection : samplesOf ofCollection = 4 := rfl

theorem samplesOf_append (xs ys : List Check) :
    samplesOf (xs ++ ys) = samplesOf xs + samplesOf ys := by
  induction xs with
  | nil => rw [List.nil_append, samplesOf, Nat.zero_add]
  | cons c rest ih => rw [List.cons_append, samplesOf, samplesOf, ih, Nat.add_assoc]

theorem failures_result (c : Check) (r : Response) :
    failures [c.result r] = if c.holds r then 0 else 1 := by
  cases h : c.holds r <;> simp [failures, result, h]

/-- The samples that a check takes are entered as such and change nothing else. At most two of them
fail, and none does if the check passes. -/
theorem recordAll_samples (c : Check) (r : Response) (b : Book) :
    ∃ n, n ≤ 2 * failures [c.result r] ∧ ∃ rates counts,
      b.recordAll (c.samples r) =
        { tally := { b.tally with
            samples := ⟨b.tally.samples.total + c.sampleCount, b.tally.samples.failed + n⟩
            byDefect := rates }
          counters := { b.counters with samples := counts } } := by
  rw [failures_result]
  cases c with
  | status =>
    cases h : statusHolds r with
    | true => exact ⟨0, by simp, _, _, by rw [samples, h]; rfl⟩
    | false => exact ⟨1, by simp [holds, failure?, h], _, _, by rw [samples, h]; rfl⟩
  | media =>
    cases h : contentTypeHolds r <;> cases h' : bodyHolds r
    · exact ⟨2, by simp [holds, failure?, h, h'], _, _, by rw [samples, h, h']; rfl⟩
    · exact ⟨1, by simp [holds, failure?, h, h'], _, _, by rw [samples, h, h']; rfl⟩
    · exact ⟨1, by simp [holds, failure?, h, h'], _, _, by rw [samples, h, h']; rfl⟩
    · exact ⟨0, by simp, _, _, by rw [samples, h, h']; rfl⟩
  | typeIn allowed =>
    cases h : typeHolds allowed r with
    | true => exact ⟨0, by simp, _, _, by rw [samples, h]; rfl⟩
    | false => exact ⟨1, by simp [holds, failure?, h], _, _, by rw [samples, h]; rfl⟩
  | body => exact ⟨0, by simp, _, _, rfl⟩
  | property name expected => exact ⟨0, by simp, _, _, rfl⟩

end Check

/-- The number of pages under some collections. -/
def pagesIn : List CollectionReport → Nat
  | [] => 0
  | c :: rest => c.pages.length + pagesIn rest

/-! ## Growth -/

namespace Trail

/-- From `t` to `t'` these addresses were requested, checks gave these results, `pages` pages were
fetched and `samples` samples were taken. A failed check has at most two failed samples, and a check
that passes has none. -/
structure Grows (t t' : Trail) (urls : List String) (results : List Check.Result)
    (pages samples : Nat) : Prop where
  requested : t'.requested = t.requested ++ urls
  requests : t'.book.counters.requests = t.book.counters.requests + urls.length
  statuses : Keyed.sum t'.book.counters.statuses =
    Keyed.sum t.book.counters.statuses + urls.length
  latencies : t'.book.tally.latencies.count = t.book.tally.latencies.count + urls.length
  tallied : t'.book.tally.pages = t.book.tally.pages + pages
  exposed : t'.book.counters.pages = t.book.counters.pages + pages
  checks : t'.book.tally.checks.total = t.book.tally.checks.total + results.length
  failed : t'.book.tally.checks.failed = t.book.tally.checks.failed + Check.failures results
  samples : t'.book.tally.samples.total = t.book.tally.samples.total + samples
  spared : t.book.tally.samples.failed ≤ t'.book.tally.samples.failed
  defects : t'.book.tally.samples.failed ≤
    t.book.tally.samples.failed + 2 * Check.failures results

namespace Grows

variable {t t' t'' : Trail} {urls vs : List String} {rs ss : List Check.Result} {m n k l : Nat}

theorem refl (t : Trail) : t.Grows t [] [] 0 0 := by
  constructor <;> simp

theorem trans (h : t.Grows t' urls rs m k) (h' : t'.Grows t'' vs ss n l) :
    t.Grows t'' (urls ++ vs) (rs ++ ss) (m + n) (k + l) where
  requested := by rw [h'.requested, h.requested, List.append_assoc]
  requests := by rw [h'.requests, h.requests, List.length_append, Nat.add_assoc]
  statuses := by rw [h'.statuses, h.statuses, List.length_append, Nat.add_assoc]
  latencies := by rw [h'.latencies, h.latencies, List.length_append, Nat.add_assoc]
  tallied := by rw [h'.tallied, h.tallied, Nat.add_assoc]
  exposed := by rw [h'.exposed, h.exposed, Nat.add_assoc]
  checks := by rw [h'.checks, h.checks, List.length_append, Nat.add_assoc]
  failed := by rw [h'.failed, h.failed, Check.failures_append, Nat.add_assoc]
  samples := by rw [h'.samples, h.samples, Nat.add_assoc]
  spared := Nat.le_trans h.spared h'.spared
  defects := by
    have h₁ := h.defects
    have h₂ := h'.defects
    rw [Check.failures_append]
    omega

end Grows

/-! ## The steps of a walk -/

theorem grows_fetch (t : Trail) (web : Web) (url : String) :
    t.Grows (t.fetch web url).2 [url] [] 0 0 := by
  unfold fetch
  cases web t.requested url with
  | lost cause message took =>
    constructor <;> simp [Reply.events, Book.recordAll, Book.record, Tally.record, Counters.record]
  | complete status contentType body took =>
    constructor <;> simp [Reply.events, Book.recordAll, Book.record, Tally.record, Counters.record]
  | broken status contentType cause message took =>
    constructor <;> simp [Reply.events, Book.recordAll, Book.record, Tally.record, Counters.record]

theorem grows_page (t : Trail) : t.Grows (t.record .page) [] [] 1 0 := by
  constructor <;> simp [record, Book.record, Tally.record, Counters.record]

theorem grows_checked (t : Trail) (c : Check) (r : Response) :
    t.Grows { t with book := t.book.recordAll (c.events r) } [] [c.result r] 0 c.sampleCount := by
  obtain ⟨n, hn, rates, counts, hbook⟩ := c.recordAll_samples r t.book
  rw [Check.failures_result] at hn
  rw [Check.events, Book.recordAll_append, hbook]
  cases hholds : c.holds r <;> constructor <;>
    simp [Book.recordAll, Book.record, Tally.record, Counters.record, Rate.add,
      Check.failures_result, hholds] at hn ⊢ <;> omega

theorem grows_check (t : Trail) (checks : List Check) (r : Response) :
    t.Grows (t.check checks r).2 [] (Check.results checks r) 0
      (Check.samplesOf checks) := by
  induction checks generalizing t with
  | nil => exact .refl t
  | cons c rest ih =>
    have hrest := (t.grows_checked c r).trans (ih { t with book := t.book.recordAll (c.events r) })
    simp only [check, Check.run, ← Book.recordAll_append, ← List.flatMap_cons] at hrest
    exact hrest

/-- A visit is one request and one run of checks. -/
theorem grows_visit {t t' : Trail} {web : Web} {url : String} {checks : List Check}
    {response : Response} {results : List Check.Result}
    (h : t.visit web url checks = (response, results, t')) :
    t.Grows t' [url] results 0 (Check.samplesOf checks) ∧
      results.length = checks.length := by
  have hvisit := (t.grows_fetch web url).trans
    ((t.fetch web url).2.grows_check checks (t.fetch web url).1)
  simp only [visit, check, Check.run, Prod.mk.injEq] at h
  obtain ⟨-, rfl, rfl⟩ := h
  simp only [List.append_nil, List.nil_append, Nat.zero_add] at hvisit
  exact ⟨hvisit, List.length_map _⟩

/-! ## Pages, collections, actors -/

/-- Each page is one request, three checks and four samples. -/
theorem grows_pagesFrom (t : Trail) (web : Web) (c : Cursor) (object : Json) :
    t.Grows (t.pagesFrom web c object).2 ((t.pagesFrom web c object).1.map PageReport.url)
        ((t.pagesFrom web c object).1.flatMap PageReport.results)
        (t.pagesFrom web c object).1.length (4 * (t.pagesFrom web c object).1.length) ∧
      ((t.pagesFrom web c object).1.flatMap PageReport.results).length =
        3 * (t.pagesFrom web c object).1.length := by
  fun_induction pagesFrom t web c object with
  | case1 t c object c' h => exact ⟨.refl t, rfl⟩
  | case2 t c object u c' h response results t₁ hv t₂ rest t₃ hr ih =>
    rw [hr] at ih
    obtain ⟨hvisit, hresults⟩ := grows_visit hv
    obtain ⟨hrest, hlength⟩ := ih
    have hall := (hvisit.trans t₁.grows_page).trans hrest
    rw [Check.samplesOf_ofPage] at hall
    constructor
    · simpa [Nat.mul_add, Nat.add_comm] using hall
    · rw [List.flatMap_cons, List.length_append, hlength, hresults, List.length_cons]
      simp only [Check.ofPage, Check.basic, List.length_append, List.length_cons, List.length_nil]
      omega

/-- A collection and each of its pages are one request, three checks and four samples. -/
theorem grows_collection {t t' : Trail} {web : Web} {maxPages : Nat} {url : String}
    {r : CollectionReport} (h : t.collection web maxPages url = (r, t')) :
    t.Grows t' r.urls r.allResults r.pages.length (4 * (1 + r.pages.length)) ∧
      r.allResults.length = 3 * (1 + r.pages.length) := by
  unfold collection at h
  generalize hv : t.visit web url Check.ofCollection = visited at h
  obtain ⟨response, results, t₁⟩ := visited
  dsimp only at h
  generalize hp : t₁.pages web maxPages url response.json = paged at h
  obtain ⟨pages, t₂⟩ := paged
  simp only [Prod.mk.injEq] at h
  obtain ⟨rfl, rfl⟩ := h
  obtain ⟨hvisit, hresults⟩ := grows_visit hv
  have hpaged := t₁.grows_pagesFrom web (.start url response.json maxPages) response.json
  rw [show t₁.pagesFrom web _ _ = (pages, t₂) from hp] at hpaged
  obtain ⟨hpages, hlength⟩ := hpaged
  have hall := hvisit.trans hpages
  rw [Check.samplesOf_ofCollection] at hall
  constructor
  · simpa [CollectionReport.urls, CollectionReport.allResults, Nat.mul_add] using hall
  · rw [CollectionReport.allResults, List.length_append, hresults, hlength, Nat.mul_add]
    rfl

theorem grows_collections (t : Trail) (web : Web) (maxPages : Nat) (urls : List String) :
    let r := t.collections web maxPages urls
    t.Grows r.2 (r.1.flatMap CollectionReport.urls) (r.1.flatMap CollectionReport.allResults)
        (pagesIn r.1) (4 * (r.1.length + pagesIn r.1)) ∧
      (r.1.flatMap CollectionReport.allResults).length = 3 * (r.1.length + pagesIn r.1) := by
  induction urls generalizing t with
  | nil => exact ⟨.refl t, rfl⟩
  | cons url rest ih =>
    unfold collections
    generalize hc : t.collection web maxPages url = visited
    obtain ⟨report, t₁⟩ := visited
    obtain ⟨hone, hresults⟩ := grows_collection hc
    obtain ⟨hrest, hlength⟩ := ih t₁
    have hall := hone.trans hrest
    have hpages : ∀ rs, pagesIn (report :: rs) = report.pages.length + pagesIn rs := fun _ => rfl
    simp only [List.flatMap_cons, List.length_append, List.length_cons, hpages, hresults, hlength]
    refine ⟨?_, by omega⟩
    rw [← Nat.mul_add, Nat.add_add_add_comm, Nat.add_comm 1] at hall
    exact hall

end Trail

/-! ## Reports -/

namespace ActorReport

theorem length_urls (collections : List CollectionReport) :
    (collections.flatMap CollectionReport.urls).length =
      collections.length + pagesIn collections := by
  induction collections with
  | nil => rfl
  | cons c rest ih =>
    simp only [List.flatMap_cons, List.length_append, ih, CollectionReport.urls, pagesIn,
      List.length_cons, List.length_map]
    omega

theorem requests_eq (r : ActorReport) :
    r.requests = 1 + r.collections.length + pagesIn r.collections := by
  unfold requests
  rw [Nat.add_assoc]
  congr 1
  induction r.collections with
  | nil => rfl
  | cons c rest ih =>
    simp only [List.map_cons, List.foldr_cons, ih, List.length_cons, pagesIn]
    omega

theorem allPassed_iff (r : ActorReport) : r.allPassed ↔ Check.failures r.allResults = 0 := by
  rw [Check.failures_eq_zero]
  simp [allPassed, allResults, CollectionReport.allResults, List.all_append, List.all_flatMap]

end ActorReport

/-- The account of the walk of an actor that led from `t` to `t'`, by its report. -/
structure Accounts (t t' : Trail) (a : Actor) (r : ActorReport) : Prop where
  requested : t'.requested = t.requested ++ r.urls
  listed : r.requests = r.urls.length
  reported : r.requests = 1 + r.collections.length + pagesIn r.collections
  latencies : t'.book.tally.latencies.count = t.book.tally.latencies.count + r.requests
  requests : t'.book.counters.requests = t.book.counters.requests + r.requests
  statuses : Keyed.sum t'.book.counters.statuses = Keyed.sum t.book.counters.statuses + r.requests
  tallied : t'.book.tally.pages = t.book.tally.pages + pagesIn r.collections
  exposed : t'.book.counters.pages = t.book.counters.pages + pagesIn r.collections
  checks : t'.book.tally.checks.total = t.book.tally.checks.total +
    (a.checks.length + 3 * (r.collections.length + pagesIn r.collections))
  failed : t'.book.tally.checks.failed =
    t.book.tally.checks.failed + Check.failures r.allResults
  samples : t'.book.tally.samples.total = t.book.tally.samples.total +
    (3 + 4 * (r.collections.length + pagesIn r.collections))
  passed : r.allPassed ↔ t'.book.tally.checks.failed = t.book.tally.checks.failed
  spared : r.allPassed → t'.book.tally.samples.failed = t.book.tally.samples.failed

theorem Trail.Grows.accounts {t t' : Trail} {a : Actor} {r : ActorReport}
    (h : t.Grows t' r.urls r.allResults (pagesIn r.collections)
      (3 + 4 * (r.collections.length + pagesIn r.collections)))
    (hresults : r.allResults.length =
      a.checks.length + 3 * (r.collections.length + pagesIn r.collections)) :
    Accounts t t' a r := by
  have hurls : r.requests = r.urls.length := by
    rw [r.requests_eq, ActorReport.urls, List.length_cons, ActorReport.length_urls]
    omega
  have hpassed := r.allPassed_iff
  have hfailed := h.failed
  refine ⟨h.requested, hurls, r.requests_eq, hurls ▸ h.latencies, hurls ▸ h.requests,
    hurls ▸ h.statuses, h.tallied, h.exposed, hresults ▸ h.checks, hfailed, h.samples, ?_, ?_⟩
  · rw [hpassed]
    omega
  · intro hall
    have hnone := hpassed.1 hall
    have hspared := h.spared
    have hdefects := h.defects
    omega

theorem Check.samplesOf_properties (expected : List (String × Json)) :
    samplesOf (expected.map fun (name, value) => .property name value) = 0 := by
  induction expected with
  | nil => rfl
  | cons p rest ih => simpa [samplesOf, sampleCount] using ih

/-- What an actor is expected to be is looked at without samples. -/
theorem Actor.samplesOf_checks (a : Actor) : Check.samplesOf a.checks = 3 := by
  rw [checks, Check.samplesOf_append, Check.samplesOf_properties]
  rfl

/-- The request log, the report, the tally and the counters of a walk account for each other,
however the web answers. An actor without an id leaves no trace. -/
theorem Trail.actor_accounts (t : Trail) (web : Web) (maxPages : Nat) (a : Actor) :
    match a.id with
    | none => t.actor web maxPages a = (none, t)
    | some id => ∃ r t', t.actor web maxPages a = (some r, t') ∧ r.id = id ∧ Accounts t t' a r := by
  unfold actor
  cases a.id with
  | none => rfl
  | some id =>
    dsimp only
    generalize hv : t.visit web id a.checks = visited
    obtain ⟨response, results, t₁⟩ := visited
    obtain ⟨hvisit, hresults⟩ := grows_visit hv
    obtain ⟨hrest, hlength⟩ := t₁.grows_collections web maxPages (collectionsOf response.json)
    have hall := hvisit.trans hrest
    rw [a.samplesOf_checks, Nat.zero_add] at hall
    refine ⟨_, _, rfl, rfl, hall.accounts ?_⟩
    rw [ActorReport.allResults, List.length_append, hresults, hlength]

end FedLoad
