import FedLoad.Proofs.Walk.Route
/-!
# What a cursor answers to any caller

Paging asks a cursor and then reports the page that it was sent to, in turns. Others may call it in
any order: ask twice, report a page that was never offered, go on after the end. Whatever the order,
what a cursor shows is a function of the calls before: the pages reported and whether it was asked
already. The link `first` waits for the first question only, and nothing else waits for anything.

`Recalls` is the invariant between a cursor and its history, one call keeps it (`recalls_call`), and
so does every sequence of calls. Main statement: `after_start`.
-/
namespace FedLoad.Cursor

/-! ## Calls -/

inductive Call where
  /-- The question for the next page, given the present object. -/
  | next (object : Json)
  /-- The report of a page that was fetched. -/
  | fetched (url : String) (page : Json)

def Call.isQuestion : Call → Bool
  | .next _ => true
  | .fetched .. => false

/-- The page that a call reports, with the address it was fetched from. -/
def Call.page? : Call → Option (String × Json)
  | .next _ => none
  | .fetched url page => some (url, page)

/-- After one call. -/
def call (c : Cursor) : Call → Cursor
  | .next object => (c.next object).2
  | .fetched url page => c.fetched url page

/-- After calls in order. -/
def after (c : Cursor) (calls : List Call) : Cursor := calls.foldl call c

/-! ## History -/

/-- The pages that were reported, the oldest first. -/
def reported (past : List Call) : List (String × Json) := past.filterMap Call.page?

/-- Was a question asked? -/
def asked (past : List Call) : Bool := past.any Call.isQuestion

/-- The link that a question with `object` is about: onward from the object, or else, for the very
first question, the first link of the collection. -/
def due (collection : Json) (past : List Call) (object : Json) : Option String :=
  match onward object with
  | some u => some u
  | none => if asked past then none else outwardLink collection "first"

/-- The places known by now: the address and id of the collection and of every page reported. -/
def Met (url : String) (collection : Json) (past : List Call) (u : String) : Prop :=
  u = url ∨ ownId collection = some u ∨ ∃ p ∈ reported past, u = p.1 ∨ ownId p.2 = some u

/-- A cursor that started at this collection and of which these calls are all. -/
structure Recalls (url : String) (collection : Json) (maxPages : Nat) (past : List Call)
    (c : Cursor) : Prop where
  current : c.current = ((reported past).getLast?.map Prod.fst).getD url
  pending : c.pending = if asked past then none else outwardLink collection "first"
  index : c.index = (reported past).length
  visited : ∀ u, u ∈ c.visited ↔ Met url collection past u
  maxPages : c.maxPages = maxPages

variable {url : String} {collection : Json} {maxPages : Nat} {past : List Call} {c : Cursor}

theorem met_next (object : Json) (u : String) :
    Met url collection (past ++ [.next object]) u ↔ Met url collection past u := by
  simp [Met, reported, Call.page?]

theorem met_fetched (v : String) (page : Json) (u : String) :
    Met url collection (past ++ [.fetched v page]) u ↔
      u ∈ marks v page ∨ Met url collection past u := by
  have hreported : reported (past ++ [.fetched v page]) = reported past ++ [(v, page)] := by
    simp [reported, Call.page?]
  simp only [Met, hreported, mem_marks, List.mem_append, List.mem_singleton, or_and_right,
    exists_or, exists_eq_left]
  grind

theorem recalls_start (url : String) (collection : Json) (maxPages : Nat) :
    Recalls url collection maxPages [] (start url collection maxPages) where
  current := rfl
  pending := rfl
  index := rfl
  visited u := by simp [start, mem_marks, Met, reported]
  maxPages := rfl

/-- A question uses up what was pending and changes nothing else; a report says where we are, counts
and marks two places, and leaves what is pending alone. -/
theorem recalls_call (h : Recalls url collection maxPages past c) (k : Call) :
    Recalls url collection maxPages (past ++ [k]) (c.call k) := by
  cases k with
  | next object =>
    have hreported : reported (past ++ [.next object]) = reported past := by
      simp [reported, Call.page?]
    have hasked : asked (past ++ [.next object]) = true := by simp [asked, Call.isQuestion]
    constructor
    case current => rw [hreported]; exact h.current
    case pending => rw [hasked]; rfl
    case index => rw [hreported]; exact h.index
    case visited => exact fun u => (h.visited u).trans (met_next object u).symm
    case maxPages => exact h.maxPages
  | fetched v page =>
    have hreported : reported (past ++ [.fetched v page]) = reported past ++ [(v, page)] := by
      simp [reported, Call.page?]
    have hasked : asked (past ++ [.fetched v page]) = asked past := by
      simp [asked, Call.isQuestion]
    constructor
    case current => rw [hreported, List.getLast?_concat]; rfl
    case pending => rw [hasked]; exact h.pending
    case index => rw [hreported, List.length_append, List.length_singleton, ← h.index]; rfl
    case visited =>
      intro u
      rw [met_fetched, ← h.visited u]
      exact List.mem_append
    case maxPages => exact h.maxPages

theorem recalls_after (h : Recalls url collection maxPages past c) (calls : List Call) :
    Recalls url collection maxPages (past ++ calls) (c.after calls) := by
  induction calls generalizing past c with
  | nil => rwa [List.append_nil]
  | cons k rest ih =>
    have hrest := ih (recalls_call h k)
    rwa [List.append_assoc, List.singleton_append] at hrest

/-! ## Answers -/

theorem candidate_eq_due (h : Recalls url collection maxPages past c) (object : Json) :
    c.candidate object = due collection past object := by
  rw [candidate, due, h.pending, onward]
  cases outwardLink object "next" <;> rfl

/-- The link that is due is the answer, unless it leads to a known place or there is no room. -/
theorem next_eq_some_iff (h : Recalls url collection maxPages past c) (object : Json) (u : String) :
    (c.next object).1 = some u ↔ due collection past object = some u ∧
      ¬ Met url collection past u ∧ (reported past).length < maxPages := by
  have hadmits : c.admits u = true ↔
      ¬ Met url collection past u ∧ (reported past).length < maxPages := by
    rw [← h.visited u, ← h.index, ← h.maxPages]
    simp [admits]
  rw [next, Option.filter_eq_some_iff, candidate_eq_due h, hadmits]

/-- After any calls in any order, a cursor shows the number of pages reported and the address of the
last of them, and it answers the next question with the link that is due, unless that leads to a
known place or all pages have been fetched. -/
theorem after_start (url : String) (collection : Json) (maxPages : Nat) (past : List Call) :
    let c := (start url collection maxPages).after past
    c.index = (reported past).length ∧
    c.current = ((reported past).getLast?.map Prod.fst).getD url ∧
    ∀ object u, (c.next object).1 = some u ↔ due collection past object = some u ∧
      ¬ Met url collection past u ∧ (reported past).length < maxPages := by
  intro c
  have hpast : Recalls url collection maxPages past c :=
    recalls_after (recalls_start url collection maxPages) past
  exact ⟨hpast.index, hpast.current, next_eq_some_iff hpast⟩

end FedLoad.Cursor
