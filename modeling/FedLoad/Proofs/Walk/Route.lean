import FedLoad.Walk.Basic
/-!
# Routes

A route is a list of addresses that paging may go along: each is the link onward from what was met
before, none is a place met before, and there are no more of them than there is room for. What a web
sends may depend on all that was requested, so a route is always one after certain requests.

Main statements: `Route.fresh` says in positions that nothing on a route is met twice, and on a
site, which always answers alike, `Site.route_iff` says which prefixes of the chain of links are
routes.
-/
namespace FedLoad

/-- The value that comes back for `url` after the requests `past`. -/
def Web.value (web : Web) (past : List String) (url : String) : Json :=
  (Response.ofReply url (web past url)).json

/-- The link onward from a page. -/
def onward (page : Json) : Option String := outwardLink page "next"

/-- The addresses that paging may go along after the requests `past`, if the places `met` are known,
`link` is the link onward and `room` pages may still be fetched. -/
inductive Route (web : Web) :
    (past met : List String) → (link : Option String) → (room : Nat) → List String → Prop
  | halt {past met : List String} {link : Option String} {room : Nat} :
    Route web past met link room []
  | go {past met us : List String} {u : String} {room : Nat} (unmet : u ∉ met)
    (rest : Route web (past ++ [u]) (Cursor.marks u (web.value past u) ++ met)
      (onward (web.value past u)) room us) :
    Route web past met (some u) (room + 1) (u :: us)

theorem Cursor.mem_marks {url u : String} {object : Json} :
    u ∈ marks url object ↔ u = url ∨ ownId object = some u := by
  simp [marks, Option.mem_toList]

/-! ## Links are no empty texts -/

theorem linkOf_ne_empty {value : Json} {u : String} (h : linkOf value = some u) : u ≠ "" := by
  unfold linkOf at h
  split at h
  · split at h <;> simp_all
  · split at h
    · split at h <;> simp_all
    · simp at h
  · simp at h

theorem outwardLink_ne_empty {object : Json} {key u : String}
    (h : outwardLink object key = some u) : u ≠ "" := by
  obtain ⟨hl, -⟩ := Option.filter_eq_some_iff.1 h
  obtain ⟨value, -, hv⟩ := Option.bind_eq_some_iff.1 hl
  exact linkOf_ne_empty hv

/-! ## What is on a route -/

namespace Route

variable {web : Web} {past met us vs : List String} {link : Option String} {room : Nat}

theorem length_le (h : Route web past met link room us) : us.length ≤ room := by
  induction h with
  | halt => exact Nat.zero_le _
  | go _ _ ih => simpa using ih

theorem ne_empty (h : Route web past met link room us) (hlink : ∀ u, link = some u → u ≠ "") :
    ∀ u ∈ us, u ≠ "" := by
  induction h with
  | halt => simp
  | go _ _ ih =>
    intro v hv
    rcases List.mem_cons.1 hv with rfl | hv
    · exact hlink v rfl
    · exact ih (fun w hw => outwardLink_ne_empty hw) v hv

/-- No address on a route is a place known before, nor the address or the id of a page that was
fetched earlier on the route. -/
theorem fresh (h : Route web past met link room us) (k : Nat) (hk : k < us.length) :
    us[k] ∉ met ∧ ∀ j (hj : j < k),
      us[k] ∉ Cursor.marks us[j] (web.value (past ++ us.take j) us[j]) := by
  induction h generalizing k with
  | halt => simp at hk
  | @go past met us u room unmet _ ih =>
    cases k with
    | zero => exact ⟨unmet, fun j hj => absurd hj (Nat.not_lt_zero j)⟩
    | succ k =>
      obtain ⟨hmet, hearlier⟩ := ih k (by simpa using hk)
      simp only [List.mem_append, not_or] at hmet
      refine ⟨hmet.2, fun j hj => ?_⟩
      cases j with
      | zero => simpa using hmet.1
      | succ j => simpa using hearlier j (by omega)

theorem nodup (h : Route web past met link room us) : us.Nodup := by
  refine List.pairwise_iff_getElem.2 fun j k hj hk hjk heq => ?_
  exact (h.fresh k hk).2 j hjk (Cursor.mem_marks.2 (.inl heq.symm))

end Route

/-! ## Sites -/

/-- What answers every request for an address alike. -/
abbrev Site := String → Reply

namespace Site

/-- A site as a web. -/
def web (site : Site) : Web := fun _ url => site url

/-- The value at an address. -/
def page (site : Site) (url : String) : Json := (Response.ofReply url (site url)).json

@[simp] theorem value_web (site : Site) (past : List String) (url : String) :
    site.web.value past url = site.page url := rfl

/-- Follows the links onward from a link, `k` times. -/
def ahead (site : Site) (link : Option String) : Nat → Option String
  | 0 => link
  | k + 1 => (site.ahead link k).bind fun u => onward (site.page u)

theorem ahead_some_succ (site : Site) (u : String) (k : Nat) :
    site.ahead (some u) (k + 1) = site.ahead (onward (site.page u)) k := by
  induction k with
  | zero => rfl
  | succ k ih => rw [ahead, ih, ahead]

/-- On a site the routes are the prefixes of the chain of links on which no place is met twice. -/
theorem route_iff {site : Site} {past met us : List String} {link : Option String} {room : Nat} :
    Route site.web past met link room us ↔
      us.length ≤ room ∧ ∀ k (hk : k < us.length), site.ahead link k = some us[k] ∧ us[k] ∉ met ∧
        ∀ j (hj : j < k), us[k] ∉ Cursor.marks us[j] (site.page us[j]) := by
  constructor
  · intro h
    refine ⟨h.length_le, fun k hk => ⟨?_, (h.fresh k hk).1, (h.fresh k hk).2⟩⟩
    induction h generalizing k with
    | halt => simp at hk
    | @go past met us u room _ _ ih =>
      cases k with
      | zero => rfl
      | succ k => rw [ahead_some_succ]; simpa using ih k (by simpa using hk)
  · rintro ⟨hlen, hall⟩
    induction us generalizing past met link room with
    | nil => exact .halt
    | cons u us ih =>
      obtain ⟨hlink, hmet, -⟩ := hall 0 (by simp)
      obtain ⟨room, rfl⟩ : ∃ n, room = n + 1 := ⟨room - 1, by simp at hlen; omega⟩
      simp only [ahead, List.getElem_cons_zero] at hlink hmet
      subst hlink
      refine .go hmet (ih (by simpa using hlen) fun k hk => ?_)
      obtain ⟨hk1, hk2, hk3⟩ := hall (k + 1) (by simpa using hk)
      rw [ahead_some_succ] at hk1
      simp only [List.getElem_cons_succ] at hk1 hk2 hk3
      refine ⟨hk1, ?_, fun j hj => by simpa using hk3 (j + 1) (by omega)⟩
      rw [List.mem_append, not_or]
      exact ⟨by simpa using hk3 0 (by omega), hk2⟩

end Site

end FedLoad
