import FedLoad.Walk.Link
/-!
# Paging through a collection

A cursor follows the links `first` and `next` from object to object. It knows where it has been:
the address of the collection and of every page fetched, and the ids that they carry. A link to a
place where it has been, or one beyond the largest number of pages, ends the paging.

The first link of the collection is pending until the cursor is asked for the first time; a link
onward in the object that it is asked with goes before it. Nothing stays pending after a question.
-/
namespace FedLoad

structure Cursor where
  /-- The address of the object fetched last. -/
  current : String
  /-- The link that is followed if the object asked with has none. -/
  pending : Option String
  /-- The number of pages fetched. -/
  index : Nat
  /-- Addresses and ids met so far. -/
  visited : List String
  maxPages : Nat
deriving DecidableEq, Repr

namespace Cursor

/-- The places that an object fetched from `url` marks as visited. -/
def marks (url : String) (object : Json) : List String := url :: (ownId object).toList

/-- Before a collection that was fetched from `url`. -/
def start (url : String) (collection : Json) (maxPages : Nat) : Cursor where
  current := url
  pending := outwardLink collection "first"
  index := 0
  visited := marks url collection
  maxPages := maxPages

/-- The link to consider next, given the present object. -/
def candidate (c : Cursor) (object : Json) : Option String :=
  outwardLink object "next" <|> c.pending

/-- May this address be fetched? -/
def admits (c : Cursor) (target : String) : Bool :=
  !c.visited.contains target && c.index < c.maxPages

/-- The page to fetch next given the present object, if there is one. -/
def next (c : Cursor) (object : Json) : Option String × Cursor :=
  ((c.candidate object).filter c.admits, { c with pending := none })

/-- After `page` was fetched from `url`. -/
def fetched (c : Cursor) (url : String) (page : Json) : Cursor :=
  { c with
    current := url
    index := c.index + 1
    visited := marks url page ++ c.visited }

/-- A page that is fetched next lies below the largest number. -/
theorem index_lt_of_next {c c' : Cursor} {object : Json} {target : String}
    (h : c.next object = (some target, c')) : c.index < c.maxPages ∧
      c' = { c with pending := none } := by
  simp only [next, Prod.mk.injEq] at h
  obtain ⟨h, rfl⟩ := h
  have := (Option.filter_eq_some_iff.1 h).2
  simp only [admits, Bool.and_eq_true, decide_eq_true_eq] at this
  exact ⟨this.2, rfl⟩

end Cursor

end FedLoad
