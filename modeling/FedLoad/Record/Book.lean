import FedLoad.Record.Counters
import FedLoad.Record.Tally
/-!
# The book of a run

Every event is entered once, in one place, and reaches both the tally and the counters from there.
-/
namespace FedLoad

structure Book where
  tally : Tally
  counters : Counters
deriving DecidableEq, Repr

namespace Book

def empty : Book := ⟨.empty, .empty⟩

/-- Enters one event. -/
def record (b : Book) (e : Event) : Book := ⟨b.tally.record e, b.counters.record e⟩

/-- Enters events in order. -/
def recordAll (b : Book) (events : List Event) : Book := events.foldl record b

theorem recordAll_append (b : Book) (xs ys : List Event) :
    b.recordAll (xs ++ ys) = (b.recordAll xs).recordAll ys := List.foldl_append

theorem tally_recordAll (b : Book) (events : List Event) :
    (b.recordAll events).tally = b.tally.recordAll events := by
  induction events generalizing b with
  | nil => rfl
  | cons e rest ih => exact ih (b.record e)

theorem counters_recordAll (b : Book) (events : List Event) :
    (b.recordAll events).counters = b.counters.recordAll events := by
  induction events generalizing b with
  | nil => rfl
  | cons e rest ih => exact ih (b.record e)

end Book

end FedLoad
