import FedLoad.Plan.Fault
/-!
# Findings of a review

A review goes through the fields of a plan and notes every fault that it finds. A fault found while
the review is inside a field carries the path to it: the names of the fields around it, separated by
points. Going through a field leaves the path as it was, whatever is found on the way.
-/
namespace FedLoad

structure Findings where
  /-- The fields around the place of the review, the innermost first. -/
  around : List String
  /-- What was found, the first first. -/
  faults : List Fault
deriving DecidableEq, Repr

namespace Findings

def none : Findings := ⟨[], []⟩

/-- Goes into a field. -/
def enter (f : Findings) (field : String) : Findings := { f with around := field :: f.around }

/-- Goes out of the innermost field, if there is one. -/
def leave (f : Findings) : Findings := { f with around := f.around.tail }

def path (f : Findings) : String := ".".intercalate f.around.reverse

def add (f : Findings) (fault : Fault) : Findings := { f with faults := f.faults ++ [fault] }

/-- Notes a fault of the field at the present path. -/
def note (f : Findings) (message : String) : Findings := f.add (.general f.path message)

/-- Reviews a field. -/
def within (f : Findings) (field : String) (review : Findings → Findings) : Findings :=
  (review (f.enter field)).leave

/-- Notes what there is to say against a field, if there is anything. -/
def object (f : Findings) (field : String) (objection : Option String) : Findings :=
  f.within field fun f =>
    match objection with
    | .none => f
    | some message => f.note message

/-- Notes that a field is wrong, if it is. -/
def check (f : Findings) (field : String) (fault : Option Fault) : Findings :=
  f.object field (fault.map Fault.message)

def isClean (f : Findings) : Bool := f.faults.isEmpty

/-- All faults in one line. -/
def message (f : Findings) : String :=
  "Multiple validation errors: " ++ "; ".intercalate (f.faults.map Fault.message)

/-! ## Laws -/

/-- A review that leaves the path alone leaves it alone inside a field too. -/
theorem around_within {f : Findings} {field : String} {review : Findings → Findings}
    (h : ∀ g : Findings, (review g).around = g.around) :
    (f.within field review).around = f.around := by
  simp [within, leave, h, enter]

theorem around_object (f : Findings) (field : String) (objection : Option String) :
    (f.object field objection).around = f.around :=
  around_within fun g => by cases objection <;> rfl

end Findings

end FedLoad
