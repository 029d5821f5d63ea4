import FedLoad.Load.Model
/-!
# Iterations due

Between two looks at the clock as many iterations come due as the model asks for in that time, at
the rate it has halfway. What is left over of an iteration is carried to the next look. The clock is
looked at again after the time that one iteration takes at the present rate, though not sooner than
a millisecond and not later than a tenth of a second.
-/
namespace FedLoad

/-- The part of an iteration that is not due yet. -/
structure Budget (α : Type) where
  pending : α
deriving DecidableEq, Repr

namespace Budget

variable {α : Type} [Scalar α]

def start : Budget α := ⟨Scalar.ofNat 0⟩

/-- Is this a rate at which something comes due? -/
def flows (perSecond : α) : Bool :=
  Scalar.isFinite perSecond && Scalar.lt (Scalar.ofNat 0) perSecond

/-- The time between two looks; none if the clock went back. -/
def between (earlier later : α) : α :=
  let gap := later - earlier
  if Scalar.lt gap (Scalar.ofNat 0) then Scalar.ofNat 0 else gap

/-- What a model asks for between two looks at the clock. -/
def amount (m : LoadModel α) (earlier later : α) : α :=
  let gap := between earlier later
  let rate := m.perSecond (earlier + gap / Scalar.ofNat 2)
  if flows rate then rate * gap else Scalar.ofNat 0

/-- The iterations due between two looks, and what is carried over. -/
def advance (b : Budget α) (m : LoadModel α) (earlier later : α) : Nat × Budget α :=
  let gap := between earlier later
  let rate := m.perSecond (earlier + gap / Scalar.ofNat 2)
  let pending := if flows rate then b.pending + rate * gap else b.pending
  let due := Scalar.floor pending
  (due, ⟨pending - Scalar.ofNat due⟩)

end Budget

namespace Tick

def shortest : Span := .ofMillis 1

def longest : Span := .ofMillis 100

/-- The time until the next look at the clock. -/
def after (m : LoadModel Float) (time : Float) : Except Span.Fault Span :=
  let rate := m.perSecond time
  if Budget.flows rate then
    match Span.ofFloatSeconds (1.0 / rate) with
    | .ok s => .ok (s.clamp shortest longest)
    | .error fault => .error fault
  else .ok longest

end Tick

end FedLoad
