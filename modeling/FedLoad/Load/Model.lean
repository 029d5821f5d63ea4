import FedLoad.Load.Stage
/-!
# Load models

A load model says how many iterations should be started per unit of time, as a function of the time
since the start. The rate is constant for a span of time, or it moves along a straight line from
stage to stage: within a stage from the target of the stage before it to its own target. A stage
includes its beginning and not its end, so that a stage without length is a jump, and after the last
stage its target stays.
-/
namespace FedLoad

/-- A schedule of iterations per unit of time. -/
inductive LoadModel (α : Type) where
  | constant (rate : α) (timeUnit duration : Span)
  | ramping (startRate : α) (timeUnit : Span) (stages : List (Stage α))
deriving DecidableEq, Repr

namespace LoadModel

variable {α : Type} [Scalar α]

def timeUnit : LoadModel α → Span
  | .constant _ timeUnit _ | .ramping _ timeUnit _ => timeUnit

/-- The lengths of the parts of a model. -/
def durations : LoadModel α → List Span
  | .constant _ _ duration => [duration]
  | .ramping _ _ stages => stages.map Stage.duration

/-- The length of a model, unless it is too long. -/
def total : LoadModel α → Except Span.Fault Span
  | .constant _ _ duration => .ok duration
  | .ramping _ _ stages => Span.total (stages.map Stage.duration)

/-- The rate on the line from one rate to another, `elapsed` after its beginning. -/
def interpolate (fromRate toRate elapsed duration : α) : α :=
  if Scalar.le duration (Scalar.ofNat 0) then toRate
  else fromRate + (toRate - fromRate) * (elapsed / duration)

/-- The rate at `time` on stages that begin at `start` with the rate `fromRate`. -/
def rampFrom (fromRate start time : α) : List (Stage α) → α
  | [] => fromRate
  | stage :: rest =>
    let length := stage.duration.seconds
    if Scalar.lt time (start + length) then
      interpolate fromRate stage.target (time - start) length
    else rampFrom stage.target (start + length) time rest

/-- Iterations per unit of time, `time` seconds after the start. -/
def rateAt (m : LoadModel α) (time : α) : α :=
  match m with
  | .constant rate _ _ => rate
  | .ramping startRate _ stages => rampFrom startRate (Scalar.ofNat 0) time stages

/-- Iterations per second; none in a unit of time without length. -/
def perSecond (m : LoadModel α) (time : α) : α :=
  let unit := m.timeUnit.seconds
  if Scalar.le unit (Scalar.ofNat 0) then Scalar.ofNat 0 else m.rateAt time / unit

end LoadModel

end FedLoad
