import FedLoad.Decimal.Reader
import FedLoad.Decimal.Style
import FedLoad.Span.Text
/-!
# Stages of a ramp

A stage leads to a target rate within a span of time. It is written as the target, a colon and the
span: `200:120s`. Stages are separated by commas; blank ones between commas do not count, but there
must be at least one that is not blank. A target is a number that is not negative and not infinite.
-/
namespace FedLoad

open Text

/-- A stretch of a ramp: the rate at its end, and how long it takes to get there. -/
structure Stage (α : Type) where
  target : α
  duration : Span
deriving DecidableEq, Repr

namespace Stage

inductive ReadError where
  | noColon (text : String)
  | target (text : String) (cause : Decimal.FloatError)
  | negative (value : Float)
  | duration (cause : Span.ReadError)
  | noStage

def ReadError.message : ReadError → String
  | .noColon text => s!"Invalid stage '{text}'. Expected 'target:duration'"
  | .target text cause => s!"Invalid stage target '{text}': {cause.message}"
  | .negative x => s!"Stage target must be >= 0, got {Decimal.write .amount x}"
  | .duration cause => cause.message
  | .noStage => "At least one ramp stage is required"

/-- Is this a rate that can be aimed at? -/
def isRate (x : Float) : Bool := isFinite x && !(x < 0.0)

def readChars (s : List Char) : Except ReadError (Stage Float) :=
  let s := trim s
  match cut ':' s with
  | none => .error (.noColon (String.ofList s))
  | some (target, duration) =>
    match Decimal.readChars (trim target) with
    | .error cause => .error (.target (String.ofList (trim target)) cause)
    | .ok x =>
      if isRate x then
        match Span.readChars duration with
        | .error cause => .error (.duration cause)
        | .ok d => .ok ⟨x, d⟩
      else .error (.negative x)

/-- Reads a target and a span. -/
def read (s : String) : Except ReadError (Stage Float) := readChars s.toList

/-- Reads every part; the first that cannot be read decides the error. -/
def readParts : List (List Char) → Except ReadError (List (Stage Float))
  | [] => .ok []
  | part :: rest =>
    match readChars part with
    | .error e => .error e
    | .ok stage =>
      match readParts rest with
      | .error e => .error e
      | .ok stages => .ok (stage :: stages)

/-- Reads stages separated by commas. -/
def readList (s : String) : Except ReadError (List (Stage Float)) :=
  match readParts ((pieces ',' s.toList).filter fun part => !isAllBlank part) with
  | .error e => .error e
  | .ok [] => .error .noStage
  | .ok stages => .ok stages

end Stage

end FedLoad
