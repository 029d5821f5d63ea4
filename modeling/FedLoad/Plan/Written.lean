import FedLoad.Load.Model
import FedLoad.Load.Pause
import FedLoad.Plan.Findings
import FedLoad.Threshold.Basic
/-!
# Written values of a plan

A plan keeps spans, pauses and thresholds as they were written, and what they mean is worked out
when it is asked for. A span is a number of seconds or a text with a unit. A pause is two spans or
one, and a text may hold a range. A threshold is an expression, with or without a word on aborting.
-/
namespace FedLoad

/-- Why a plan cannot be used. -/
inductive PlanError where
  /-- The text of the plan cannot be got. -/
  | file (cause : String)
  /-- The text is no plan. -/
  | form
  | review (findings : Findings)
  | span (text : String) (cause : Span.ReadError)
  | pause (cause : Span.ReadError)
  | noDuration
  | threshold (metric : String) (cause : Threshold.ReadError)

def PlanError.message : PlanError → String
  | .file cause => s!"Failed to read config file: {cause}"
  | .form => "Failed to parse YAML: the text is not a plan"
  | .review findings => s!"Invalid configuration: {findings.message}"
  | .span text cause => s!"Invalid configuration: Invalid duration '{text}': {cause.message}"
  | .pause cause => s!"Invalid configuration: {cause.message}"
  | .noDuration => "Invalid configuration: load.duration is required with load.rate"
  | .threshold metric cause => s!"Invalid threshold for '{metric}': {cause.message}"

/-! ## Spans -/

inductive WrittenSpan where
  | seconds (n : Nat)
  | text (s : String)
deriving DecidableEq, Repr

/-- The span that is meant. -/
def WrittenSpan.span : WrittenSpan → Except PlanError Span
  | .seconds n => .ok (.ofSeconds n)
  | .text s =>
    match Span.read s with
    | .ok d => .ok d
    | .error cause => .error (.span s cause)

/-- The span that is meant, if one is written. -/
def WrittenSpan.given? : Option WrittenSpan → Except PlanError (Option Span)
  | none => .ok none
  | some w =>
    match w.span with
    | .ok d => .ok (some d)
    | .error e => .error e

/-! ## Pauses -/

inductive WrittenPause where
  | between (least most : WrittenSpan)
  | single (length : WrittenSpan)
deriving DecidableEq, Repr

/-- The pause that is meant. -/
def WrittenPause.pause : WrittenPause → Except PlanError Pause
  | .between least most =>
    match least.span with
    | .error e => .error e
    | .ok least =>
      match most.span with
      | .error e => .error e
      | .ok most => .ok (.between least most)
  | .single (.seconds n) => .ok (.fixed (.ofSeconds n))
  | .single (.text s) =>
    match Pause.read s with
    | .ok p => .ok p
    | .error cause => .error (.pause cause)

/-- The pause that is meant, if one is written. -/
def WrittenPause.given? : Option WrittenPause → Except PlanError (Option Pause)
  | none => .ok none
  | some w =>
    match w.pause with
    | .ok p => .ok (some p)
    | .error e => .error e

/-! ## Stages -/

structure WrittenStage where
  target : Float
  duration : WrittenSpan
deriving Repr

/-- The stages that are meant; the first with a faulty span decides the error. -/
def WrittenStage.stages : List WrittenStage → Except PlanError (List (Stage Float))
  | [] => .ok []
  | w :: rest =>
    match w.duration.span with
    | .error e => .error e
    | .ok d =>
      match stages rest with
      | .error e => .error e
      | .ok more => .ok (⟨w.target, d⟩ :: more)

/-! ## Thresholds -/

inductive WrittenThreshold where
  | short (expression : String)
  | long (expression : String) (aborts : Bool) (delay : Option WrittenSpan)
deriving DecidableEq, Repr

namespace WrittenThreshold

def expression : WrittenThreshold → String
  | .short e | .long e .. => e

def aborts : WrittenThreshold → Bool
  | .short _ => false
  | .long _ aborts _ => aborts

/-- How long a failure is ignored. -/
def delay : WrittenThreshold → Except PlanError Span
  | .short _ | .long _ _ none => .ok .zero
  | .long _ _ (some w) => w.span

/-- The threshold on a metric that is meant; a faulty span is reported before anything else. -/
def threshold (metric : String) (w : WrittenThreshold) : Except PlanError Threshold :=
  match w.delay with
  | .error e => .error e
  | .ok delay =>
    match Threshold.read metric w.expression w.aborts delay with
    | .ok t => .ok t
    | .error cause => .error (.threshold metric cause)

/-- The thresholds that are meant; the first faulty one decides the error. -/
def thresholds : List (String × WrittenThreshold) → Except PlanError (List Threshold)
  | [] => .ok []
  | (metric, w) :: rest =>
    match w.threshold metric with
    | .error e => .error e
    | .ok t =>
      match thresholds rest with
      | .error e => .error e
      | .ok more => .ok (t :: more)

end WrittenThreshold

end FedLoad
