import FedLoad.Plan.Basic
/-!
# The review of a plan

A plan is accepted if there is nothing to say against any of its fields. The review goes through all
of them in a fixed order, so that it finds everything that is wrong: the version must be a known
one, numbers must lie in their ranges, what is written must be readable, and a load must lead
somewhere in a time that is not zero. A constant load needs no stages, and a ramp no duration. An
actor without an id is let pass.
-/
namespace FedLoad

/-- The error of a calculation, as an objection. -/
def PlanError.objection? {α : Type} : Except PlanError α → Option String
  | .ok _ => none
  | .error e => some e.message

open PlanError (objection?)

/-- What there is to say against a span that must not be zero. -/
def WrittenSpan.zeroObjection? (field : String) (w : WrittenSpan) : Option String :=
  match w.span with
  | .ok d => if d.isZero then some s!"{field} must be greater than zero" else none
  | .error e => some e.message

namespace PlanConfig

/-- The largest number of virtual users. -/
def userLimit : Nat := 100000

/-- The largest number of pages. -/
def pageLimit : Nat := Nat.pow 2 32 - 1

def review (c : PlanConfig) (f : Findings) : Findings :=
  f.check "baseUrl" (c.baseUrl.bind Fault.ofUrl?)
    |>.check "maxVUs" (c.maxUsers.bind fun n => Fault.ofRange? n 1 userLimit "maxVUs")
    |>.check "maxPages" (c.maxPages.bind fun n => Fault.ofRange? n 1 pageLimit "maxPages")
    |>.object "timeout" (c.timeout.bind fun w => objection? w.span)
    |>.object "gracefulStop" (c.gracefulStop.bind fun w => objection? w.span)
    |>.object "sleepTime" (c.sleep.bind fun w => objection? w.pause)

end PlanConfig

namespace PlanLoad

/-- What there is to say against the length of a constant load. -/
def durationObjection? (l : PlanLoad) : Option String :=
  match l.duration with
  | none => some "duration is required with rate"
  | some w => w.zeroObjection? "duration"

/-- What there is to say against the stages of a ramp. -/
def stagesObjection? (l : PlanLoad) : Option String :=
  match WrittenStage.stages l.stages with
  | .ok stages => (Fault.ofStages? stages).map Fault.message
  | .error e => some e.message

/-- Reviews what the kind of load needs. -/
def reviewShape (l : PlanLoad) (f : Findings) : Findings :=
  match l.rate with
  | some rate => f.check "rate" (Fault.ofRate? rate "rate") |>.object "duration" l.durationObjection?
  | none => f.object "stages" l.stagesObjection?

def review (l : PlanLoad) (f : Findings) : Findings :=
  l.reviewShape <|
    f.check "startRate" (Fault.ofRate? l.startRate "startRate")
      |>.object "timeUnit" (l.timeUnit.bind fun w => w.zeroObjection? "timeUnit")

end PlanLoad

namespace Plan

/-- The versions of plans that are known. -/
def supportedVersions : List String := ["1.0"]

def versionObjection? (p : Plan) : Option String :=
  if supportedVersions.contains p.version then none
  else
    some (s!"Unsupported version '{p.version}'. Supported: " ++ ", ".intercalate supportedVersions)

/-- Reviews actors, counted from `index`. -/
def reviewActors (f : Findings) (index : Nat) : List Actor → Findings
  | [] => f
  | a :: rest =>
    let f := if a.id.isSome then f.check s!"[{index}]" (Fault.ofActor? a) else f
    reviewActors f (index + 1) rest

def reviewLoad (p : Plan) (f : Findings) : Findings :=
  match p.load with
  | none => f
  | some l => f.within "load" l.review

def review (p : Plan) : Findings :=
  Findings.none.object "version" p.versionObjection?
    |>.within "config" p.config.review
    |> p.reviewLoad
    |>.within "actors" (fun f => reviewActors f 0 p.actors)
    |>.object "thresholds" (objection? p.readThresholds)

/-- The plan, if there is nothing to say against it. -/
def accept (p : Plan) : Except PlanError Plan :=
  if p.review.isClean then .ok p else .error (.review p.review)

end Plan

end FedLoad
