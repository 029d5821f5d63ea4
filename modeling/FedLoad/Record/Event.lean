import FedLoad.Record.Kind
import FedLoad.Span.Basic
/-!
# What is recorded

A run is recorded as a sequence of events. The first six are what happens to a virtual user; they
are counted for the verdict and for the exposition alike. The others belong to the exposition only:
what happened to a request on the wire, and which threshold failed.
-/
namespace FedLoad

inductive Event where
  /-- A response was looked at for one defect. -/
  | sample (defect : Defect) (passed : Bool)
  /-- A check with this name was run. -/
  | check (name : String) (passed : Bool)
  /-- A request took this long. -/
  | latency (took : Span)
  /-- An iteration was completed. -/
  | iteration
  /-- An iteration came due while every virtual user was busy. -/
  | dropped
  /-- A page of a collection was fetched. -/
  | page
  /-- A request was made. -/
  | request
  /-- A request was answered with this status; none if it was not answered. -/
  | answered (status : Option Nat)
  /-- A request, or the reading of its answer, broke off. -/
  | outage (cause : Outage)
  /-- A threshold on this metric failed in the verdict. -/
  | breach (metric : String)
deriving DecidableEq, Repr

/-- Is this something that a walk records? A walk enters neither iterations nor verdicts. -/
def Event.ofWalk : Event → Bool
  | .sample .. | .check .. | .latency _ | .page | .request | .answered _ | .outage _ => true
  | .iteration | .dropped | .breach _ => false

end FedLoad
