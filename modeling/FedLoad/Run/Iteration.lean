import FedLoad.Load.Pause
import FedLoad.Walk.Web
/-!
# Iterations

An iteration is a script: every actor in order is walked and a pause follows it, and at the end the
iteration is recorded. An actor without an id is not walked, though its pause is kept. Where no
pause is meant at all there is none.
-/
namespace FedLoad

/-- A part of an iteration. -/
inductive Deed where
  | walk (actor : Actor)
  | pause (pause : Pause)
  | conclude

/-- What every virtual user does in an iteration. -/
structure Scenario where
  actors : List Actor
  sleep : Option Pause

namespace Scenario

/-- The pause, if one is meant. -/
def pause? (s : Scenario) : Option Pause := s.sleep.filter fun p => !p.isZero

/-- What is done about one actor. -/
def deedsFor (s : Scenario) (a : Actor) : List Deed :=
  (if a.id.isSome then [.walk a] else []) ++ (s.pause?.map Deed.pause).toList

/-- The script of an iteration. -/
def deeds (s : Scenario) : List Deed := s.actors.flatMap s.deedsFor ++ [.conclude]

/-- The pauses of an iteration; `draw` decides where there is a choice. -/
def pauses (s : Scenario) (draw : Nat) : List Span :=
  s.deeds.filterMap fun
    | .pause p => some (p.length draw)
    | _ => none

/-- What the walk of an actor records when no server can be reached: it ends with its first request,
which is lost. -/
def walkOffline (a : Actor) : List Event :=
  a.id.toList.flatMap fun id =>
    let reply := Web.replyOffline id
    reply.events ++ a.checks.flatMap (Check.events (.ofReply id reply))

/-- What an iteration records before its end when no server can be reached. -/
def eventsOffline (s : Scenario) : List Event :=
  s.deeds.flatMap fun
    | .walk a => walkOffline a
    | _ => []

end Scenario

namespace Trail

/-- Does one part of an iteration; pauses leave no trace. -/
def perform (t : Trail) (web : Web) (maxPages : Nat) : Deed → Trail
  | .walk a => (t.actor web maxPages a).2
  | .pause _ => t
  | .conclude => t.record .iteration

/-- Does a whole iteration. -/
def iterate (t : Trail) (web : Web) (maxPages : Nat) (s : Scenario) : Trail :=
  s.deeds.foldl (fun t deed => t.perform web maxPages deed) t

/-- Does iterations one after the other. -/
def iterations (t : Trail) (web : Web) (maxPages : Nat) (s : Scenario) : Nat → Trail
  | 0 => t
  | n + 1 => (t.iterate web maxPages s).iterations web maxPages s n

end Trail

end FedLoad
