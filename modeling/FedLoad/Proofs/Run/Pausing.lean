import FedLoad.Proofs.Walk.Entries
import FedLoad.Run.Iteration
/-!
# Pauses of an iteration

An iteration is meant to walk every actor that has an id, one after the other, then to pause if a
pause is meant, and then to be recorded. Its script pauses behind every single actor, also behind
one that is not walked. So the two agree just if no pause is meant or there is one actor: with more
of them an iteration pauses between the walks, and with none it does not pause at all.

What an iteration does besides pausing is as meant, whatever the pauses are: it makes the walks in
order, and it is recorded once, at its end.

Main statement: `Scenario.deeds_intended_iff`.
-/
namespace FedLoad

namespace Deed

def isPause : Deed → Bool
  | .pause _ => true
  | _ => false

end Deed

namespace Scenario

/-- The walks of an iteration: of every actor that has an id, in order. -/
def walks (s : Scenario) : List Deed := (s.actors.filter fun a => a.id.isSome).map .walk

/-- What an iteration is meant to do. -/
def intended (s : Scenario) : List Deed :=
  s.walks ++ (s.pause?.map Deed.pause).toList ++ [.conclude]

variable {s : Scenario}

/-! ## Everything but pauses -/

/-- Without its pauses, an iteration is as meant. -/
theorem filter_deeds (s : Scenario) :
    (s.deeds.filter fun d => !d.isPause) = s.walks ++ [.conclude] := by
  have hactors : ∀ actors : List Actor, ((actors.flatMap s.deedsFor).filter fun d => !d.isPause) =
      (actors.filter fun a => a.id.isSome).map .walk := by
    intro actors
    induction actors with
    | nil => rfl
    | cons a rest ih =>
      rw [List.flatMap_cons, List.filter_append, ih, List.filter_cons]
      unfold deedsFor
      cases a.id <;> cases s.pause? <;> rfl
  rw [deeds, List.filter_append, hactors, walks]
  rfl

/-! ## Pauses -/

theorem countP_isPause_deedsFor (s : Scenario) (a : Actor) :
    (s.deedsFor a).countP Deed.isPause = s.pause?.toList.length := by
  unfold deedsFor
  cases a.id <;> cases s.pause? <;> rfl

/-- The script pauses for every actor, if at all. -/
theorem countP_isPause_deeds (s : Scenario) :
    s.deeds.countP Deed.isPause = s.actors.length * s.pause?.toList.length := by
  have hactors : ∀ actors : List Actor, (actors.flatMap s.deedsFor).countP Deed.isPause =
      actors.length * s.pause?.toList.length := by
    intro actors
    induction actors with
    | nil => exact (Nat.zero_mul _).symm
    | cons a rest ih =>
      rw [List.flatMap_cons, List.countP_append, countP_isPause_deedsFor, ih, List.length_cons,
        Nat.succ_mul, Nat.add_comm]
  rw [deeds, List.countP_append, hactors]
  rfl

theorem countP_isPause_intended (s : Scenario) :
    s.intended.countP Deed.isPause = s.pause?.toList.length := by
  have hwalks : s.walks.countP Deed.isPause = 0 := by
    rw [walks, List.countP_map]
    exact List.countP_eq_zero.2 fun a _ => nofun
  rw [intended, List.countP_append, List.countP_append, hwalks]
  cases s.pause? <;> rfl

theorem deeds_of_no_pause (h : s.pause? = none) : s.deeds = s.intended := by
  have hcount := s.countP_isPause_deeds
  rw [h] at hcount
  have hself : (s.deeds.filter fun d => !d.isPause) = s.deeds := by
    refine List.filter_eq_self.2 fun d hd => ?_
    simpa using List.countP_eq_zero.1 hcount d hd
  rw [← hself, s.filter_deeds, intended, h]
  exact congrArg (· ++ _) (List.append_nil _).symm

theorem deeds_of_one {a : Actor} (h : s.actors = [a]) : s.deeds = s.intended := by
  rw [deeds, intended, walks, h]
  cases hid : a.id <;> simp [deedsFor, hid]

/-- The script is as meant just if no pause is meant or there is one actor. -/
theorem deeds_eq_intended_iff (s : Scenario) :
    s.deeds = s.intended ↔ s.pause? = none ∨ s.actors.length = 1 := by
  constructor
  · intro h
    have hcount := congrArg (List.countP Deed.isPause) h
    rw [countP_isPause_deeds, countP_isPause_intended] at hcount
    cases hpause : s.pause? with
    | none => exact .inl rfl
    | some p =>
      rw [hpause] at hcount
      exact .inr ((Nat.mul_one _).symm.trans hcount)
  · rintro (h | h)
    · exact deeds_of_no_pause h
    · obtain ⟨a, ha⟩ := List.length_eq_one_iff.1 h
      exact deeds_of_one ha

/-- The lengths of the pauses of an iteration: one for every actor. -/
theorem pauses_eq (s : Scenario) (draw : Nat) :
    s.pauses draw = s.actors.flatMap fun _ => (s.pause?.map (·.length draw)).toList := by
  rw [pauses, deeds, List.filterMap_append, List.filterMap_flatMap]
  refine (List.append_nil _).trans (congrArg (s.actors.flatMap ·) (funext fun a => ?_))
  unfold deedsFor
  cases s.pause? <;> cases a.id <;> rfl

end Scenario

namespace Trail

variable (t : Trail) (web : Web) (maxPages : Nat)

/-- The walks of actors, one after the other; one without an id changes nothing. -/
def walkAll (actors : List Actor) : Trail :=
  actors.foldl (fun t a => (t.actor web maxPages a).2) t

theorem foldl_perform_deedsFor (s : Scenario) (a : Actor) :
    (s.deedsFor a).foldl (fun t d => t.perform web maxPages d) t = (t.actor web maxPages a).2 := by
  have hnone : a.id = none → (t.actor web maxPages a).2 = t := fun hid => by rw [actor, hid]
  unfold Scenario.deedsFor
  cases hid : a.id with
  | none =>
    rw [hnone hid]
    cases s.pause? <;> rfl
  | some id => cases s.pause? <;> rfl

/-- An iteration makes the walks and is recorded; pauses leave no trace. -/
theorem iterate_eq (s : Scenario) :
    t.iterate web maxPages s = (t.walkAll web maxPages s.actors).record .iteration := by
  have hactors : ∀ (actors : List Actor) (t : Trail),
      (actors.flatMap s.deedsFor).foldl (fun t d => t.perform web maxPages d) t =
        t.walkAll web maxPages actors := by
    intro actors
    induction actors with
    | nil => exact fun _ => rfl
    | cons a rest ih =>
      intro t
      rw [List.flatMap_cons, List.foldl_append, foldl_perform_deedsFor, ih]
      rfl
  rw [iterate, Scenario.deeds, List.foldl_append, hactors]
  rfl

theorem walked_walkAll (actors : List Actor) : t.Walked (t.walkAll web maxPages actors) := by
  induction actors generalizing t with
  | nil => exact .refl t
  | cons a rest ih => exact (t.walked_actor web maxPages a).trans (ih _)

end Trail

namespace Scenario

/-- The script of an iteration is as meant just if no pause is meant or there is one actor. In
general it pauses once for every actor, and apart from that it is as meant: it makes the walks in
order, and after them the iteration is recorded, which none of the walks does. -/
theorem deeds_intended_iff (s : Scenario) :
    (s.deeds = s.intended ↔ s.pause? = none ∨ s.actors.length = 1) ∧
    (∀ draw, s.pauses draw = s.actors.flatMap fun _ => (s.pause?.map (·.length draw)).toList) ∧
    (s.deeds.filter fun d => !d.isPause) = s.walks ++ [.conclude] ∧
    ∀ (t : Trail) (web : Web) (maxPages : Nat),
      t.iterate web maxPages s = (t.walkAll web maxPages s.actors).record .iteration ∧
      t.Walked (t.walkAll web maxPages s.actors) :=
  ⟨s.deeds_eq_intended_iff, s.pauses_eq, s.filter_deeds, fun t web maxPages =>
    ⟨t.iterate_eq web maxPages s, t.walked_walkAll web maxPages s.actors⟩⟩

/-- Two actors without an id, and a pause of 300 milliseconds. -/
def twoGhosts : Scenario :=
  ⟨[⟨none, none, none, []⟩, ⟨none, none, none, []⟩], some (.fixed (.ofMillis 300))⟩

/-- An iteration need not pause as meant: here it takes twice as long. -/
theorem deeds_not_intended : ¬ ∀ s : Scenario, s.deeds = s.intended := by
  intro h
  rcases twoGhosts.deeds_eq_intended_iff.1 (h twoGhosts) with hpause | hlength
  · cases hpause
  · exact absurd hlength (by decide)

end Scenario

end FedLoad
