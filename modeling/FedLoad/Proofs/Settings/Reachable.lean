import FedLoad.Proofs.Plan.Acceptance
import FedLoad.Proofs.Settings.Precedence
import FedLoad.Proofs.Url.Joined
/-!
# Addresses of actors

The base address is checked as it is given, and the ids of the actors of a plan are checked as they
are written. What is requested in the end is neither if an id is relative, or if no actor is given:
then it is the base address without the slashes at its end, with a path behind it. It can be read
unless the base address is frayed. All other ids are requested as they were checked.

Main statement: `Settings.actors_readable_iff`.
-/
namespace FedLoad

open Url

/-! ## Addresses put together -/

namespace Fault

variable {url path : String}

/-- An id that is not relative is checked as an address. -/
theorem ofUrl?_of_ofActor? {a : Actor} {id : String} (hid : a.id = some id)
    (habsolute : ¬ id.startsWith "/") (h : Fault.ofActor? a = none) : Fault.ofUrl? id = none := by
  unfold Fault.ofActor? at h
  rw [hid] at h
  dsimp only at h
  rw [if_neg habsolute] at h
  split at h
  · cases h
  · exact h

/-- An address without slashes at its end still has its beginning. -/
theorem exists_dropSlashes (h : Fault.ofUrl? url = none) :
    ∃ secure s n, (Actor.dropSlashes url).toList = lead secure ++ s ∧
      Readable (body (dropControls (s ++ List.replicate n '/'))) := by
  obtain ⟨secure, rest, hurl⟩ := Fault.exists_lead h
  have hread := (Fault.ofUrl?_lead hurl).1 h
  obtain ⟨n, hsplit, -⟩ := Actor.dropSlashes_spec url
  rw [hurl] at hsplit
  rcases List.append_eq_append_iff.1 hsplit with ⟨s, hs, rfl⟩ | ⟨w, -, hslashes⟩
  · exact ⟨secure, s, n, hs, hread⟩
  · refine absurd (body_append_of_slashes (s := []) rfl fun c hc => ?_) hread.ne_nil
    have hrest : c ∈ List.replicate n '/' := by
      rw [hslashes]
      exact List.mem_append_right w ((List.rdropWhile_prefix _ _).subset hc)
    exact List.eq_of_mem_replicate hrest

/-- Behind an address that can be read, without the slashes at its end, a path makes an address that
can be read just if the other is not frayed. -/
theorem ofUrl?_joined_iff (h : Fault.ofUrl? url = none) (hpath : path.startsWith "/") :
    Fault.ofUrl? (Actor.dropSlashes url ++ path) = none ↔ ¬ isFrayed (Actor.dropSlashes url) := by
  obtain ⟨secure, s, n, hs, hread⟩ := Fault.exists_dropSlashes h
  obtain ⟨t, ht⟩ := String.startsWith_string_iff.1 hpath
  have hjoined : (Actor.dropSlashes url ++ path).toList = lead secure ++ (s ++ '/' :: t) := by
    rw [String.toList_append, hs, ← ht, List.append_assoc]
    rfl
  rw [Fault.ofUrl?_lead hjoined, isFrayed_lead hs, readable_body_append (body_ne_nil hread),
    readable_body_iff hread]

end Fault

/-! ## Actors -/

/-- Is the id completed with the base address? -/
def Actor.isRelative (a : Actor) : Bool := a.id.any fun id => id.startsWith "/"

/-- The address of the actor, if it has one, is that of a server. -/
def Actor.IsReadable (a : Actor) : Prop := ∀ id, a.id = some id → Fault.ofUrl? id = none

/-- The actors of a plan, if there is one. -/
def Plan.configured (plan : Option Plan) : List Actor := (plan.map Plan.actors).getD []

/-- Is an address made from the base address, for the service or for an actor with a relative id? -/
def Plan.Joins (plan : Option Plan) : Prop :=
  configured plan = [] ∨ ∃ a ∈ configured plan, a.isRelative

theorem Choice.baseUrl_eq_ok {env : Environment} {c : PlanConfig} {baseUrl : String}
    (h : Choice.baseUrl env c = .ok baseUrl) :
    ∃ url, Fault.ofUrl? url = none ∧ Actor.dropSlashes url = baseUrl := by
  unfold Choice.baseUrl at h
  split at h
  · cases h
  · next url _ =>
    split at h
    · cases h
    · next hurl =>
      cases h
      exact ⟨url, hurl, rfl⟩

namespace Actor

variable {a : Actor} {url : String}

theorem dropSlashes_dropSlashes (s : String) : dropSlashes (dropSlashes s) = dropSlashes s := by
  have hidempotent := List.rdropWhile_idempotent (fun c => decide (c = '/')) s.toList
  refine congrArg String.ofList ?_
  rw [dropSlashes, String.toList_ofList]
  exact hidempotent

theorem isReadable_iff_of_id {id : String} (hid : a.id = some id) :
    a.IsReadable ↔ Fault.ofUrl? id = none := by
  refine ⟨fun h => h id hid, fun h other hother => ?_⟩
  cases hid.symm.trans hother
  exact h

theorem isReadable_serviceRoot (h : Fault.ofUrl? url = none) :
    (serviceRoot (dropSlashes url)).IsReadable ↔ ¬ isFrayed (dropSlashes url) := by
  have hid : (serviceRoot (dropSlashes url)).id = some (dropSlashes url ++ "/") :=
    congrArg (fun s => some (s ++ "/")) (dropSlashes_dropSlashes url)
  rw [isReadable_iff_of_id hid]
  exact Fault.ofUrl?_joined_iff h (by decide +kernel)

/-- An actor of an accepted plan has an address that can be read, unless it is relative to a frayed
one. -/
theorem isReadable_resolve (hactor : a.id.isSome → Fault.ofActor? a = none)
    (h : Fault.ofUrl? url = none) : (a.resolve (dropSlashes url)).IsReadable ↔
      ¬ (isFrayed (dropSlashes url) ∧ a.isRelative) := by
  unfold resolve isRelative
  cases hid : a.id with
  | none =>
    refine iff_of_true (fun id hid' => ?_) fun hboth => ?_
    · cases hid.symm.trans hid'
    · cases hboth.2
  | some id =>
    rw [Option.any_some]
    by_cases hrelative : id.startsWith "/"
    · dsimp only
      rw [if_pos hrelative, dropSlashes_dropSlashes, hrelative, isReadable_iff_of_id rfl,
        Fault.ofUrl?_joined_iff h hrelative]
      simp
    · have hread : Fault.ofUrl? id = none :=
        Fault.ofUrl?_of_ofActor? hid hrelative (hactor (by rw [hid]; rfl))
      dsimp only
      rw [if_neg hrelative, isReadable_iff_of_id hid]
      exact iff_of_true hread fun hboth => hrelative hboth.2

end Actor

namespace Settings

/-- Every actor can be requested, unless the base address is frayed and an address is made from
it. -/
theorem actors_readable_iff {env : Environment} {plan : Option Plan} {s : Settings}
    (accepted : ∀ p, plan = some p → ∃ text, Plan.ofText text = .ok p)
    (built : build env plan = .ok s) :
    (∀ a ∈ s.actors, a.IsReadable) ↔ ¬ (isFrayed s.baseUrl ∧ Plan.Joins plan) := by
  have hchosen := build_eq_ok.1 built
  obtain ⟨url, hurl, hbase⟩ := Choice.baseUrl_eq_ok hchosen.baseUrl
  have hactors : ∀ a ∈ Plan.configured plan, a.id.isSome → Fault.ofActor? a = none := by
    intro a ha
    cases plan with
    | none => cases ha
    | some p =>
      obtain ⟨text, htext⟩ := accepted p rfl
      exact (Plan.ofText_eq_ok.1 htext).2.actors a ha
  rw [hchosen.actors, ← hbase]
  unfold Choice.actors Plan.Joins
  rw [← Plan.configured]
  cases hconfigured : Plan.configured plan with
  | nil =>
    rw [List.forall_mem_singleton, Actor.isReadable_serviceRoot hurl]
    simp
  | cons b rest =>
    rw [hconfigured] at hactors
    rw [List.forall_mem_map, or_iff_right (List.cons_ne_nil b rest)]
    constructor
    · rintro h ⟨hfrayed, a, ha, hrelative⟩
      exact (Actor.isReadable_resolve (hactors a ha) hurl).1 (h a ha) ⟨hfrayed, hrelative⟩
    · intro h a ha
      refine (Actor.isReadable_resolve (hactors a ha) hurl).2 fun hboth => ?_
      exact h ⟨hboth.1, a, ha, hboth.2⟩

/-- A plan with a relative id, and with one that is not. -/
def twoActors : String :=
  "version: '1.0'\nactors: [\x7bid: /alice\x7d, \x7bid: 'http://b.test'\x7d]"

/-- The space at the end of this base address belongs to its path, so it does no harm. -/
theorem actors_readable_iff_twoActors : ∃ p s, Plan.ofText twoActors = .ok p ∧
    build [("TEST_HOST", "http://a.test/ap ")] (some p) = .ok s ∧
    Plan.Joins (some p) ∧ ∀ a ∈ s.actors, a.IsReadable := by
  have hrun : ((Plan.ofText twoActors).toOption.any fun p =>
      (p.actors.any Actor.isRelative) &&
      (build [("TEST_HOST", "http://a.test/ap ")] (some p)).toOption.any
        fun s => !isFrayed s.baseUrl) = true := by decide +kernel
  obtain ⟨p, hp, hrun⟩ := any_toOption.1 hrun
  obtain ⟨hrelative, hrun⟩ := Bool.and_eq_true_iff.1 hrun
  obtain ⟨s, hs, hfrayed⟩ := any_toOption.1 hrun
  refine ⟨p, s, hp, hs, .inr (List.any_eq_true.1 hrelative), ?_⟩
  refine (actors_readable_iff (fun q hq => ?_) hs).2 fun hboth => ?_
  · cases hq
    exact ⟨twoActors, hp⟩
  · rw [hboth.1] at hfrayed
    cases hfrayed

/-- Behind a base address with a space at its end, the service itself cannot be requested. -/
theorem actors_not_readable : ∃ s, build [("TEST_HOST", "http://fedbox.local ")] none = .ok s ∧
    ∃ a ∈ s.actors, ¬ a.IsReadable := by
  have hrun : ((build [("TEST_HOST", "http://fedbox.local ")] none).toOption.any fun s =>
      s.actors.any fun a => a.id.any fun id => (Fault.ofUrl? id).isSome) = true := by
    decide +kernel
  obtain ⟨s, hs, hactors⟩ := any_toOption.1 hrun
  obtain ⟨a, ha, hid⟩ := List.any_eq_true.1 hactors
  obtain ⟨id, hid, hfault⟩ := (Option.any_eq_true _ _).1 hid
  refine ⟨s, hs, a, ha, fun hread => ?_⟩
  rw [hread id hid] at hfault
  cases hfault

end Settings

end FedLoad
