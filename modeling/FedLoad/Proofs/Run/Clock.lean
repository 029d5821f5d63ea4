import FedLoad.Proofs.Run.Step
import FedLoad.Run.Timed
/-!
# Runs on a clock are runs

A clock decides which of the open moves is made next. So a run on a clock goes only where moves
lead, and what holds after every sequence of moves holds of it.

Main statement: `playOnClock_leads`.
-/
namespace FedLoad

namespace Run

/-- Do some moves lead from `r` to `r'`? -/
def Leads (r r' : Run) : Prop := ∃ moves, r.play? moves = some r'

theorem Leads.refl (r : Run) : r.Leads r := ⟨[], rfl⟩

theorem Leads.trans {a b c : Run} (hab : a.Leads b) (hbc : b.Leads c) : a.Leads c := by
  obtain ⟨xs, hxs⟩ := hab
  obtain ⟨ys, hys⟩ := hbc
  exact ⟨xs ++ ys, by rw [play?_append, hxs, Option.bind_some, hys]⟩

theorem leads_of_step? {r r' : Run} {m : Move} (h : r.step? m = some r') : r.Leads r' :=
  ⟨[m], play?_cons_eq_some.2 ⟨r', h, rfl⟩⟩

theorem leads_attempt (r : Run) (m : Move) : r.Leads (r.attempt m) := by
  unfold attempt
  cases h : r.step? m with
  | none => exact .refl r
  | some r' => exact leads_of_step? h

theorem Leads.attempt {r r' : Run} (h : r.Leads r') (m : Move) : r.Leads (r'.attempt m) :=
  h.trans (leads_attempt r' m)

theorem leads_exhaust (r : Run) (m : Move) (n : Nat) : r.Leads (r.exhaust m n) := by
  induction n generalizing r with
  | zero => exact .refl r
  | succ n ih =>
    unfold exhaust
    split
    · next r' h => exact (leads_of_step? h).trans (ih r')
    · exact .refl r

theorem Leads.exhaust {r r' : Run} (h : r.Leads r') (m : Move) (n : Nat) :
    r.Leads (r'.exhaust m n) :=
  h.trans (leads_exhaust r' m n)

end Run

namespace Timed

open Run (Leads leads_attempt leads_exhaust)

theorem halt_leads (t : Timed) : t.run.Leads t.halt.run := by
  unfold halt
  split
  · exact (((leads_exhaust ..).exhaust ..).exhaust ..).attempt _
  · exact .refl _

theorem tick_leads {t t' : Timed} {s : Schedule} (h : t.tick s = .ok t') : t.run.Leads t'.run := by
  simp only [tick] at h
  split at h
  · cases h
  · cases h
    exact ((((leads_attempt ..).exhaust ..).attempt _).attempt _).exhaust ..

theorem dispatch_leads {t t' : Timed} {s : Schedule} {total : Span}
    (h : t.dispatch s total = .ok t') : t.run.Leads t'.run := by
  unfold dispatch at h
  split at h
  · split at h
    · cases h
      exact (leads_attempt ..).attempt _
    · exact tick_leads h
  · cases h
    exact .refl _

theorem expire_leads (t : Timed) : t.run.Leads t.expire.run := by
  unfold expire
  split
  · exact leads_attempt ..
  · exact .refl _

theorem foldl_note_leads (events : List Event) (r : Run) :
    r.Leads (events.foldl (fun r e => r.attempt (.note e)) r) := by
  induction events generalizing r with
  | nil => exact .refl r
  | cons e rest ih => exact (leads_attempt r (.note e)).trans (ih _)

theorem endIterations_leads (events : List Event) (n : Nat) (r : Run) :
    r.Leads (endIterations r events n) := by
  induction n generalizing r with
  | zero => exact .refl r
  | succ n ih => exact ((foldl_note_leads events r).attempt .complete).trans (ih _)

theorem complete_leads (t : Timed) (s : Schedule) : t.run.Leads (t.complete s).run :=
  endIterations_leads ..

theorem sound_leads (t : Timed) : t.run.Leads t.sound.run := by
  unfold sound
  split
  · exact leads_attempt ..
  · exact .refl _

theorem collect_leads (n : Nat) (r : Run) : r.Leads (collect r n) := by
  induction n generalizing r with
  | zero => exact .refl r
  | succ n ih => exact ((leads_attempt r .collect).attempt .look).trans (ih _)

theorem see_leads (t : Timed) : t.run.Leads t.see.run := by
  simp only [see]
  split
  · split
    · exact (leads_attempt ..).attempt _
    · exact collect_leads ..
  · split
    · exact leads_attempt ..
    · exact (leads_exhaust ..).attempt _

theorem advance_leads {t t' : Timed} {s : Schedule} {total : Span}
    (h : t.advance s total = .ok t') : t.run.Leads t'.run := by
  unfold advance at h
  split at h
  · cases h
  · next dispatched hdispatch =>
    have hexpire := (dispatch_leads hdispatch).trans dispatched.expire_leads
    cases h
    split
    · exact hexpire.trans (halt_leads _)
    · have hcomplete := hexpire.trans (complete_leads _ s)
      have hsee := (hcomplete.trans (sound_leads _)).trans (see_leads _)
      exact hsee.trans (halt_leads _)

theorem go_leads {s : Schedule} {total : Span} {fuel : Nat} {t t' : Timed}
    (h : t.go s total fuel = .ok t') : t.run.Leads t'.run := by
  induction fuel generalizing t with
  | zero => cases h; exact .refl _
  | succ fuel ih =>
    unfold go at h
    split at h
    · cases h
      exact .refl _
    · split at h
      · cases h
      · next hadvance => exact (advance_leads hadvance).trans (ih h)

end Timed

/-- Moves of the dispatcher, the iterations and the watcher lead to where a run on a clock ends. -/
theorem Run.playOnClock_leads {r : Run} {s : Schedule} {alarm : Alarm} {t : Timed}
    (h : r.playOnClock s alarm = .ok t) : r.Leads t.run := by
  unfold playOnClock at h
  split at h
  · cases h
  · have hstart := (leads_attempt r .look).trans (Timed.halt_leads (.start r alarm))
    exact hstart.trans (Timed.go_leads h)

end FedLoad
