import FedLoad.Proofs.Except
import FedLoad.Proofs.Record.Labels
import FedLoad.Proofs.Run.Step
import FedLoad.Proofs.Threshold.Breach
import FedLoad.Run.Program
/-!
# The verdict on a run

At the end every threshold is evaluated once, by itself, on the tally that the run has left. A
verdict changes nothing of the tally, and under the label of each metric it counts one more breach
for every threshold on it that fails. However often the watcher has looked at thresholds before,
nothing is counted there during the run (`evaluateAll_faithful`).

A program whose settings and client are in order ends with code 0 if the driver has not aborted the
run and every threshold passes, and with code 99 otherwise. That takes a run with a result: there is
none if the stages add up to more than a span can be, or if at some look at the clock an iteration
takes longer than that. Then, and only then, the program ends with another code (`code_conclude`,
`code_run`).

Main statement: `verdict_faithful_iff`.
-/
namespace FedLoad

open Counters (countAt)

/-! ## Breaches are counted at the end -/

namespace Run

/-- No move of a run counts a failed threshold. -/
theorem Step.breaches {r r' : Run} {m : Move} (h : Step r m r') :
    r'.book.counters.breaches = r.book.counters.breaches := by
  cases h with
  | note _ hwalk => exact (record_of_walk hwalk r.book).2.2
  | _ => rfl

theorem play?_breaches {r r' : Run} {moves : List Move} (h : r.play? moves = some r') :
    r'.book.counters.breaches = r.book.counters.breaches :=
  play?_keeps (P := fun s => s.book.counters.breaches = r.book.counters.breaches)
    (fun hs hstep => hstep.breaches.trans hs) rfl h

end Run

namespace Threshold

theorem tally_recordAll_breaches (outcomes : List (Threshold × Outcome)) (t : Tally) :
    t.recordAll (breaches outcomes) = t := by
  unfold breaches
  generalize outcomes.filter _ = failing
  induction failing with
  | nil => rfl
  | cons p rest ih => exact ih

/-- A verdict has one breach under a label for each threshold that shows it and fails. -/
theorem countP_breaches (thresholds : List Threshold) (t : Tally) (label : String) :
    (breaches (outcomes thresholds t)).countP (fun e => e.breachLabels? = some [label]) =
      thresholds.countP fun x => x.metric.write = label ∧ ¬ (x.evaluate t).passed := by
  rw [breaches, List.countP_map, List.countP_filter, outcomes, List.countP_map]
  refine List.countP_congr fun x _ => ?_
  simp [Event.breachLabels?]

/-- The verdict on `thresholds` that is given on the book `last`, when the counters stood as in
`first` before the run. -/
structure Faithful (thresholds : List Threshold) (first last : Book)
    (verdict : List (Threshold × Outcome) × Book) : Prop where
  /-- One outcome for each threshold, in their order. -/
  order : verdict.1.map Prod.fst = thresholds
  /-- An outcome is that of the threshold alone. -/
  alone : ∀ p ∈ verdict.1, p.2 = p.1.evaluate last.tally
  tally : verdict.2.tally = last.tally
  breaches : ∀ label, countAt [label] verdict.2.counters.breaches =
    countAt [label] first.counters.breaches +
      thresholds.countP fun t => t.metric.write = label ∧ ¬ (t.evaluate last.tally).passed

/-- The verdict on the book that a run leaves, whatever was recorded before it and whichever
thresholds were watched. -/
theorem evaluateAll_faithful (thresholds : List Threshold) {maxUsers : Nat}
    {watched : List Threshold} {history : List Event} {moves : List Run.Move} {r : Run}
    (h : (Run.begin maxUsers watched (Book.empty.recordAll history)).play? moves = some r) :
    Faithful thresholds (Book.empty.recordAll history) r.book
      (evaluateAll thresholds r.book) where
  order := by
    rw [evaluateAll, outcomes, List.map_map]
    exact List.map_id thresholds
  alone p hp := by
    obtain ⟨t, -, rfl⟩ := List.mem_map.1 hp
    rfl
  tally := by
    rw [evaluateAll, Book.tally_recordAll, tally_recordAll_breaches]
  breaches label := by
    have hkept : r.book.counters.breaches = (Book.empty.recordAll history).counters.breaches :=
      Run.play?_breaches h
    -- the run leaves this counter alone, so its labels are still in order
    have hsorted : Keyed.Ascending r.book.counters.breaches := by
      rw [hkept, Book.counters_recordAll]
      exact Counters.labelled_breaches.ascending_recordAll (c := .empty) List.Pairwise.nil history
    rw [evaluateAll, Book.counters_recordAll,
      Counters.labelled_breaches.countAt_recordAll hsorted, countP_breaches, hkept]

end Threshold

/-! ## Runs without a result -/

/-- Some calculation with spans that a run may need has no result: the length of the load, or at
some millisecond the time until the next look at the clock. -/
def Settings.Overlong (s : Settings) : Prop :=
  ∃ fault, s.model.total = .error fault ∨
    ∃ millis, Tick.after s.model (Span.ofMillis millis).seconds = .error fault

namespace Timed

variable {t : Timed} {s : Schedule} {total : Span} {fault : Span.Fault}

theorem tick_error (h : t.tick s = .error fault) :
    Tick.after s.model (Span.ofMillis t.now).seconds = .error fault := by
  simp only [tick] at h
  split at h
  · next hafter => cases h; exact hafter
  · cases h

theorem dispatch_error (h : t.dispatch s total = .error fault) :
    Tick.after s.model (Span.ofMillis t.now).seconds = .error fault := by
  unfold dispatch at h
  split at h
  · split at h
    · cases h
    · exact tick_error h
  · cases h

theorem advance_error (h : t.advance s total = .error fault) :
    ∃ millis, Tick.after s.model (Span.ofMillis millis).seconds = .error fault := by
  unfold advance at h
  split at h
  · next hdispatch => cases h; exact ⟨_, dispatch_error hdispatch⟩
  · cases h

theorem go_error {fuel : Nat} (h : t.go s total fuel = .error fault) :
    ∃ millis, Tick.after s.model (Span.ofMillis millis).seconds = .error fault := by
  induction fuel generalizing t with
  | zero => cases h
  | succ fuel ih =>
    unfold go at h
    split at h
    · cases h
    · split at h
      · next hadvance => cases h; exact advance_error hadvance
      · exact ih h

end Timed

theorem Run.playOnClock_error {r : Run} {s : Schedule} {alarm : Alarm} {fault : Span.Fault}
    (h : r.playOnClock s alarm = .error fault) : s.model.total = .error fault ∨
      ∃ millis, Tick.after s.model (Span.ofMillis millis).seconds = .error fault := by
  unfold playOnClock at h
  split at h
  · next htotal => cases h; exact .inl htotal
  · exact .inr (Timed.go_error h)

theorem Run.total_of_playOnClock {r : Run} {s : Schedule} {alarm : Alarm} {t : Timed}
    (h : r.playOnClock s alarm = .ok t) : ∃ total, s.model.total = .ok total := by
  unfold playOnClock at h
  split at h
  · cases h
  · next total htotal => exact ⟨total, htotal⟩

namespace Program

theorem overlong_of_play {s : Settings} {fault : Span.Fault} (h : play s = .error fault) :
    s.Overlong := ⟨fault, Run.playOnClock_error h⟩

/-- The length of a load that was played is in bounds, so the settings could be shown. -/
theorem overview_of_play {s : Settings} {timed : Timed} (h : play s = .ok timed)
    (headers : Headers) : ∃ overview, s.overview headers = .ok overview := by
  obtain ⟨total, htotal⟩ : ∃ total, s.model.total = .ok total := Run.total_of_playOnClock h
  exact ⟨_, by rw [Settings.overview, htotal]; rfl⟩

/-! ## Codes -/

/-- The driver has not aborted the run, and every threshold passes on the tally that it has left. -/
def Passes (s : Settings) (timed : Timed) : Prop :=
  timed.run.aborted = false ∧ ∀ t ∈ s.thresholds, (t.evaluate timed.run.book.tally).passed

/-- The code 0 for a run that passes, and 99 for one that does not. -/
def Judges (s : Settings) (timed : Timed) (code : Nat) : Prop :=
  (code = 0 ↔ Passes s timed) ∧ (code = 99 ↔ ¬ Passes s timed)

theorem Judges.two_codes {s : Settings} {timed : Timed} {code : Nat} (h : Judges s timed code) :
    code = 0 ∨ code = 99 := by
  by_cases hpasses : Passes s timed
  · exact .inl (h.1.2 hpasses)
  · exact .inr (h.2.2 hpasses)

/-- The code after a run, whatever has become of it. -/
theorem code_conclude (env : Environment) (s : Settings) (overview : String) (timed : Timed) :
    Judges s timed (conclude env s overview timed).code := by
  have hfails : (timed.summary.aborted || (Threshold.outcomes s.thresholds
      timed.run.book.tally).any (!·.2.passed)) = true ↔ ¬ Passes s timed := by
    simp [Passes, Timed.summary, Threshold.outcomes, imp_iff_not_or]
  change Judges s timed (if _ then failed else passed)
  split
  · next h =>
    have hnot : ¬ Passes s timed := hfails.1 h
    exact ⟨iff_of_false (by decide) hnot, iff_of_true rfl hnot⟩
  · next h =>
    have hpasses : Passes s timed := not_not.1 (mt hfails.2 h)
    exact ⟨iff_of_true rfl hpasses, iff_of_false (by decide) (not_not.2 hpasses)⟩

section Run

variable {env : Environment} {text : String → Except String String} {s : Settings}
  {client : Client}

/-- Settings and client in order, a run with a result is judged. -/
theorem judges_of_play (hload : Settings.load env text = .ok s)
    (hclient : Client.build s.client = .ok client) {timed : Timed} (hplay : play s = .ok timed) :
    Judges s timed (run env text).code := by
  obtain ⟨overview, hoverview⟩ := overview_of_play hplay client.headers
  unfold run
  simp only [hload, hclient, hoverview, hplay]
  exact code_conclude env s overview timed

/-- Settings and client in order, a run without a result has a code of its own. -/
theorem code_of_play_error (hload : Settings.load env text = .ok s)
    (hclient : Client.build s.client = .ok client) {fault : Span.Fault}
    (hplay : play s = .error fault) : (run env text).code = noResult := by
  unfold run
  simp only [hload, hclient, hplay]
  cases s.overview client.headers <;> rfl

end Run

/-- A verdict is faithful to the thresholds and to what a run has left. Settings and client in
order, the code of the program says what has become of the run, so it is one of the two codes just
if the run has a result; where it has none, some span would have to be too long. -/
theorem verdict_faithful_iff (thresholds : List Threshold) {maxUsers : Nat}
    {watched : List Threshold} {history : List Event} {moves : List Run.Move} {r : Run}
    (hrun : (Run.begin maxUsers watched (Book.empty.recordAll history)).play? moves = some r)
    {env : Environment} {text : String → Except String String} {s : Settings} {client : Client}
    (hload : Settings.load env text = .ok s) (hclient : Client.build s.client = .ok client) :
    Threshold.Faithful thresholds (Book.empty.recordAll history) r.book
      (Threshold.evaluateAll thresholds r.book) ∧
    (∀ overview timed, Judges s timed (conclude env s overview timed).code) ∧
    (∀ timed, play s = .ok timed → Judges s timed (run env text).code) ∧
    ((run env text).code = 0 ∨ (run env text).code = 99 ↔ ∃ timed, play s = .ok timed) ∧
    ((¬ ∃ timed, play s = .ok timed) → s.Overlong) := by
  refine ⟨Threshold.evaluateAll_faithful thresholds hrun, code_conclude env s,
    fun timed => judges_of_play hload hclient, ?_⟩
  cases hplay : play s with
  | error fault =>
    have hcode := code_of_play_error hload hclient hplay
    have hnone : ¬ ∃ timed : Timed, Except.error fault = Except.ok timed := by
      rintro ⟨timed, hok⟩
      cases hok
    refine ⟨iff_of_false ?_ hnone, fun _ => overlong_of_play hplay⟩
    rw [hcode]
    decide
  | ok timed =>
    have hjudges := judges_of_play hload hclient hplay
    exact ⟨iff_of_true hjudges.two_codes ⟨timed, rfl⟩, fun hnone => absurd ⟨timed, rfl⟩ hnone⟩

/-- A load of one second with these stages, and no plan. -/
def withStages (stages : String) : Environment :=
  [("TEST_HOST", "http://x.test"), ("RAMP_STAGES", stages)]

def noPlan : String → Except String String := fun _ => .error "no plan"

/-- Two thresholds on one metric fail in the verdict on a run that the watcher has aborted for one
of them; and a program in which nothing comes due is judged. -/
theorem verdict_faithful_iff_twice : ∃ moves r s client timed,
    (Run.begin 1 [Threshold.anyCheck] (Book.empty.recordAll [.breach "checks"])).play? moves =
      some r ∧ r.aborted ∧
    Settings.load (withStages "0:1s") noPlan = .ok s ∧ Client.build s.client = .ok client ∧
    play s = .ok timed ∧
    Threshold.Faithful [.anyCheck, .anyCheck] (Book.empty.recordAll [.breach "checks"]) r.book
      (Threshold.evaluateAll [.anyCheck, .anyCheck] r.book) ∧
    Judges s timed (run (withStages "0:1s") noPlan).code := by
  have hmoves : (Run.begin 1 [Threshold.anyCheck]
      (Book.empty.recordAll [.breach "checks"])).play?
      [.look, .watch .zero, .notice, .look, .finish] =
    some { Run.begin 1 [Threshold.anyCheck] (Book.empty.recordAll [.breach "checks"]) with
      phase := .over, raised := true, watched := false, aborted := true } := by decide +kernel
  have hrun : ((Settings.load (withStages "0:1s") noPlan).toOption.any fun s =>
      (Client.build s.client).toOption.any fun _ =>
        (play s).toOption.any fun _ => true) = true := by decide +kernel
  obtain ⟨s, hload, hrun⟩ := any_toOption.1 hrun
  obtain ⟨client, hclient, hrun⟩ := any_toOption.1 hrun
  obtain ⟨timed, hplay, -⟩ := any_toOption.1 hrun
  obtain ⟨hfaithful, -, hcode, -⟩ :=
    verdict_faithful_iff [.anyCheck, .anyCheck] hmoves hload hclient
  exact ⟨_, _, s, client, timed, hmoves, rfl, hload, hclient, hplay, hfaithful, hcode timed hplay⟩

/-- A program whose settings and client are in order need not end with one of the two codes: of a
rate so small an iteration takes longer than a span can. -/
theorem code_not_judged : ¬ ∀ (env : Environment) (text : String → Except String String)
    (s : Settings) (client : Client), Settings.load env text = .ok s →
      Client.build s.client = .ok client → (run env text).code = 0 ∨ (run env text).code = 99 := by
  intro hcodes
  have hrun : ((Settings.load (withStages "1e-300:1s") noPlan).toOption.any fun s =>
      (Client.build s.client).toOption.any fun _ => true) = true := by decide +kernel
  obtain ⟨s, hload, hrun⟩ := any_toOption.1 hrun
  obtain ⟨client, hclient, -⟩ := any_toOption.1 hrun
  have hcode : (run (withStages "1e-300:1s") noPlan).code = 101 := by decide +kernel
  have htwo := hcodes _ _ s client hload hclient
  rw [hcode] at htwo
  exact absurd htwo (by decide)

end Program

end FedLoad
