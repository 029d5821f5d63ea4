import FedLoad.Proofs.Load.Sound
import FedLoad.Proofs.Run.Verdict
import FedLoad.Proofs.Span.Reading
/-!
# The length of a ramp

The length of a ramp is the sum of the durations of its stages. They are added one after the other,
and no sum on the way may reach the limit of spans; since durations are not negative, that is to say
that the last sum does not (`foldlM_add`).

Neither the reader of stages nor the review of a plan looks at this sum, so a ramp that they let pass
may be too long, though no stage that is read from a text is so by itself
(`Stage.duration_lt_limit`). Its length is asked for when the settings are shown and again when the
run begins, and nothing else in a run fails as it does: the time until the next look at the clock is
not a sum (`Tick.after_ne_sumTooLong`).

Main statement: `Program.length_iff`.
-/
namespace FedLoad

/-! ## Sums on the way -/

namespace Span

/-- Adds a span, if the sum stays below the limit. -/
def add? (a b : Span) : Except Fault Span :=
  if a + b < limit then .ok (a + b) else .error .sumTooLong

theorem foldlM_add_from (start : Span) (spans : List Span) (h : start < limit) :
    spans.foldlM add? start =
      if start + sum spans < limit then .ok (start + sum spans) else .error .sumTooLong := by
  induction spans generalizing start with
  | nil => exact (if_pos h).symm
  | cons s rest ih =>
    have hsum : start + sum (s :: rest) = start + s + sum rest :=
      congrArg mk (Nat.add_assoc ..).symm
    rw [List.foldlM_cons, hsum]
    by_cases hstep : start + s < limit
    · rw [add?, if_pos hstep]
      exact ih _ hstep
    · have hlater : ¬ start + s + sum rest < limit := fun hlt =>
        hstep (Nat.lt_of_le_of_lt (Nat.le_add_right _ _) hlt)
      rw [add?, if_neg hstep, if_neg hlater]
      rfl

/-- Adding spans one by one, with a look at the limit each time, comes to the same as looking at the
last sum. -/
theorem foldlM_add (spans : List Span) : spans.foldlM add? zero = total spans := by
  have hsum : zero + sum spans = sum spans := congrArg mk (Nat.zero_add _)
  rw [foldlM_add_from zero spans (by decide +kernel), hsum]
  rfl

theorem total_eq_error_iff {spans : List Span} {fault : Fault} :
    total spans = .error fault ↔ fault = .sumTooLong ∧ ¬ sum spans < limit := by
  unfold total
  split <;> simp_all [eq_comm]

theorem ofFloatSeconds_ne_sumTooLong (x : Float) : ofFloatSeconds x ≠ .error .sumTooLong := by
  unfold ofFloatSeconds
  cases Double.ofFloat x with
  | nan => nofun
  | infinite negative => cases negative <;> nofun
  | finite negative m e =>
    dsimp only
    split
    · nofun
    · split
      · nofun
      · split <;> nofun

end Span

theorem Tick.after_ne_sumTooLong (m : LoadModel Float) (time : Float) :
    after m time ≠ .error .sumTooLong := by
  unfold after
  dsimp only
  split
  · split
    · nofun
    · next fault hfault =>
      rintro ⟨⟩
      exact Span.ofFloatSeconds_ne_sumTooLong _ hfault
  · nofun

/-! ## Stages that are read -/

namespace Stage

variable {text : String} {stages : List (Stage Float)}

theorem duration_lt_limit (h : readList text = .ok stages) :
    ∀ stage ∈ stages, stage.duration < Span.limit := by
  intro stage hstage
  obtain ⟨part, hpart⟩ := exists_of_readList h stage hstage
  obtain ⟨-, t, hread⟩ := parts_of_readChars hpart
  exact Span.lt_limit_of_readChars hread

/-- A single stage that is read is not too long. -/
theorem one_lt_length_of_total_error {fault : Span.Fault} (h : readList text = .ok stages)
    (htotal : Span.total (stages.map duration) = .error fault) : 1 < stages.length := by
  have hlong := (Span.total_eq_error_iff.1 htotal).2
  cases stages with
  | nil => exact absurd (by decide +kernel) hlong
  | cons stage rest =>
    cases rest with
    | nil => exact absurd (duration_lt_limit h stage List.mem_cons_self) hlong
    | cons next more => simp

end Stage

/-! ## Ramps in a program -/

namespace Program

/-- A run fails on a sum just if the length of its load does. -/
theorem play_eq_sumTooLong_iff {s : Settings} :
    play s = .error .sumTooLong ↔ s.model.total = .error .sumTooLong := by
  constructor
  · intro h
    obtain htotal | ⟨millis, hafter⟩ := Run.playOnClock_error h
    · exact htotal
    · exact absurd hafter (Tick.after_ne_sumTooLong _ _)
  · intro h
    rw [play, Run.playOnClock, h]

theorem overview_eq_ok_iff {s : Settings} {headers : Headers} :
    (∃ overview, s.overview headers = .ok overview) ↔ ∃ total, s.model.total = .ok total := by
  unfold Settings.overview
  cases s.model.total <;> simp [Except.map]

/-- The complaint tells the faults apart. -/
theorem fault_eq_of_giveUp {shown shown' : String} {f g : Span.Fault}
    (h : giveUp shown f = giveUp shown' g) : f = g := by
  have hcomplaint : f.message ++ "\n" = g.message ++ "\n" := congrArg Ending.complaint h
  cases f <;> cases g <;> first | rfl | exact absurd hcomplaint (by decide)

/-- Settings and client in order, a load that is too long is the end of the program once the load has
been shown, and nothing else ends it with this fault. -/
theorem run_eq_giveUp_iff {env : Environment} {text : String → Except String String} {s : Settings}
    {client : Client} (hload : Settings.load env text = .ok s)
    (hclient : Client.build s.client = .ok client) :
    run env text = giveUp s.opening .sumTooLong ↔ s.model.total = .error .sumTooLong := by
  unfold run
  simp only [hload, hclient]
  cases htotal : s.model.total with
  | error fault =>
    simp only [Settings.overview, htotal, Except.map]
    exact ⟨fun h => congrArg _ (fault_eq_of_giveUp h), fun h => by rw [Except.error.inj h]⟩
  | ok total =>
    simp only [Settings.overview, htotal, Except.map]
    refine iff_of_false (fun h => ?_) (fun hfault => by cases hfault)
    cases hplay : play s with
    | error fault =>
      rw [hplay] at h
      rw [fault_eq_of_giveUp h, play_eq_sumTooLong_iff, htotal] at hplay
      cases hplay
    | ok timed =>
      -- a program that comes to its report has nothing to complain about
      rw [hplay] at h
      have hnothing : "" = Span.Fault.sumTooLong.message ++ "\n" := congrArg Ending.complaint h
      exact absurd hnothing (by decide)

/-- A ramp has a length, and can be shown, exactly if the durations of its stages add up to less than
the limit of spans. Otherwise the run fails on the sum, and the program that has taken the ramp from
its settings is over when it has shown the ramp. -/
theorem length_iff (s : Settings) (startRate : Float) (timeUnit : Span)
    (stages : List (Stage Float)) :
    let ramp : Settings := { s with model := .ramping startRate timeUnit stages }
    let length := Span.sum (stages.map Stage.duration)
    ramp.model.total = (stages.map Stage.duration).foldlM Span.add? .zero ∧
    (ramp.model.total = .ok length ↔ length < Span.limit) ∧
    (ramp.model.total = .error .sumTooLong ↔ ¬ length < Span.limit) ∧
    (∀ headers, (∃ overview, ramp.overview headers = .ok overview) ↔ length < Span.limit) ∧
    (play ramp = .error .sumTooLong ↔ ¬ length < Span.limit) ∧
    ∀ env text client, Settings.load env text = .ok ramp → Client.build ramp.client = .ok client →
      (run env text = giveUp ramp.opening .sumTooLong ↔ ¬ length < Span.limit) := by
  intro ramp length
  have hlength : ramp.model.total = .ok length ↔ length < Span.limit :=
    Span.total_eq_ok_iff.trans (and_iff_right rfl)
  have hresult : (∃ total, ramp.model.total = .ok total) ↔ length < Span.limit := by
    refine ⟨fun ⟨total, htotal⟩ => (Span.total_eq_ok_iff.1 htotal).2, fun h => ⟨length, ?_⟩⟩
    exact hlength.2 h
  have hfault : ramp.model.total = .error .sumTooLong ↔ ¬ length < Span.limit :=
    Span.total_eq_error_iff.trans (and_iff_right rfl)
  exact ⟨(Span.foldlM_add _).symm, hlength, hfault, fun headers => overview_eq_ok_iff.trans hresult,
    play_eq_sumTooLong_iff.trans hfault,
    fun env text client hload hclient => (run_eq_giveUp_iff hload hclient).trans hfault⟩

/-- The reader of stages and the review both let stages pass that take too long together. -/
theorem not_length_of_accepted : ¬ ∀ text stages, Stage.readList text = .ok stages →
    Fault.ofStages? stages = none → ∀ startRate timeUnit, ∃ total,
      (LoadModel.ramping startRate timeUnit stages).total = .ok total := by
  intro hall
  have hread : ((Stage.readList "0:18446744073709551615s,0:1s").toOption.any fun stages =>
      (Fault.ofStages? stages).isNone &&
        decide (Span.limit ≤ Span.sum (stages.map Stage.duration))) = true := by decide +kernel
  obtain ⟨stages, hread, hlong⟩ := any_toOption.1 hread
  simp only [Bool.and_eq_true, Option.isNone_iff_eq_none, decide_eq_true_eq] at hlong
  obtain ⟨total, htotal⟩ := hall _ stages hread hlong.1 0.0 (.ofSeconds 1)
  exact Nat.not_lt_of_le hlong.2 (Span.total_eq_ok_iff.1 htotal).2

end Program

end FedLoad
