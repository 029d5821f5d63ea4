import FedLoad.Proofs.Plan.Acceptance
import Mathlib.Data.List.Nodup
import Mathlib.Data.List.Range
/-!
# What a review reports

Every field of a plan has a condition of its own, and a path: the names of the fields around it and
its own name, separated by points. A review reports the fields whose condition does not hold, each
once and in a fixed order, and what it says about a field depends on that field alone.

The path is kept by going into fields and out of them again. A review leaves it as it was, whatever
it finds (`Findings.around_report`), so nothing that is wrong with one field can shift the path of
another.

Main statement: `Plan.accept_reports`.
-/
namespace FedLoad

open PlanError (objection?)

/-- What is asked of one field. -/
structure Constraint where
  /-- The names of the fields around it and its own name, separated by points. -/
  path : String
  holds : Prop
  /-- What there is to say against the field. -/
  objection : Option String

namespace Constraint

/-- The constraint on a field that stands in another one. -/
def under (field : String) (c : Constraint) : Constraint := { c with path := field ++ "." ++ c.path }

/-- The fault that is reported. -/
def fault? (c : Constraint) : Option Fault := c.objection.map (.general c.path)

/-- Is there something to say against the field exactly if its condition does not hold? -/
def Apt (c : Constraint) : Prop := c.objection = none ↔ c.holds

end Constraint

/-! ## The constraints on a plan -/

/-- Is this the address of a server? -/
def IsAddress (url : String) : Prop :=
  (url.startsWith "http://" ∨ url.startsWith "https://") ∧ ∃ parts, Url.read url = .ok parts

/-- Is this the id of an actor: a path on the server, or an address? -/
def IsActorId (id : String) : Prop := id ≠ "" ∧ (id.startsWith "/" ∨ IsAddress id)

def PlanConfig.constraints (c : PlanConfig) : List Constraint :=
  [⟨"baseUrl", ∀ url, c.baseUrl = some url → IsAddress url,
      (c.baseUrl.bind Fault.ofUrl?).map Fault.message⟩,
    ⟨"maxVUs", ∀ n, c.maxUsers = some n → 1 ≤ n ∧ n ≤ userLimit,
      (c.maxUsers.bind fun n => Fault.ofRange? n 1 userLimit "maxVUs").map Fault.message⟩,
    ⟨"maxPages", ∀ n, c.maxPages = some n → 1 ≤ n ∧ n ≤ pageLimit,
      (c.maxPages.bind fun n => Fault.ofRange? n 1 pageLimit "maxPages").map Fault.message⟩,
    ⟨"timeout", ∀ w, c.timeout = some w → ∃ d, w.span = .ok d,
      c.timeout.bind fun w => objection? w.span⟩,
    ⟨"gracefulStop", ∀ w, c.gracefulStop = some w → ∃ d, w.span = .ok d,
      c.gracefulStop.bind fun w => objection? w.span⟩,
    ⟨"sleepTime", ∀ w, c.sleep = some w → ∃ p, w.pause = .ok p,
      c.sleep.bind fun w => objection? w.pause⟩]

namespace PlanLoad

/-- Of the fields of a constant load and of a ramp, those that the load needs. -/
def shapeConstraints (l : PlanLoad) : List Constraint :=
  match l.rate with
  | some rate =>
    [⟨"rate", IsRate rate, (Fault.ofRate? rate "rate").map Fault.message⟩,
      ⟨"duration", ∃ w, l.duration = some w ∧ w.Lasts, l.durationObjection?⟩]
  | none =>
    [⟨"stages", ∃ stages, WrittenStage.stages l.stages = .ok stages ∧ Ramp stages,
      l.stagesObjection?⟩]

def constraints (l : PlanLoad) : List Constraint :=
  ⟨"startRate", IsRate l.startRate, (Fault.ofRate? l.startRate "startRate").map Fault.message⟩ ::
  ⟨"timeUnit", ∀ w, l.timeUnit = some w → w.Lasts,
    l.timeUnit.bind fun w => w.zeroObjection? "timeUnit"⟩ ::
  l.shapeConstraints

end PlanLoad

namespace Plan

/-- The constraint on an actor; one without an id is let pass. -/
def actorConstraint (index : Nat) (a : Actor) : Constraint :=
  ⟨"[" ++ toString index ++ "]", ∀ id, a.id = some id → IsActorId id,
    if a.id.isSome then (Fault.ofActor? a).map Fault.message else none⟩

/-- The constraints on actors that are counted from `index`. -/
def actorConstraints (index : Nat) : List Actor → List Constraint
  | [] => []
  | a :: rest => actorConstraint index a :: actorConstraints (index + 1) rest

/-- The constraints on a plan, in the order of the review. -/
def constraints (p : Plan) : List Constraint :=
  [⟨"version", p.version ∈ supportedVersions, p.versionObjection?⟩] ++
  p.config.constraints.map (.under "config") ++
  ((p.load.map PlanLoad.constraints).getD []).map (.under "load") ++
  (actorConstraints 0 p.actors).map (.under "actors") ++
  [⟨"thresholds", ∀ entry ∈ p.entries, ∃ t, entry.2.threshold entry.1 = .ok t,
    objection? p.readThresholds⟩]

end Plan

/-! ## A review goes through the constraints -/

namespace Findings

/-- Reviews fields one after the other. -/
def report (f : Findings) (cs : List Constraint) : Findings :=
  cs.foldl (fun f c => f.object c.path c.objection) f

theorem faults_object (f : Findings) (field : String) (objection : Option String) :
    (f.object field objection).faults =
      f.faults ++ (objection.map (.general (f.enter field).path)).toList := by
  cases objection with
  | none => exact (List.append_nil _).symm
  | some message => rfl

theorem around_report (f : Findings) (cs : List Constraint) : (f.report cs).around = f.around := by
  induction cs generalizing f with
  | nil => rfl
  | cons c rest ih => exact (ih _).trans (around_object f c.path c.objection)

theorem faults_report (f : Findings) (cs : List Constraint) :
    (f.report cs).faults =
      f.faults ++ cs.filterMap fun c => c.objection.map (.general (f.enter c.path).path) := by
  induction cs generalizing f with
  | nil => exact (List.append_nil _).symm
  | cons c rest ih =>
    -- the path is the same for the rest, since the first field has been left again
    have hpath (field : String) :
        ((f.object c.path c.objection).enter field).path = (f.enter field).path := by
      simp only [path, enter, around_object]
    change ((f.object c.path c.objection).report rest).faults = _
    rw [ih, faults_object, List.append_assoc]
    simp only [hpath, List.filterMap_cons]
    cases c.objection <;> rfl

/-- A review that began at the outermost place is there again, and has found on its way the faults of
these constraints. -/
structure Reports (f : Findings) (cs : List Constraint) (g : Findings) : Prop where
  around : g.around = []
  faults : g.faults = f.faults ++ cs.filterMap Constraint.fault?

theorem Reports.trans {f g h : Findings} {cs ds : List Constraint} (hf : f.Reports cs g)
    (hg : g.around = [] → g.Reports ds h) : f.Reports (cs ++ ds) h where
  around := (hg hf.around).around
  faults := by rw [(hg hf.around).faults, hf.faults, List.filterMap_append, List.append_assoc]

/-- At the outermost place the path to a field is its name. -/
theorem reports_report {f : Findings} (h : f.around = []) (cs : List Constraint) :
    f.Reports cs (f.report cs) where
  around := (around_report f cs).trans h
  faults := by
    have hpath (field : String) : (f.enter field).path = field := by
      rw [path, enter, h]
      rfl
    rw [faults_report]
    simp only [hpath]
    rfl

/-- Inside a field the path to another one has both names. -/
theorem reports_within {f : Findings} (h : f.around = []) (field : String) (cs : List Constraint) :
    f.Reports (cs.map (.under field)) (f.within field (·.report cs)) where
  around := (around_within fun g => around_report g cs).trans h
  faults := by
    have hpath (inner : String) : ((f.enter field).enter inner).path = field ++ "." ++ inner := by
      rw [path, enter, enter, h]
      rfl
    change ((f.enter field).report cs).faults = _
    rw [faults_report, List.filterMap_map]
    simp only [hpath]
    rfl

end Findings

theorem PlanConfig.review_eq (c : PlanConfig) : c.review = (·.report c.constraints) := rfl

theorem PlanLoad.review_eq (l : PlanLoad) : l.review = (·.report l.constraints) := by
  funext f
  unfold review reviewShape constraints shapeConstraints
  cases l.rate <;> rfl

namespace Plan

theorem reviewActors_eq (f : Findings) (index : Nat) (actors : List Actor) :
    reviewActors f index actors = f.report (actorConstraints index actors) := by
  induction actors generalizing f index with
  | nil => rfl
  | cons a rest ih =>
    -- an actor without an id is passed over, which is to look at it and find nothing
    have hfirst : (if a.id.isSome then f.check s!"[{index}]" (Fault.ofActor? a) else f) =
        f.object (actorConstraint index a).path (actorConstraint index a).objection := by
      unfold actorConstraint
      split <;> rfl
    unfold reviewActors
    rw [hfirst]
    exact ih _ _

theorem reports_reviewLoad {p : Plan} {f : Findings} (h : f.around = []) :
    f.Reports (((p.load.map PlanLoad.constraints).getD []).map (.under "load")) (p.reviewLoad f) := by
  unfold reviewLoad
  cases p.load with
  | none => exact ⟨h, (List.append_nil _).symm⟩
  | some l =>
    dsimp only
    rw [l.review_eq]
    exact Findings.reports_within h "load" l.constraints

/-- A review finds the faults of the constraints, one after the other. -/
theorem faults_review (p : Plan) : p.review.faults = p.constraints.filterMap Constraint.fault? := by
  have hversion := Findings.reports_report (f := .none) rfl
    [⟨"version", p.version ∈ supportedVersions, p.versionObjection?⟩]
  have hconfig := hversion.trans fun h => Findings.reports_within h "config" p.config.constraints
  have hload := hconfig.trans fun h => p.reports_reviewLoad h
  have hactors := hload.trans fun h =>
    Findings.reports_within h "actors" (actorConstraints 0 p.actors)
  have hthresholds := hactors.trans fun h => Findings.reports_report h
    [⟨"thresholds", ∀ entry ∈ p.entries, ∃ t, entry.2.threshold entry.1 = .ok t,
      objection? p.readThresholds⟩]
  unfold review
  simp only [reviewActors_eq]
  exact hthresholds.faults

end Plan

/-! ## An objection is made exactly where a condition fails -/

theorem Fault.ofUrl?_eq_none {url : String} : ofUrl? url = none ↔ IsAddress url := by
  unfold ofUrl? IsAddress
  split
  · next hempty =>
    rw [String.isEmpty_iff.1 hempty]
    simp
  · split
    · next hstart =>
      simp only [Bool.and_eq_true, Bool.not_eq_true'] at hstart
      simp [hstart]
    · next hstart =>
      have hstart : url.startsWith "http://" ∨ url.startsWith "https://" := by
        simpa [Decidable.or_iff_not_imp_left] using hstart
      rw [and_iff_right hstart]
      cases Url.read url <;> simp

theorem Fault.ofActor?_eq_none {a : Actor} {id : String} (h : a.id = some id) :
    ofActor? a = none ↔ IsActorId id := by
  unfold ofActor? IsActorId
  rw [h]
  dsimp only
  split
  · next hempty => simp [String.isEmpty_iff.1 hempty]
  · next hempty =>
    rw [String.isEmpty_iff] at hempty
    split
    · next hpath => simp [hempty, hpath]
    · next hpath => simp [hempty, hpath, ofUrl?_eq_none]

theorem WrittenThreshold.exists_thresholds {entries : List (String × WrittenThreshold)} :
    (∃ ts, thresholds entries = .ok ts) ↔
      ∀ entry ∈ entries, ∃ t, entry.2.threshold entry.1 = .ok t := by
  induction entries with
  | nil => simp [thresholds]
  | cons entry rest ih =>
    obtain ⟨metric, w⟩ := entry
    rw [List.forall_mem_cons, ← ih, thresholds]
    cases w.threshold metric with
    | error e => simp
    | ok t => cases thresholds rest <;> simp

theorem PlanConfig.apt_constraints (c : PlanConfig) : ∀ k ∈ c.constraints, k.Apt := by
  simp [constraints, Constraint.Apt, Fault.ofUrl?_eq_none, Fault.ofRange?_eq_none,
    PlanError.objection?_eq_none]

theorem PlanLoad.apt_constraints (l : PlanLoad) : ∀ k ∈ l.constraints, k.Apt := by
  unfold constraints shapeConstraints
  cases l.rate <;>
    simp [Constraint.Apt, Fault.ofRate?_eq_none, WrittenSpan.zeroObjection?_eq_none,
      durationObjection?_eq_none, stagesObjection?_eq_none]

namespace Plan

theorem apt_actorConstraint (index : Nat) (a : Actor) : (actorConstraint index a).Apt := by
  unfold actorConstraint Constraint.Apt
  dsimp only
  cases hid : a.id with
  | none => simp
  | some id =>
    rw [Option.isSome_some, if_pos rfl, Option.map_eq_none_iff, Fault.ofActor?_eq_none hid]
    simp

theorem apt_actorConstraints (index : Nat) (actors : List Actor) :
    ∀ k ∈ actorConstraints index actors, k.Apt := by
  induction actors generalizing index with
  | nil => simp [actorConstraints]
  | cons a rest ih => exact List.forall_mem_cons.2 ⟨apt_actorConstraint index a, ih (index + 1)⟩

theorem apt_constraints (p : Plan) : ∀ k ∈ p.constraints, k.Apt := by
  have hload : ∀ k ∈ (p.load.map PlanLoad.constraints).getD [], k.Apt := by
    cases p.load with
    | none => simp
    | some l => exact l.apt_constraints
  simp only [constraints, List.forall_mem_append, List.forall_mem_map, List.forall_mem_singleton]
  refine ⟨⟨⟨⟨versionObjection?_eq_none, ?_⟩, ?_⟩, ?_⟩, ?_⟩
  · exact p.config.apt_constraints
  · exact hload
  · exact apt_actorConstraints 0 p.actors
  · exact PlanError.objection?_eq_none.trans WrittenThreshold.exists_thresholds

end Plan

/-! ## Paths -/

/-- The paths to the fields that a load needs. -/
def PlanLoad.paths (l : PlanLoad) : List String :=
  ["load.startRate", "load.timeUnit"] ++
    if l.isConstant then ["load.rate", "load.duration"] else ["load.stages"]

theorem PlanLoad.paths_constraints (l : PlanLoad) :
    (l.constraints.map (.under "load")).map Constraint.path = l.paths := by
  unfold constraints shapeConstraints paths isConstant
  cases l.rate <;> rfl

namespace Plan

/-- The path to the actor with this index. -/
def actorPath (index : Nat) : String := "actors.[" ++ toString index ++ "]"

/-- The paths before those to the actors. -/
def leadingPaths (p : Plan) : List String :=
  ["version", "config.baseUrl", "config.maxVUs", "config.maxPages", "config.timeout",
    "config.gracefulStop", "config.sleepTime"] ++ (p.load.map PlanLoad.paths).getD []

/-- The paths to all fields that are looked at, in the order of the review. -/
def paths (p : Plan) : List String :=
  p.leadingPaths ++ (List.range' 0 p.actors.length).map actorPath ++ ["thresholds"]

theorem paths_actorConstraints (index : Nat) (actors : List Actor) :
    ((actorConstraints index actors).map (.under "actors")).map Constraint.path =
      (List.range' index actors.length).map actorPath := by
  induction actors generalizing index with
  | nil => rfl
  | cons a rest ih =>
    have hfirst : ((actorConstraint index a).under "actors").path = actorPath index := by
      simp [Constraint.under, actorConstraint, actorPath, String.ext_iff]
    simp only [actorConstraints, List.map_cons, hfirst, ih, List.length_cons, List.range'_succ]

theorem paths_constraints (p : Plan) : p.constraints.map Constraint.path = p.paths := by
  have hload : (((p.load.map PlanLoad.constraints).getD []).map (.under "load")).map
      Constraint.path = (p.load.map PlanLoad.paths).getD [] := by
    cases p.load with
    | none => rfl
    | some l => exact l.paths_constraints
  simp only [constraints, List.map_append, hload, paths_actorConstraints]
  rfl

theorem actorPath_injective : Function.Injective actorPath := by
  intro m n h
  have hdigits : Nat.toDigits 10 m = Nat.toDigits 10 n := by
    simpa [actorPath] using congrArg String.toList h
  rw [← Nat.ofDigitChars_ten_toDigits (n := m), hdigits, Nat.ofDigitChars_ten_toDigits]

/-- No two fields have one path. -/
theorem nodup_paths (p : Plan) : p.paths.Nodup := by
  have hperm : p.paths.Perm
      ((p.leadingPaths ++ ["thresholds"]) ++ (List.range' 0 p.actors.length).map actorPath) := by
    rw [paths, List.append_assoc, List.append_assoc]
    exact List.perm_append_comm.append_left _
  -- apart from the actors there are three cases, with fixed names in each
  have hfixed : (p.leadingPaths ++ ["thresholds"]).Nodup ∧
      ∀ path ∈ p.leadingPaths ++ ["thresholds"], path.toList.head? ≠ some 'a' := by
    unfold leadingPaths PlanLoad.paths
    cases p.load with
    | none => decide
    | some l =>
      rw [Option.map_some, Option.getD_some]
      cases l.isConstant <;> decide
  rw [hperm.nodup_iff, List.nodup_append]
  refine ⟨hfixed.1, List.Nodup.map actorPath_injective List.nodup_range', ?_⟩
  intro path hpath other hother heq
  obtain ⟨index, -, rfl⟩ := List.mem_map.1 hother
  refine hfixed.2 path hpath ?_
  rw [heq, actorPath]
  simp

/-! ## The report -/

/-- The constraints all hold exactly if the review is clean. -/
theorem accept_eq_self {p : Plan} : p.accept = .ok p ↔ ∀ c ∈ p.constraints, c.holds := by
  have hclean : p.review.isClean ↔ ∀ c ∈ p.constraints, c.objection = none := by
    rw [Findings.isClean, faults_review, List.isEmpty_iff, List.filterMap_eq_nil_iff]
    simp only [Constraint.fault?, Option.map_eq_none_iff]
  rw [accept_eq_ok, and_iff_right rfl, ← isClean_review, hclean]
  exact forall₂_congr p.apt_constraints

/-- A plan is accepted exactly if everything that is asked of its fields holds. Otherwise the error
has one entry for each field of which something does not hold, in the order of the review, with the
full path to the field and what there is to say against this field. -/
theorem accept_reports (p : Plan) :
    (p.accept = .ok p ↔ ∀ c ∈ p.constraints, c.holds) ∧
    (∀ c ∈ p.constraints, c.objection = none ↔ c.holds) ∧
    p.constraints.map Constraint.path = p.paths ∧ p.paths.Nodup ∧
    ∀ e, p.accept = .error e → e.message =
      "Invalid configuration: Multiple validation errors: " ++
        "; ".intercalate (p.constraints.filterMap fun c =>
          c.objection.map fun said => s!"Field '{c.path}': {said}") := by
  refine ⟨accept_eq_self, p.apt_constraints, p.paths_constraints, p.nodup_paths, fun e he => ?_⟩
  have hentries : p.review.faults.map Fault.message = p.constraints.filterMap fun c =>
      c.objection.map fun said => s!"Field '{c.path}': {said}" := by
    rw [faults_review, List.map_filterMap]
    simp only [Constraint.fault?, Option.map_map]
    rfl
  unfold accept at he
  split at he
  · cases he
  · cases he
    rw [← hentries]
    rfl

/-- A plan with faults at its beginning, at its end and in between, one of them in its second
actor. -/
def faulty : Plan where
  version := "2.0"
  notes := .none
  config := { PlanConfig.none with maxUsers := some 0, timeout := some (.text "10") }
  load := some ⟨0.0, none, [], none, none⟩
  actors := [.ofId "/alice", .ofId ""]
  thresholds := [("latency", [.short "max<1"])]

/-- Nothing that is wrong before a field shifts its path. -/
theorem accept_reports_faulty : ∃ e, faulty.accept = .error e ∧ e.message =
    "Invalid configuration: Multiple validation errors: " ++ "; ".intercalate [
      "Field 'version': Unsupported version '2.0'. Supported: 1.0",
      "Field 'config.maxVUs': Field 'maxVUs': value 0 is out of range (1 to 100000)",
      "Field 'config.timeout': Invalid configuration: Invalid duration '10': " ++
        "Unknown duration unit: '0'. Use 'ms', 's', 'm', 'h', or 'd'.",
      "Field 'load.stages': Field 'stages' is required but not provided",
      "Field 'actors.[1]': Field 'id' is required but not provided",
      "Field 'thresholds': Invalid threshold for 'latency': Unknown metric 'latency'. " ++
        "Expected error_rate, error_rate\x7berrorType:...\x7d, checks or http_req_duration"] := by
  have hrejected : faulty.accept = .error (.review faulty.review) :=
    if_neg (by decide +kernel)
  refine ⟨.review faulty.review, hrejected, ?_⟩
  rw [faulty.accept_reports.2.2.2.2 _ hrejected]
  decide +kernel

end Plan

end FedLoad
