import FedLoad.Check.Basic
import FedLoad.Proofs.Json.Equality
import FedLoad.Proofs.Keyed
/-!
# What running checks comes to

What a check asks for is said here of the response alone, and so is what a sample of a defect says.
A run judges each check by that, whatever came before and whatever else is asked, and enters what it
judged: each check once under its name, and a sample for each defect that the check looks for, with
an outcome of its own. A check that is given twice counts twice, and checks of one name count
together.

One check is a step (`Tally.gains_check`), so the gain of a list is by induction on it.

Main statement: `Check.run_outcomes`.
-/
namespace FedLoad

/-! ## What is asked for -/

namespace Response

/-- The content type begins like an allowed one. -/
def HasMediaType (r : Response) : Prop := ∃ m ∈ mediaTypes, m.toList <+: r.contentType.toList

/-- The object in the body has one of these types. -/
def HasTypeIn (allowed : List String) (r : Response) : Prop :=
  ∃ t ∈ allowed, r.json.field? "type" = some (.text t)

end Response

namespace Check

/-- Is what a check asks for there? -/
def Met (r : Response) : Check → Prop
  | .status => r.status = some 200
  | .media => r.HasMediaType ∧ r.body ≠ ""
  | .typeIn allowed => r.HasTypeIn allowed
  | .body => r.json ≠ .null ∧ r.json ≠ .record [] ∧ r.json ≠ .list [] ∧ r.json ≠ .text ""
  | .property name expected => ∀ actual, r.json.field? name = some actual → actual.Equal expected

/-- What a sample of a defect says, for the checks that take one. -/
def sampled? (r : Response) : Defect → Check → Option Prop
  | .status, .status => some (r.status = some 200)
  | .contentType, .media => some r.HasMediaType
  | .bodySize, .media => some (r.body ≠ "")
  | .objectType, .typeIn allowed => some (r.HasTypeIn allowed)
  | _, _ => none

variable {r : Response}

theorem statusHolds_iff : statusHolds r = true ↔ r.status = some 200 := beq_iff_eq

theorem contentTypeHolds_iff : contentTypeHolds r = true ↔ r.HasMediaType := by
  simp only [contentTypeHolds, List.any_eq_true, String.startsWith_string_iff,
    Response.HasMediaType]

theorem bodyHolds_iff : bodyHolds r = true ↔ r.body ≠ "" := by
  rw [bodyHolds, Bool.not_eq_true', ← Bool.not_eq_true, String.isEmpty_iff]

theorem typeHolds_iff {allowed : List String} :
    typeHolds allowed r = true ↔ r.HasTypeIn allowed := by
  unfold typeHolds Response.objectType Response.HasTypeIn
  cases r.json.field? "type" with
  | none => simp
  | some j => cases j <;> simp [Json.text?]

theorem isPresent_iff {j : Json} :
    isPresent j = true ↔ j ≠ .null ∧ j ≠ .record [] ∧ j ≠ .list [] ∧ j ≠ .text "" := by
  cases j <;> simp [isPresent]

/-- A check holds of just those responses that meet it. -/
theorem holds_iff (c : Check) : c.holds r = true ↔ c.Met r := by
  rw [holds, Option.isNone_iff_eq_none]
  cases c with
  | status => simp [failure?, Met, ← statusHolds_iff]
  | media =>
    rw [Met, ← contentTypeHolds_iff, ← bodyHolds_iff]
    cases hmedia : contentTypeHolds r <;> cases hbody : bodyHolds r <;>
      simp [failure?, hmedia, hbody]
  | typeIn allowed => simp [failure?, Met, ← typeHolds_iff]
  | body => simp [failure?, Met, ← isPresent_iff]
  | property name expected =>
    cases hfield : r.json.field? name with
    | none => simp [failure?, Met, hfield]
    | some actual => simp [failure?, Met, hfield, ← Json.same_iff]

end Check

/-! ## Rates of statements -/

namespace Rate

open Classical in
/-- So many statements were made, and those that are false failed. -/
noncomputable def ofStatements (statements : List Prop) : Rate :=
  ⟨statements.length, statements.countP fun p => ¬ p⟩

theorem plus_eq (a b : Rate) : a + b = ⟨a.total + b.total, a.failed + b.failed⟩ := rfl

theorem plus_ofStatements_nil (a : Rate) : a + ofStatements [] = a := rfl

/-- What is stated later is counted on top of what was stated before. -/
theorem plus_ofStatements_append (a : Rate) (xs ys : List Prop) :
    a + ofStatements (xs ++ ys) = a + ofStatements xs + ofStatements ys := by
  simp only [ofStatements, plus_eq, List.length_append, List.countP_append, Nat.add_assoc]

theorem add_eq {a : Rate} {passed : Bool} {p : Prop} (h : passed = true ↔ p) :
    a.add passed = a + ofStatements [p] := by
  by_cases hp : p
  · simp [add, plus_eq, ofStatements, h.2 hp, hp]
  · simp [add, plus_eq, ofStatements, Bool.eq_false_iff.2 (mt h.1 hp), hp]

end Rate

/-! ## The gain of a tally -/

namespace Tally

/-- From `t` to `t'` these checks were run on this response, and nothing else happened. -/
structure Gains (t t' : Tally) (ran : List Check) (r : Response) : Prop where
  checks : t'.checks = t.checks + .ofStatements (ran.map (Check.Met r))
  named : ∀ name, (t'.byCheck.lookup name).getD .zero = (t.byCheck.lookup name).getD .zero +
    .ofStatements ((ran.filter (·.name = name)).map (Check.Met r))
  unnamed : ∀ name, (∀ c ∈ ran, c.name ≠ name) → t'.byCheck.lookup name = t.byCheck.lookup name
  samples : t'.samples = t.samples +
    .ofStatements (ran.flatMap fun c => Defect.all.filterMap (Check.sampled? r · c))
  byDefect : ∀ d, t'.byDefect.get d = t.byDefect.get d +
    .ofStatements (ran.filterMap (Check.sampled? r d))
  latencies : t'.latencies = t.latencies
  iterations : t'.iterations = t.iterations
  dropped : t'.dropped = t.dropped
  pages : t'.pages = t.pages

variable {t t' t'' : Tally} {xs ys : List Check} {r : Response}

theorem Gains.refl (t : Tally) (r : Response) : t.Gains t [] r := by
  constructor <;> simp [Rate.plus_ofStatements_nil]

theorem Gains.trans (h : t.Gains t' xs r) (h' : t'.Gains t'' ys r) : t.Gains t'' (xs ++ ys) r where
  checks := by rw [h'.checks, h.checks, List.map_append, Rate.plus_ofStatements_append]
  named name := by
    rw [h'.named, h.named, List.filter_append, List.map_append, Rate.plus_ofStatements_append]
  unnamed name hnone := by
    obtain ⟨hxs, hys⟩ := List.forall_mem_append.1 hnone
    rw [h'.unnamed name hys, h.unnamed name hxs]
  samples := by rw [h'.samples, h.samples, List.flatMap_append, Rate.plus_ofStatements_append]
  byDefect d := by
    rw [h'.byDefect, h.byDefect, List.filterMap_append, Rate.plus_ofStatements_append]
  latencies := h'.latencies.trans h.latencies
  iterations := h'.iterations.trans h.iterations
  dropped := h'.dropped.trans h.dropped
  pages := h'.pages.trans h.pages

/-- The samples that a check takes are entered under their defects, and nothing else is. -/
theorem recordAll_samples_eq (t : Tally) (c : Check) (r : Response) :
    ∃ rates, t.recordAll (c.samples r) =
        { t with
          samples := t.samples + .ofStatements (Defect.all.filterMap (Check.sampled? r · c))
          byDefect := rates } ∧
      ∀ d, rates.get d = t.byDefect.get d + .ofStatements (Check.sampled? r d c).toList := by
  cases c with
  | status =>
    have hstatus (a : Rate) :
        a.add (Check.statusHolds r) = a + .ofStatements [r.status = some 200] :=
      Rate.add_eq Check.statusHolds_iff
    refine ⟨t.byDefect.add .status (Check.statusHolds r), ?_, fun d => ?_⟩
    · simp only [recordAll, Check.samples, List.foldl_cons, List.foldl_nil, record, hstatus]
      rfl
    · rw [DefectRates.get_add, hstatus]
      cases d <;> rfl
  | media =>
    have hmedia (a : Rate) :
        a.add (Check.contentTypeHolds r) = a + .ofStatements [r.HasMediaType] :=
      Rate.add_eq Check.contentTypeHolds_iff
    have hbody (a : Rate) : a.add (Check.bodyHolds r) = a + .ofStatements [r.body ≠ ""] :=
      Rate.add_eq Check.bodyHolds_iff
    refine ⟨(t.byDefect.add .contentType (Check.contentTypeHolds r)).add .bodySize
      (Check.bodyHolds r), ?_, fun d => ?_⟩
    · simp only [recordAll, Check.samples, List.foldl_cons, List.foldl_nil, record, hmedia, hbody,
        ← Rate.plus_ofStatements_append]
      rfl
    · rw [DefectRates.get_add, DefectRates.get_add, hmedia, hbody]
      cases d <;> rfl
  | typeIn allowed =>
    have htype (a : Rate) :
        a.add (Check.typeHolds allowed r) = a + .ofStatements [r.HasTypeIn allowed] :=
      Rate.add_eq Check.typeHolds_iff
    refine ⟨t.byDefect.add .objectType (Check.typeHolds allowed r), ?_, fun d => ?_⟩
    · simp only [recordAll, Check.samples, List.foldl_cons, List.foldl_nil, record, htype]
      rfl
    · rw [DefectRates.get_add, htype]
      cases d <;> rfl
  | body | property => exact ⟨t.byDefect, rfl, fun d => by cases d <;> rfl⟩

/-- One check is entered once under its name, and each of its samples under its defect. -/
theorem gains_check (hnames : Keyed.Ascending t.byCheck) (c : Check) (r : Response) :
    t.Gains (t.recordAll (c.events r)) [c] r := by
  obtain ⟨rates, hsamples, hrates⟩ := t.recordAll_samples_eq c r
  have hadd (a : Rate) : a.add (c.holds r) = a + .ofStatements [c.Met r] :=
    Rate.add_eq c.holds_iff
  have hevents : t.recordAll (c.events r) =
      (t.recordAll (c.samples r)).record (.check c.name (c.holds r)) := by
    rw [Check.events, recordAll, List.foldl_append]
    rfl
  rw [hevents, hsamples]
  constructor
  case checks => exact hadd t.checks
  case named =>
    intro name
    by_cases heq : c.name = name
    · subst heq
      rw [record, Keyed.lookup_alter hnames, Option.getD_some, hadd]
      simp
    · rw [record, Keyed.lookup_alter_of_ne (Ne.symm heq)]
      simp [heq, Rate.plus_ofStatements_nil]
  case unnamed =>
    intro name hne
    exact Keyed.lookup_alter_of_ne (hne c (List.mem_singleton_self c)).symm
  case samples => simp [record]
  case byDefect =>
    intro d
    rw [record, hrates]
    cases hsample : Check.sampled? r d c <;> simp only [List.filterMap_cons, hsample] <;> rfl
  all_goals rfl

theorem ascending_recordAll (hnames : Keyed.Ascending t.byCheck) (events : List Event) :
    Keyed.Ascending (t.recordAll events).byCheck := by
  induction events generalizing t with
  | nil => exact hnames
  | cons e rest ih =>
    refine ih ?_
    cases e with
    | check name passed => exact Keyed.ascending_alter hnames
    | _ => exact hnames

theorem gains_checks (hnames : Keyed.Ascending t.byCheck) (checks : List Check) (r : Response) :
    t.Gains (t.recordAll (checks.flatMap (Check.events r))) checks r := by
  induction checks generalizing t with
  | nil => exact .refl t r
  | cons c rest ih =>
    have hrest := ih (ascending_recordAll hnames (c.events r))
    have hall := (gains_check hnames c r).trans hrest
    rwa [recordAll, recordAll, ← List.foldl_append, ← List.flatMap_cons] at hall

end Tally

/-! ## The run -/

namespace Check

/-- A result has the name of the check, says whether it is met, and why if it is not. -/
structure Result.Tells (result : Result) (c : Check) (r : Response) : Prop where
  name : result.name = c.name
  passed : result.passed = true ↔ c.Met r
  message : result.message.isSome ↔ result.passed = false

theorem tells_result (c : Check) (r : Response) : (c.result r).Tells c r where
  name := rfl
  passed := c.holds_iff
  message := by
    rw [result, Option.isSome_map, holds]
    cases c.failure? r <;> simp

/-- Each check gives one result, in order, that tells of the check and the response alone, and the
tally gains what the checks and their samples come to, and nothing else. -/
theorem run_outcomes (checks : List Check) (r : Response) {book : Book}
    (hnames : Keyed.Ascending book.tally.byCheck) :
    List.Forall₂ (fun result c => result.Tells c r) (run checks r book).1 checks ∧
      book.tally.Gains (run checks r book).2.tally checks r := by
  refine ⟨?_, ?_⟩
  · rw [run, results, List.forall₂_map_left_iff]
    exact List.forall₂_same.2 fun c _ => tells_result c r
  · rw [run, Book.tally_recordAll]
    exact Tally.gains_checks hnames checks r

/-- A check that is given twice counts twice, and two properties that are written alike in capitals
count together, one that is there and one that is not. -/
theorem run_outcomes_repeated :
    let book := Book.empty.record (.check "status 200" true)
    let r : Response :=
      .answered "http://fedbox.local/" 404 "text/html" "\x7b\"name\": \"self\"\x7d" .zero
    let checks : List Check := [.status, .media, .property "name" (.text "other"), .status,
      .property "Name" (.text "other")]
    Keyed.Ascending book.tally.byCheck ∧
      List.Forall₂ (fun result c => result.Tells c r) (run checks r book).1 checks ∧
      book.tally.Gains (run checks r book).2.tally checks r ∧
      (run checks r book).2.tally.byCheck =
        [("is ActivityPub", ⟨1, 1⟩), ("property NAME", ⟨2, 1⟩), ("status 200", ⟨3, 2⟩)] := by
  intro book r checks
  have hnames : Keyed.Ascending book.tally.byCheck := List.pairwise_singleton _ _
  obtain ⟨hresults, hgains⟩ := run_outcomes checks r hnames
  exact ⟨hnames, hresults, hgains, by decide +kernel⟩

end Check

end FedLoad
