import FedLoad.Proofs.Client.Overlay
/-!
# Entries put together and cut apart

Texts are put together with commas, every comma of their own with a backslash before it. Cutting
gives them back exactly, those of a lone comma and those with backslashes before their commas
included, as long as none but the last ends in a backslash. In any text, a backslash that no comma
follows has no part in the cutting: what stands before it and what stands behind it are cut as if
they stood alone, and it stays between the two.

Main statement: `Headers.entries_writeEntries`.
-/
namespace FedLoad.Headers

open Text

/-- The texts with their commas escaped and commas between them. -/
def writeEntries (xs : List String) : String :=
  String.ofList ([','].intercalate (xs.map fun x => escapeCommas x.toList))

/-- The entries that are kept. -/
def shown (parts : List (List Char)) : List (List Char) := parts.filter fun e => !isAllBlank e

/-! ## What was put together -/

theorem isAllBlank_eq_false_iff {e : List Char} :
    isAllBlank e = false ↔ ∃ c ∈ e, isBlank c = false := by
  simp [isAllBlank]

theorem entries_of_written {xs : List String} (hshown : ∀ x ∈ xs, ∃ c ∈ x.toList, isBlank c = false)
    (hclosed : ∀ x ∈ xs.dropLast, x.toList.getLast? ≠ some '\\') :
    entries (writeEntries xs).toList = xs.map String.toList := by
  have hwritten : xs.map (fun x => escapeCommas x.toList) =
      (xs.map String.toList).map escapeCommas := by simp
  rw [entries, writeEntries, String.toList_ofList, hwritten]
  cases xs with
  | nil => rfl
  | cons x rest =>
    have hne : (x :: rest).map String.toList ≠ [] := List.cons_ne_nil _ _
    rw [cutEntries_intercalate hne]
    · refine List.filter_eq_self.2 fun e he => ?_
      obtain ⟨y, hy, rfl⟩ := List.mem_map.1 he
      simp [isAllBlank_eq_false_iff.2 (hshown y hy)]
    · intro e he
      rw [← List.map_dropLast] at he
      obtain ⟨y, hy, rfl⟩ := List.mem_map.1 he
      exact hclosed y hy

/-! ## Around a backslash -/

theorem cutEntries_ne_nil (s : List Char) : cutEntries s ≠ [] := by
  obtain ⟨parts, hcut, hparts⟩ := exists_isCut s
  intro hnil
  rw [hparts] at hnil
  exact hcut.nonempty (List.map_eq_nil_iff.1 hnil)

theorem isAllBlank_around (left right : List Char) : isAllBlank (left ++ '\\' :: right) = false :=
  isAllBlank_eq_false_iff.2 ⟨'\\', by simp, by decide⟩

/-- A character in front of a text does nothing to the end of the parts. -/
theorem exists_pushChar (c : Char) (before : List (List Char)) (left : List Char) :
    ∃ before' left', ∀ tail rest,
      pushChar c (before ++ (left ++ tail) :: rest) = before' ++ (left' ++ tail) :: rest := by
  cases before with
  | nil => exact ⟨[], c :: left, fun _ _ => rfl⟩
  | cons part before => exact ⟨(c :: part) :: before, left, fun _ _ => rfl⟩

/-- A backslash that no comma follows lengthens the last part of what stands before it, and the
first part of what stands behind it goes on from there. -/
theorem exists_cutEntries_around (front : List Char) {back : List Char}
    (h : back.head? ≠ some ',') : ∃ before left right behind,
    cutEntries front = before ++ [left] ∧ cutEntries back = right :: behind ∧
      cutEntries (front ++ '\\' :: back) = before ++ (left ++ '\\' :: right) :: behind := by
  fun_induction cutEntries front with
  | case1 =>
    obtain ⟨right, behind, hback⟩ := List.exists_cons_of_ne_nil (cutEntries_ne_nil back)
    refine ⟨[], [], right, behind, rfl, hback, ?_⟩
    rw [List.nil_append, cutEntries_cons (by decide) fun _ => h, hback]
    rfl
  | case2 rest ih =>
    obtain ⟨before, left, right, behind, hfront, hback, hwhole⟩ := ih
    obtain ⟨before', left', hpush⟩ := exists_pushChar ',' before left
    refine ⟨before', left', right, behind, ?_, hback, ?_⟩
    · simpa [hfront] using hpush [] []
    · rw [List.cons_append, List.cons_append, cutEntries, hwhole]
      exact hpush ('\\' :: right) behind
  | case3 rest ih =>
    obtain ⟨before, left, right, behind, hfront, hback, hwhole⟩ := ih
    refine ⟨[] :: before, left, right, behind, ?_, hback, ?_⟩
    · simp [hfront]
    · rw [List.cons_append, cutEntries, hwhole]
      rfl
  | case4 c rest hpair hcomma ih =>
    obtain ⟨before, left, right, behind, hfront, hback, hwhole⟩ := ih
    obtain ⟨before', left', hpush⟩ := exists_pushChar c before left
    -- what follows `c` now is what followed it before, or the backslash
    have hslash : c = '\\' → (rest ++ '\\' :: back).head? ≠ some ',' := by
      rintro rfl
      cases rest with
      | nil => simp
      | cons d rest =>
        intro hd
        obtain rfl : d = ',' := by simpa using hd
        exact hpair rest rfl rfl
    refine ⟨before', left', right, behind, ?_, hback, ?_⟩
    · simpa [hfront] using hpush [] []
    · rw [List.cons_append, cutEntries_cons hcomma hslash, hwhole]
      exact hpush ('\\' :: right) behind

/-- Texts that are put together are cut apart again, and a backslash that no comma follows keeps its
place in whatever text it stands. -/
theorem entries_writeEntries :
    (∀ xs : List String, (∀ x ∈ xs, ∃ c ∈ x.toList, isBlank c = false) →
      (∀ x ∈ xs.dropLast, x.toList.getLast? ≠ some '\\') →
      entries (writeEntries xs).toList = xs.map String.toList) ∧
    (∀ front back : List Char, back.head? ≠ some ',' → ∃ before left right behind,
      cutEntries front = before ++ [left] ∧ cutEntries back = right :: behind ∧
        entries (front ++ '\\' :: back) =
          shown before ++ (left ++ '\\' :: right) :: shown behind) := by
  refine ⟨fun xs => entries_of_written, fun front back h => ?_⟩
  obtain ⟨before, left, right, behind, hfront, hback, hwhole⟩ := exists_cutEntries_around front h
  refine ⟨before, left, right, behind, hfront, hback, ?_⟩
  rw [entries, hwhole, List.filter_append, List.filter_cons_of_pos]
  · rfl
  · simp [isAllBlank_around left right]

/-- A text with a backslash before a comma, a lone comma, and a text that ends in a backslash. -/
def threeTexts : List String := ["a\\,b", ",", "c\\"]

theorem entries_writeEntries_threeTexts :
    writeEntries threeTexts = "a\\\\,b,\\,,c\\" ∧
      entries (writeEntries threeTexts).toList = threeTexts.map String.toList ∧
      entries ("A:1,,P:C:".toList ++ '\\' :: "x,B:2".toList) =
        ["A:1".toList, "P:C:\\x".toList, "B:2".toList] := by
  have hshown : ∀ x ∈ threeTexts, isAllBlank x.toList = false := by decide +kernel
  have hclosed : ∀ x ∈ threeTexts.dropLast, x.toList.getLast? ≠ some '\\' := by decide +kernel
  refine ⟨by decide +kernel, entries_writeEntries.1 threeTexts (fun x hx => ?_) hclosed, ?_⟩
  · exact isAllBlank_eq_false_iff.1 (hshown x hx)
  obtain ⟨before, left, right, behind, hfront, hback, hentries⟩ :=
    entries_writeEntries.2 "A:1,,P:C:".toList "x,B:2".toList (by decide +kernel)
  have hbefore : ["A:1".toList, []] ++ ["P:C:".toList] = before ++ [left] := by
    rw [← hfront]
    decide +kernel
  have hbehind : ["x".toList, "B:2".toList] = right :: behind := by
    rw [← hback]
    decide +kernel
  obtain ⟨rfl, hleft⟩ := List.append_inj' hbefore rfl
  cases hleft
  cases hbehind
  rw [hentries]
  decide +kernel

end FedLoad.Headers
