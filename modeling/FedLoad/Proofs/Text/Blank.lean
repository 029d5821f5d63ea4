import FedLoad.Text.Blank
/-!
# Trimming and cutting what was put together

A run of characters of one kind is taken as a whole if a character of another kind follows, or
nothing. So blanks at the ends are trimmed and nothing else is; a text that neither begins nor ends
with a blank is left alone by trimming, and cutting at the first separator undoes putting two parts
around one.
-/
namespace FedLoad.Text

/-! ## Runs -/

section Runs

variable {p : Char → Bool} {run rest : List Char}

theorem takeWhile_run (hrun : ∀ c ∈ run, p c = true) (hrest : ∀ c, rest.head? = some c → p c = false) :
    (run ++ rest).takeWhile p = run := by
  rw [List.takeWhile_append_of_pos hrun]
  cases rest with
  | nil => exact List.append_nil run
  | cons c tail =>
    rw [List.takeWhile_cons_of_neg (ne_true_of_eq_false (hrest c rfl)), List.append_nil]

theorem dropWhile_run (hrun : ∀ c ∈ run, p c = true) (hrest : ∀ c, rest.head? = some c → p c = false) :
    (run ++ rest).dropWhile p = rest := by
  rw [List.dropWhile_append_of_pos hrun]
  cases rest with
  | nil => rfl
  | cons c tail => exact List.dropWhile_cons_of_neg (ne_true_of_eq_false (hrest c rfl))

/-- A run ends where the kind of the characters changes. -/
theorem run_append_inj {run' rest' : List Char} (hrun : ∀ c ∈ run, p c = true)
    (hrest : ∀ c, rest.head? = some c → p c = false) (hrun' : ∀ c ∈ run', p c = true)
    (hrest' : ∀ c, rest'.head? = some c → p c = false) (h : run ++ rest = run' ++ rest') :
    run = run' ∧ rest = rest' := by
  obtain rfl : run = run' := by
    rw [← takeWhile_run hrun hrest, h, takeWhile_run hrun' hrest']
  exact ⟨rfl, List.append_cancel_left h⟩

/-- Characters of one kind, at least one. -/
def Chars (p : Char → Bool) : Type := { s : List Char // s ≠ [] ∧ ∀ c ∈ s, p c = true }

/-- The characters of a kind at the front of a text. -/
def Chars.front (s : List Char) (h : s.takeWhile p ≠ []) : Chars p :=
  ⟨s.takeWhile p, h, List.all_eq_true.1 List.all_takeWhile⟩

end Runs

/-! ## Blanks -/

theorem not_isBlank_of_visible {c : Char} (h : 0x21 ≤ c.toNat) (h' : c.toNat < 0x7F) :
    isBlank c = false := by
  simp only [isBlank, Bool.or_eq_false_iff, Bool.and_eq_false_iff, decide_eq_false_iff_not,
    beq_eq_false_iff_ne]
  omega

theorem not_isBlank_of_between {c low high : Char} (hlow : 0x21 ≤ low.toNat)
    (hhigh : high.toNat < 0x7F) (h : low ≤ c ∧ c ≤ high) : isBlank c = false :=
  not_isBlank_of_visible (Nat.le_trans hlow (UInt32.le_iff_toNat_le.1 h.1))
    (Nat.lt_of_le_of_lt (UInt32.le_iff_toNat_le.1 h.2) hhigh)

/-- Where all characters of a kind are visible, no blank is of that kind. -/
theorem eq_false_of_isBlank {p : Char → Bool} (hp : ∀ c, p c = true → isBlank c = false) {c : Char}
    (h : isBlank c = true) : p c = false := by
  cases hc : p c with
  | false => rfl
  | true =>
    rw [hp c hc] at h
    cases h

/-- Blanks, or nothing. -/
def Blanks : Type := { s : List Char // ∀ c ∈ s, isBlank c = true }

def Blanks.empty : Blanks := ⟨[], fun _ hc => nomatch hc⟩

/-- The blanks at the front of a text. -/
def Blanks.front (s : List Char) : Blanks :=
  ⟨s.takeWhile isBlank, List.all_eq_true.1 List.all_takeWhile⟩

theorem Blanks.front_append_trimStart (s : List Char) : (front s).val ++ trimStart s = s :=
  List.takeWhile_append_dropWhile

/-- After blanks comes a blank or what stands behind them. -/
theorem Blanks.head?_append (b : Blanks) {P : Char → Prop} {rest : List Char}
    (hblank : ∀ c, isBlank c = true → P c) (hrest : ∀ c, rest.head? = some c → P c) :
    ∀ c, (b.val ++ rest).head? = some c → P c := by
  intro c hc
  obtain ⟨_ | ⟨d, s⟩, hb⟩ := b
  · exact hrest c hc
  · obtain rfl : d = c := Option.some.inj hc
    exact hblank d (hb d List.mem_cons_self)

/-- A text without any of its blanks. -/
def visible (s : List Char) : List Char := s.filter fun c => !isBlank c

@[simp] theorem visible_append (s t : List Char) : visible (s ++ t) = visible s ++ visible t :=
  List.filter_append ..

@[simp] theorem visible_blanks (b : Blanks) : visible b.val = [] := by
  refine List.filter_eq_nil_iff.2 fun c hc => ?_
  rw [b.property c hc]
  exact Bool.false_ne_true

theorem Chars.visible_eq {p : Char → Bool} (hp : ∀ c, p c = true → isBlank c = false)
    (s : Chars p) : visible s.val = s.val := by
  refine List.filter_eq_self.2 fun c hc => ?_
  rw [hp c (s.property.2 c hc)]
  rfl

/-- Does a text begin with a character that is not blank? -/
def StartsVisibly (s : List Char) : Prop := ∃ c, s.head? = some c ∧ isBlank c = false

theorem Chars.startsVisibly {p : Char → Bool} (hp : ∀ c, p c = true → isBlank c = false)
    (s : Chars p) : StartsVisibly s.val := by
  obtain ⟨s, hs, hall⟩ := s
  obtain ⟨c, rest, rfl⟩ := List.exists_cons_of_ne_nil hs
  exact ⟨c, rfl, hp c (hall c List.mem_cons_self)⟩

theorem StartsVisibly.head {s : List Char} (h : StartsVisibly s) :
    ∀ c, s.head? = some c → isBlank c = false := by
  obtain ⟨d, hd, hblank⟩ := h
  intro c hc
  obtain rfl : d = c := Option.some.inj (hd.symm.trans hc)
  exact hblank

theorem StartsVisibly.append {s : List Char} (h : StartsVisibly s) (rest : List Char) :
    StartsVisibly (s ++ rest) := by
  obtain ⟨c, hc, hblank⟩ := h
  obtain ⟨tail, rfl⟩ := List.head?_eq_some_iff.1 hc
  exact ⟨c, rfl, hblank⟩

/-- Does a text end with a character that is not blank? -/
def EndsVisibly (s : List Char) : Prop := StartsVisibly s.reverse

theorem Chars.endsVisibly {p : Char → Bool} (hp : ∀ c, p c = true → isBlank c = false)
    (s : Chars p) : EndsVisibly s.val := by
  have hreverse : ∀ c ∈ s.val.reverse, p c = true := fun c hc =>
    s.property.2 c (List.mem_reverse.1 hc)
  exact startsVisibly hp ⟨_, mt List.reverse_eq_nil_iff.1 s.property.1, hreverse⟩

theorem EndsVisibly.append {s : List Char} (h : EndsVisibly s) (front : List Char) :
    EndsVisibly (front ++ s) := by
  rw [EndsVisibly, List.reverse_append]
  exact StartsVisibly.append h _

theorem trimStart_blanks (b : Blanks) {rest : List Char} (h : StartsVisibly rest) :
    trimStart (b.val ++ rest) = rest := dropWhile_run b.property h.head

theorem trimStart_of_forall {s : List Char} (h : ∀ c ∈ s, isBlank c = true) : trimStart s = [] := by
  rw [trimStart, ← List.append_nil s]
  exact dropWhile_run h fun c hc => nomatch hc

theorem Blanks.append_inj {b b' : Blanks} {rest rest' : List Char} (h : StartsVisibly rest)
    (h' : StartsVisibly rest') (heq : b.val ++ rest = b'.val ++ rest') : b = b' ∧ rest = rest' := by
  obtain ⟨hblanks, hrest⟩ := run_append_inj b.property h.head b'.property h'.head heq
  exact ⟨Subtype.ext hblanks, hrest⟩

/-! ## Trimming and cutting -/

variable {s : List Char}

theorem trimEnd_blanks (b : Blanks) (h : EndsVisibly s) : trimEnd (s ++ b.val) = s := by
  have hblank : ∀ c ∈ b.val.reverse, isBlank c = true := fun c hc =>
    b.property c (List.mem_reverse.1 hc)
  rw [trimEnd, List.reverse_append, dropWhile_run hblank h.head, List.reverse_reverse]

theorem trim_blanks (before after : Blanks) (hstart : StartsVisibly s) (hend : EndsVisibly s) :
    trim (before.val ++ (s ++ after.val)) = s := by
  rw [trim, trimStart_blanks before (hstart.append _), trimEnd_blanks after hend]

theorem cut_append {sep : Char} {left : List Char} (h : sep ∉ left) (right : List Char) :
    cut sep (left ++ sep :: right) = some (left, right) := by
  induction left with
  | nil => simp [cut]
  | cons c rest ih =>
    rw [List.mem_cons, not_or] at h
    rw [List.cons_append, cut, if_neg (Ne.symm h.1), ih h.2]
    rfl

theorem pieces_of_not_mem {sep : Char} (h : sep ∉ s) : pieces sep s = [s] := by
  induction s with
  | nil => rfl
  | cons c rest ih =>
    rw [List.mem_cons, not_or] at h
    rw [pieces, if_neg (Ne.symm h.1), ih h.2]

theorem pieces_append {sep : Char} (h : sep ∉ s) (rest : List Char) :
    pieces sep (s ++ sep :: rest) = s :: pieces sep rest := by
  induction s with
  | nil => rw [List.nil_append, pieces, if_pos rfl]
  | cons c s ih =>
    rw [List.mem_cons, not_or] at h
    rw [List.cons_append, pieces, if_neg (Ne.symm h.1), ih h.2]

/-- Texts without separators that were put together with separators are cut apart again. -/
theorem pieces_intercalate {sep : Char} {xs : List (List Char)} (hne : xs ≠ [])
    (h : ∀ x ∈ xs, sep ∉ x) : pieces sep ([sep].intercalate xs) = xs := by
  induction xs with
  | nil => exact absurd rfl hne
  | cons x xs ih =>
    rw [List.forall_mem_cons] at h
    cases xs with
    | nil => rw [List.intercalate_singleton, pieces_of_not_mem h.1]
    | cons y ys =>
      rw [List.intercalate_cons_cons, List.append_assoc, List.singleton_append, pieces_append h.1,
        ih (List.cons_ne_nil y ys) h.2]

end FedLoad.Text
