import FedLoad.Load.Stage
import FedLoad.Proofs.Load.Sound
import FedLoad.Proofs.Span.Text
/-!
# Stages written and read

A list of stages is written part by part with commas between the parts. A part is blank, or it is a
stage: the target, a colon and the milliseconds, with blanks around the two. Reading the list finds
the stages again, and only them: the commas are those between the parts, the colon is the only one
of its part, and a number is read from what was written for it.

Main statement: `Stage.readList_write`.
-/
namespace FedLoad.Stage

open Text Decimal

/-! ## Writing -/

/-- A part of a written list. -/
inductive Part where
  | blank (b : Blanks)
  /-- A stage with blanks before and behind its target, and before and behind its span. -/
  | stage (s : Stage Float) (before gap gap' after : Blanks)

def Part.text : Part → List Char
  | .blank b => b.val
  | .stage s before gap gap' after =>
    before.val ++ ((Decimal.write .amount s.target).toList ++ (gap.val ++ ':' ::
      (gap'.val ++ (s.duration.writeMillis ++ after.val))))

/-- The stage that a part is written for. -/
def Part.stage? : Part → Option (Stage Float)
  | .blank _ => none
  | .stage s .. => some s

def stages (parts : List Part) : List (Stage Float) := parts.filterMap Part.stage?

/-- The parts with commas between them. -/
def write (parts : List Part) : String := String.ofList ([','].intercalate (parts.map Part.text))

/-- A stage that can be written: its target is finite and not negative, and its span has whole
milliseconds. -/
structure Writable (s : Stage Float) : Prop where
  target : IsRate s.target
  duration : s.duration.IsMillis

/-! ## Characters -/

/-- Neither blank nor a separator. -/
def isPlain (c : Char) : Bool := !isBlank c && c != ',' && c != ':'

theorem not_isBlank_of_isPlain (c : Char) (h : isPlain c = true) : isBlank c = false := by
  simp only [isPlain, Bool.and_eq_true, Bool.not_eq_true'] at h
  exact h.1.1

theorem isPlain_of_isDigit {c : Char} (h : isDigit c = true) : isPlain c = true := by
  have hne : ∀ d : Char, isDigit d = false → c ≠ d := by
    rintro d hd rfl
    cases h.symm.trans hd
  simp [isPlain, not_isBlank_of_isDigit c h, hne ',' rfl, hne ':' rfl]

theorem exists_chars_write {x : Float} (h : isFinite x = true) :
    ∃ t : Chars isPlain, t.val = (Decimal.write .amount x).toList := by
  refine ⟨⟨(Decimal.write .amount x).toList, fun hnil => ?_, fun c hc => ?_⟩, rfl⟩
  · have hread := readChars_write h
    rw [hnil] at hread
    cases hread
  · rcases mem_write h hc with hdigit | rfl | rfl
    · exact isPlain_of_isDigit hdigit
    · decide
    · decide

theorem exists_chars_writeMillis (d : Span) : ∃ t : Chars isPlain, t.val = d.writeMillis := by
  refine ⟨⟨_, List.append_ne_nil_of_left_ne_nil (digits_ne_nil _) _, fun c hc => ?_⟩, rfl⟩
  rcases List.mem_append.1 hc with hdigit | hunit
  · exact isPlain_of_isDigit (isDigit_of_mem_digits hdigit)
  · have hplain : Span.Unit.millisecond.symbol.all isPlain = true := by decide
    exact List.all_eq_true.1 hplain c hunit

theorem not_mem_of_isPlain {c : Char} (h : isPlain c = false) (t : Chars isPlain) : c ∉ t.val := by
  intro hc
  cases h.symm.trans (t.property.2 c hc)

theorem not_mem_blanks {c : Char} (h : isBlank c = false) (b : Blanks) : c ∉ b.val := by
  intro hc
  cases h.symm.trans (b.property c hc)

/-! ## Reading a part -/

section Part

variable {s : Stage Float}

theorem Writable.isFinite (h : Writable s) : isFinite s.target = true := by
  have hrate := isRate_iff.2 h.target
  rw [isRate, Bool.and_eq_true] at hrate
  exact hrate.1

/-- A stage that is written is read back, whatever blanks stand around its parts. -/
theorem readChars_text (h : Writable s) (before gap gap' after : Blanks) :
    readChars (Part.stage s before gap gap' after).text = .ok s := by
  obtain ⟨t, ht⟩ := exists_chars_write h.isFinite
  obtain ⟨d, hd⟩ := exists_chars_writeMillis s.duration
  have hstart := t.startsVisibly not_isBlank_of_isPlain
  have htrim : trim (Part.stage s before gap gap' after).text =
      t.val ++ gap.val ++ ':' :: (gap'.val ++ d.val) := by
    have hend := (d.endsVisibly not_isBlank_of_isPlain).append (t.val ++ gap.val ++ ':' :: gap'.val)
    have hmiddle := trim_blanks before after
      ((hstart.append gap.val).append (':' :: gap'.val ++ d.val)) (by simpa using hend)
    simpa [Part.text, ← ht, ← hd] using hmiddle
  have hcolon : ':' ∉ t.val ++ gap.val := by
    rw [List.mem_append, not_or]
    exact ⟨not_mem_of_isPlain (by decide) t, not_mem_blanks (by decide) gap⟩
  have htarget : trim (t.val ++ gap.val) = t.val :=
    trim_blanks .empty gap hstart (t.endsVisibly not_isBlank_of_isPlain)
  have hduration : trim (gap'.val ++ d.val) = s.duration.writeMillis := by
    have hspan := trim_blanks gap' .empty (d.startsVisibly not_isBlank_of_isPlain)
      (d.endsVisibly not_isBlank_of_isPlain)
    rw [← hd]
    simpa [Blanks.empty] using hspan
  have hread : Decimal.readChars t.val = .ok s.target := by
    rw [ht]
    exact readChars_write h.isFinite
  unfold readChars
  dsimp only
  rw [htrim, cut_append hcolon]
  dsimp only
  rw [htarget, hread]
  dsimp only
  rw [if_pos (isRate_iff.2 h.target), Span.readChars_of_trim h.duration hduration]

theorem comma_not_mem_text (h : Writable s) (before gap gap' after : Blanks) :
    ',' ∉ (Part.stage s before gap gap' after).text := by
  obtain ⟨t, ht⟩ := exists_chars_write h.isFinite
  obtain ⟨d, hd⟩ := exists_chars_writeMillis s.duration
  have hblanks (b : Blanks) : ',' ∉ b.val := not_mem_blanks (by decide) b
  have hplain (t : Chars isPlain) : ',' ∉ t.val := not_mem_of_isPlain (by decide) t
  simp [Part.text, ← ht, ← hd, hblanks, hplain]

end Part

/-! ## Reading a list -/

section Parts

variable {parts : List Part}

theorem comma_not_mem_texts (h : ∀ s ∈ stages parts, Writable s) :
    ∀ t ∈ parts.map Part.text, ',' ∉ t := by
  intro t ht
  obtain ⟨part, hpart, rfl⟩ := List.mem_map.1 ht
  cases part with
  | blank b => exact not_mem_blanks (by decide) b
  | stage s before gap gap' after =>
    exact comma_not_mem_text (h s (List.mem_filterMap.2 ⟨_, hpart, rfl⟩)) before gap gap' after

/-- The parts that are not blank are read as the stages, in order. -/
theorem readParts_texts (h : ∀ s ∈ stages parts, Writable s) :
    readParts ((parts.map Part.text).filter fun t => !isAllBlank t) = .ok (stages parts) := by
  induction parts with
  | nil => rfl
  | cons part rest ih =>
    cases part with
    | blank b =>
      have hblank : isAllBlank (Part.blank b).text = true := List.all_eq_true.2 b.property
      rw [List.map_cons, List.filter_cons_of_neg (by simp [hblank])]
      exact ih h
    | stage s before gap gap' after =>
      have hvisible : isAllBlank (Part.stage s before gap gap' after).text = false :=
        List.all_eq_false.2 ⟨':', by simp [Part.text], by decide⟩
      have hstages : stages (.stage s before gap gap' after :: rest) = s :: stages rest := rfl
      rw [hstages, List.forall_mem_cons] at h
      rw [List.map_cons, List.filter_cons_of_pos (by simp [hvisible]), readParts,
        readChars_text h.1, ih h.2, hstages]

end Parts

/-- A list that is written with at least one stage in it is read as its stages, and whatever is read
as a list of stages has one and has only targets that are finite and not negative. -/
theorem readList_write :
    (∀ parts : List Part, (∀ s ∈ stages parts, Writable s) → stages parts ≠ [] →
      readList (write parts) = .ok (stages parts)) ∧
    (∀ (text : String) (ss : List (Stage Float)), readList text = .ok ss →
      ss ≠ [] ∧ ∀ s ∈ ss, IsRate s.target) := by
  refine ⟨fun parts hwritable hne => ?_, fun text ss hread => ⟨?_, isRate_of_readList hread⟩⟩
  · have hparts : parts.map Part.text ≠ [] := by
      rintro hnil
      rw [List.map_eq_nil_iff.1 hnil] at hne
      exact hne rfl
    obtain ⟨s, rest, hstages⟩ := List.exists_cons_of_ne_nil hne
    rw [readList, write, String.toList_ofList,
      pieces_intercalate hparts (comma_not_mem_texts hwritable), readParts_texts hwritable, hstages]
  · rintro rfl
    unfold readList at hread
    split at hread
    · cases hread
    · cases hread
    · next hne _ =>
      obtain rfl := Except.ok.inj hread
      exact hne rfl

/-- Two stages with blanks around their parts, the second of which is a stop, and blank parts. -/
def twoStages : List Part :=
  let space : Blanks := ⟨[' '], List.all_eq_true.1 (by decide)⟩
  [.blank .empty, .stage ⟨200.5, .ofMillis 90000⟩ .empty space .empty .empty,
    .blank ⟨['\t', ' '], List.all_eq_true.1 (by decide)⟩,
    .stage ⟨-0.0, .zero⟩ .empty .empty space .empty]

theorem readList_write_twoStages :
    write twoStages = ",200.5 :90000ms,\t ,-0: 0ms" ∧
      readList (write twoStages) = .ok [⟨200.5, .ofSeconds 90⟩, ⟨-0.0, .zero⟩] := by
  have hwritable : ∀ s ∈ stages twoStages, Writable s := by
    have hrates : ∀ s ∈ stages twoStages, isRate s.target = true := by decide +kernel
    intro s hs
    refine ⟨isRate_iff.1 (hrates s hs), ?_⟩
    rcases List.mem_pair.1 hs with rfl | rfl
    · exact ⟨90000, by decide, rfl⟩
    · exact ⟨0, by decide, rfl⟩
  exact ⟨by decide +kernel, readList_write.1 twoStages hwritable (List.cons_ne_nil _ _)⟩

end FedLoad.Stage
