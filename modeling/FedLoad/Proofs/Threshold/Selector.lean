import FedLoad.Proofs.Text.Blank
import FedLoad.Threshold.Metric
/-!
# The grammar of metrics

A text that is a metric is split into a name and perhaps a choice in braces, with blanks before,
between and after the parts. Only the name and the label in the choice decide which metric it is, so
that all blanks may be left out.

Main statements: `Metric.text_bare`, `Metric.read?_text_bare` and
`Metric.exists_spelling_of_read?`.
-/
namespace FedLoad

open Text

namespace Metric

/-! ## Names and labels in a text -/

theorem not_isBlank_of_isNameChar (c : Char) (h : isNameChar c = true) : isBlank c = false := by
  simp only [isNameChar, Bool.or_eq_true, Bool.and_eq_true, decide_eq_true_eq, beq_iff_eq] at h
  rcases h with h | rfl
  · exact not_isBlank_of_between (by decide) (by decide) h
  · rfl

theorem not_isBlank_of_isLabelChar (c : Char) (h : isLabelChar c = true) : isBlank c = false := by
  simp only [isLabelChar, Bool.or_eq_true, Bool.and_eq_true, decide_eq_true_eq] at h
  rcases h with h | h <;> exact not_isBlank_of_between (by decide) (by decide) h

/-! ## Choices in a text -/

/-- A choice in braces as a text spells it, with the blanks around its three parts. -/
structure Choice where
  before : Blanks
  gap : Blanks
  gap' : Blanks
  label : Chars isLabelChar
  after : Blanks

/-- The text of a choice, and what follows it. -/
def Choice.text (c : Choice) (rest : List Char) : List Char :=
  '\x7b' :: (c.before.val ++ ("errorType".toList ++ (c.gap.val ++ (':' :: (c.gap'.val ++
    (c.label.val ++ (c.after.val ++ '\x7d' :: rest)))))))

theorem choice?_text (c : Choice) (b : Blanks) : choice? (c.text b.val) = some c.label.val := by
  obtain ⟨before, gap, gap', label, after⟩ := c
  have hword (rest : List Char) : StartsVisibly ("errorType".toList ++ rest) := ⟨'e', rfl, rfl⟩
  have hcolon (rest : List Char) : StartsVisibly (':' :: rest) := ⟨':', rfl, rfl⟩
  have hbrace : StartsVisibly ('\x7d' :: b.val) := ⟨'\x7d', rfl, rfl⟩
  have hstop : ∀ c, (after.val ++ '\x7d' :: b.val).head? = some c → isLabelChar c = false := by
    refine after.head?_append (fun _ => eq_false_of_isBlank not_isBlank_of_isLabelChar) ?_
    rintro c ⟨⟩
    rfl
  have hempty : label.val.isEmpty = false := List.isEmpty_eq_false_iff.2 label.property.1
  have hblank : isAllBlank b.val = true := List.all_eq_true.2 b.property
  have hafter (lead rest : List Char) : after? lead (lead ++ rest) = some rest :=
    after?_eq_some_iff.2 rfl
  simp only [choice?, Choice.text, after?, ↓reduceIte, trimStart_blanks before (hword _), hafter,
    trimStart_blanks gap (hcolon _),
    trimStart_blanks gap' ((label.startsVisibly not_isBlank_of_isLabelChar).append _),
    takeWhile_run label.property.2 hstop, dropWhile_run label.property.2 hstop,
    trimStart_blanks after hbrace, hempty, hblank, Option.bind_eq_bind, Option.bind_some]
  rfl

theorem exists_choice_of_choice? {s label : List Char} (h : choice? s = some label) :
    ∃ (c : Choice) (b : Blanks), c.text b.val = s ∧ c.label.val = label := by
  simp only [choice?, Option.bind_eq_bind, Option.bind_eq_some_iff] at h
  obtain ⟨s₁, hopen, s₂, hword, s₃, hcolon, s₄, hclose, h⟩ := h
  split at h
  · cases h
  · next hrest =>
    obtain rfl := Option.some.inj h
    simp only [Bool.or_eq_true, not_or, Bool.not_eq_true', Bool.not_eq_false,
      List.isEmpty_iff] at hrest
    refine ⟨⟨.front s₁, .front s₂, .front s₃, .front (trimStart s₃) hrest.1,
      .front ((trimStart s₃).dropWhile isLabelChar)⟩, ⟨s₄, List.all_eq_true.1 hrest.2⟩, ?_, rfl⟩
    have hs₁ := Blanks.front_append_trimStart s₁
    have hs₂ := Blanks.front_append_trimStart s₂
    have hs₃ := Blanks.front_append_trimStart s₃
    have hend := Blanks.front_append_trimStart ((trimStart s₃).dropWhile isLabelChar)
    rw [after?_eq_some_iff.1 hword] at hs₁
    rw [after?_eq_some_iff.1 hcolon, List.singleton_append] at hs₂
    rw [after?_eq_some_iff.1 hclose, List.singleton_append] at hend
    simp only [Choice.text, Chars.front]
    rw [hend, List.takeWhile_append_dropWhile, hs₃, hs₂, hs₁, after?_eq_some_iff.1 hopen,
      List.singleton_append]

/-! ## Metrics in a text -/

/-- A metric as a text spells it, with the blanks before, between and after its parts. -/
structure Spelling where
  before : Blanks
  name : Chars isNameChar
  gap : Blanks
  choice : Option Choice
  after : Blanks

namespace Spelling

/-- The text that is split. -/
def text (p : Spelling) : List Char :=
  p.before.val ++ (p.name.val ++ (p.gap.val ++ match p.choice with
    | none => p.after.val
    | some c => c.text p.after.val))

/-- The label that is chosen, if there is a choice. -/
def label? (p : Spelling) : Option (List Char) := p.choice.map fun c => c.label.val

/-- The same parts without blanks. -/
def bare (p : Spelling) : Spelling where
  before := .empty
  name := p.name
  gap := .empty
  choice := p.choice.map fun c => ⟨.empty, .empty, .empty, c.label, .empty⟩
  after := .empty

end Spelling

theorem parts?_text (p : Spelling) : parts? p.text = some (p.name.val, p.label?) := by
  obtain ⟨before, name, gap, choice, after⟩ := p
  have hstart := fun rest =>
    trimStart_blanks before ((name.startsVisibly not_isBlank_of_isNameChar).append rest)
  have hempty : name.val.isEmpty = false := List.isEmpty_eq_false_iff.2 name.property.1
  have hletter : ∀ c, isBlank c = true → isNameChar c = false :=
    fun _ => eq_false_of_isBlank not_isBlank_of_isNameChar
  cases choice with
  | none =>
    have hstop := gap.head?_append hletter fun c hc =>
      hletter c (after.property c (List.mem_of_head? hc))
    have hrest : trimStart (gap.val ++ after.val) = [] := trimStart_of_forall fun c hc =>
      (List.mem_append.1 hc).elim (gap.property c) (after.property c)
    simp only [parts?, Spelling.text, hstart, takeWhile_run name.property.2 hstop,
      dropWhile_run name.property.2 hstop, hrest, hempty]
    rfl
  | some c =>
    have hbrace : StartsVisibly (c.text after.val) := ⟨'\x7b', rfl, rfl⟩
    have hstop : ∀ d, (gap.val ++ c.text after.val).head? = some d → isNameChar d = false := by
      refine gap.head?_append hletter ?_
      rintro d ⟨⟩
      rfl
    simp only [parts?, Spelling.text, hstart, takeWhile_run name.property.2 hstop,
      dropWhile_run name.property.2 hstop, trimStart_blanks gap hbrace, hempty, choice?_text]
    rfl

theorem exists_spelling_of_parts? {s name : List Char} {label : Option (List Char)}
    (h : parts? s = some (name, label)) :
    ∃ p : Spelling, p.text = s ∧ p.name.val = name ∧ p.label? = label := by
  have hs := Blanks.front_append_trimStart s
  have hsplit := List.takeWhile_append_dropWhile (p := isNameChar) (l := trimStart s)
  obtain ⟨gap, hgap⟩ : ∃ gap : Blanks, gap.val ++ trimStart ((trimStart s).dropWhile isNameChar) =
      (trimStart s).dropWhile isNameChar := ⟨_, Blanks.front_append_trimStart _⟩
  simp only [parts?] at h
  split at h
  · cases h
  · next hempty =>
    have hne : (trimStart s).takeWhile isNameChar ≠ [] := mt List.isEmpty_iff.2 hempty
    split at h
    · next hrest =>
      cases h
      rw [List.isEmpty_iff.1 hrest, List.append_nil] at hgap
      refine ⟨⟨.front s, .front (trimStart s) hne, gap, none, .empty⟩, ?_, rfl, rfl⟩
      change (Blanks.front s).val ++ ((trimStart s).takeWhile isNameChar ++ (gap.val ++ [])) = s
      rw [List.append_nil, hgap, hsplit, hs]
    · obtain ⟨l, hchoice, hpair⟩ := Option.map_eq_some_iff.1 h
      cases hpair
      obtain ⟨c, b, hc, rfl⟩ := exists_choice_of_choice? hchoice
      refine ⟨⟨.front s, .front (trimStart s) hne, gap, some c, b⟩, ?_, rfl, rfl⟩
      change (Blanks.front s).val ++
        ((trimStart s).takeWhile isNameChar ++ (gap.val ++ c.text b.val)) = s
      rw [hc, hgap, hsplit, hs]

theorem visible_text_choice (c : Choice) (rest : List Char) :
    visible (c.text rest) =
      Choice.text ⟨.empty, .empty, .empty, c.label, .empty⟩ (visible rest) := by
  obtain ⟨before, gap, gap', label, after⟩ := c
  have hlabel := label.visible_eq not_isBlank_of_isLabelChar
  have hcons (d : Char) (hd : isBlank d = false) (s : List Char) : visible (d :: s) = d :: visible s :=
    List.filter_cons_of_pos (by rw [hd]; rfl)
  have hword : visible "errorType".toList = "errorType".toList := by decide
  simp only [Choice.text, hcons '\x7b' rfl, hcons ':' rfl, hcons '\x7d' rfl, visible_append,
    visible_blanks, hword, hlabel]
  rfl

/-- No blank is left. -/
theorem text_bare (p : Spelling) : p.bare.text = visible p.text := by
  obtain ⟨before, name, gap, choice, after⟩ := p
  have hname := name.visible_eq not_isBlank_of_isNameChar
  cases choice with
  | none =>
    simp only [Spelling.text, visible_append, visible_blanks, hname]
    rfl
  | some c =>
    simp only [Spelling.text, visible_append, visible_blanks, hname, visible_text_choice]
    rfl

/-- Blanks do not matter. -/
theorem read?_text_bare (p : Spelling) :
    read? (String.ofList p.text) = read? (String.ofList p.bare.text) := by
  have hlabel : p.bare.label? = p.label? := by
    obtain ⟨_, _, _, _ | _, _⟩ := p <;> rfl
  rw [read?, read?, String.toList_ofList, String.toList_ofList, parts?_text, parts?_text, hlabel]
  rfl

/-- Whatever is a metric is split in this way. -/
theorem exists_spelling_of_read? {s : String} {m : Metric} (h : read? s = some m) :
    ∃ p : Spelling, p.text = s.toList := by
  unfold read? at h
  split at h
  · cases h
  · next hparts =>
    obtain ⟨p, hp, -⟩ := exists_spelling_of_parts? hparts
    exact ⟨p, hp⟩

theorem read?_write (m : Metric) : read? m.write = some m := by
  rcases m with (_ | d) | _ | _
  · rfl
  · cases d <;> rfl
  · rfl
  · rfl

end Metric

end FedLoad
