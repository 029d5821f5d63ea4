import FedLoad.Proofs.Decimal.Comparison
import FedLoad.Threshold.Basic
/-!
# The grammar of threshold expressions

A text that is an expression is split into a statistic, a comparison and a limit, with blanks before,
between and after them. Each part is scanned from the front without looking back, and what is scanned
is the only way to begin: no word begins another, a symbol is taken with its equals sign, and a
numeral goes on as long as it can. So a text is split in one way only, and scanning finds it.

Main statement: `Expression.read_accepts_exactly`.
-/
namespace FedLoad

open Text Decimal

/-! ## Numerals in a text -/

namespace Decimal

/-- A numeral is known from its text. -/
theorem Numeral.text_injective : Function.Injective Numeral.text := by
  intro n n' h
  have hliteral := n.literal?_text
  rw [h, n'.literal?_text] at hliteral
  obtain ⟨⟨w, hw⟩, f⟩ := n
  obtain ⟨⟨w', hw'⟩, f'⟩ := n'
  obtain ⟨rfl, hplaces, -⟩ := Literal.mk.inj (Option.some.inj hliteral)
  rcases f with - | ⟨f, hf⟩ <;> rcases f' with - | ⟨f', hf'⟩
  · rfl
  · exact absurd hplaces hf'.1
  · exact absurd hplaces.symm hf.1
  · obtain rfl : f' = f := hplaces
    rfl

end Decimal

namespace Expression

/-- Does no numeral go on here? -/
def EndsNumber (rest : List Char) : Prop := ∀ c, rest.head? = some c → isDigit c = false ∧ c ≠ '.'

theorem endsNumber_blanks (b : Blanks) {rest : List Char} (h : EndsNumber rest) :
    EndsNumber (b.val ++ rest) := by
  refine b.head?_append (fun c hblank => ⟨eq_false_of_isBlank not_isBlank_of_isDigit hblank, ?_⟩) h
  rintro rfl
  cases hblank

theorem scanNumber?_append (n : Numeral) {rest : List Char} (h : EndsNumber rest) :
    scanNumber? (n.text ++ rest) = some (n.text, rest) := by
  have hdigit : ∀ c, rest.head? = some c → isDigit c = false := fun c hc => (h c hc).1
  obtain ⟨⟨w, hw, hdigits⟩, - | ⟨f, hf, hplaces⟩⟩ := n
  · change scanNumber? (w ++ rest) = some (w, rest)
    have hnone : w.isEmpty = false := by simpa using hw
    simp only [scanNumber?, takeWhile_run hdigits hdigit, dropWhile_run hdigits hdigit, hnone]
    split
    · contradiction
    · split
      · exact absurd rfl (h '.' rfl).2
      · rfl
  · change scanNumber? (w ++ '.' :: f ++ rest) = some (w ++ '.' :: f, rest)
    have hstop : ∀ c, ('.' :: (f ++ rest)).head? = some c → isDigit c = false := by
      rintro c ⟨⟩
      decide
    rw [List.append_assoc, List.cons_append]
    simp [scanNumber?, takeWhile_run hdigits hstop, dropWhile_run hdigits hstop,
      takeWhile_run hplaces hdigit, dropWhile_run hplaces hdigit, hw, hf]

theorem startsVisibly_numeral (n : Numeral) : StartsVisibly n.text := by
  obtain ⟨c, hc, hdigit⟩ := n.head?_text
  exact ⟨c, hc, not_isBlank_of_isDigit c hdigit⟩

theorem exists_numeral_of_scanNumber? {s text rest : List Char}
    (h : scanNumber? s = some (text, rest)) : ∃ n : Numeral, n.text = text ∧ s = text ++ rest := by
  have hsplit := List.takeWhile_append_dropWhile (p := isDigit) (l := s)
  have hdigits : ∀ c ∈ s.takeWhile isDigit, isDigit c = true :=
    List.all_eq_true.1 List.all_takeWhile
  simp only [scanNumber?] at h
  generalize s.takeWhile isDigit = w at *
  generalize s.dropWhile isDigit = tail at *
  by_cases hw : w = []
  · simp [hw] at h
  have hwhole : w ≠ [] ∧ ∀ c ∈ w, isDigit c = true := ⟨hw, hdigits⟩
  have hnone : w.isEmpty = false := by simpa using hw
  rw [hnone, if_neg Bool.false_ne_true] at h
  split at h
  · next more =>
    have hmore := List.takeWhile_append_dropWhile (p := isDigit) (l := more)
    have hplaces : ∀ c ∈ more.takeWhile isDigit, isDigit c = true :=
      List.all_eq_true.1 List.all_takeWhile
    generalize more.takeWhile isDigit = f at *
    split at h
    · obtain ⟨rfl, rfl⟩ := Prod.mk.inj (Option.some.inj h)
      exact ⟨⟨⟨w, hwhole⟩, none⟩, rfl, hsplit.symm⟩
    · next hf =>
      obtain ⟨rfl, rfl⟩ := Prod.mk.inj (Option.some.inj h)
      refine ⟨⟨⟨w, hwhole⟩, some ⟨f, fun h => hf (by rw [h]; rfl), hplaces⟩⟩, rfl, ?_⟩
      rw [List.append_assoc, List.cons_append, hmore, hsplit]
  · obtain ⟨rfl, rfl⟩ := Prod.mk.inj (Option.some.inj h)
    exact ⟨⟨⟨w, hwhole⟩, none⟩, rfl, hsplit.symm⟩

/-! ## Statistics in a text -/

/-- A statistic as a text spells it; blanks may stand around the number of a percentile. -/
inductive Spelling where
  | plain (s : Statistic) (h : s ∈ words)
  | percentile (before : Blanks) (number : Numeral) (after : Blanks)

namespace Spelling

def text : Spelling → List Char
  | .plain s _ => s.write.toList
  | .percentile before number after =>
    ['p', '('] ++ (before.val ++ (number.text ++ (after.val ++ [')'])))

def word : Spelling → Word
  | .plain s _ => .plain s
  | .percentile _ number _ => .percentile number.text

end Spelling

theorem startsVisibly_spelling (w : Spelling) : StartsVisibly w.text := by
  cases w with
  | plain s h =>
    simp only [words, List.mem_cons, List.not_mem_nil, or_false] at h
    rcases h with rfl | rfl | rfl | rfl | rfl | rfl <;> exact ⟨_, rfl, by decide⟩
  | percentile before number after => exact ⟨'p', rfl, by decide⟩

theorem scanWord?_append (w : Spelling) (rest : List Char) :
    scanWord? (w.text ++ rest) = some (w.word, rest) := by
  cases w with
  | plain s h =>
    simp only [words, List.mem_cons, List.not_mem_nil, or_false] at h
    rcases h with rfl | rfl | rfl | rfl | rfl | rfl <;> rfl
  | percentile before number after =>
    have hplain : (words.findSome? fun w => (after? w.write.toList
        ((Spelling.percentile before number after).text ++ rest)).map
          fun rest => (Word.plain w, rest)) = none := rfl
    have hopen : after? ['p', '('] ((Spelling.percentile before number after).text ++ rest) =
        some (before.val ++ (number.text ++ (after.val ++ ')' :: rest))) := by
      simp [after?_eq_some_iff, Spelling.text]
    have hclose : EndsNumber (')' :: rest) := by
      rintro c ⟨⟩
      decide
    have hparen : StartsVisibly (')' :: rest) := ⟨')', rfl, by decide⟩
    rw [scanWord?, hplain]
    simp only [hopen, trimStart_blanks before ((startsVisibly_numeral number).append _),
      scanNumber?_append number (endsNumber_blanks after hclose), trimStart_blanks after hparen,
      after?, Option.bind_eq_bind, Option.bind_some]
    rfl

theorem exists_spelling_of_scanWord? {s rest : List Char} {word : Word}
    (h : scanWord? s = some (word, rest)) : ∃ w : Spelling, w.word = word ∧ s = w.text ++ rest := by
  rw [scanWord?] at h
  split at h
  · next found hfound =>
    cases h
    obtain ⟨w, hw, hafter⟩ := List.exists_of_findSome?_eq_some hfound
    obtain ⟨tail, htail, hpair⟩ := Option.map_eq_some_iff.1 hafter
    cases hpair
    exact ⟨.plain w hw, rfl, after?_eq_some_iff.1 htail⟩
  · simp only [Option.bind_eq_bind, Option.bind_eq_some_iff] at h
    obtain ⟨s₁, hopen, ⟨text, s₂⟩, hnumber, s₃, hclose, hpair⟩ := h
    cases hpair
    obtain ⟨n, rfl, hn⟩ := exists_numeral_of_scanNumber? hnumber
    refine ⟨.percentile (.front s₁) n (.front s₂), rfl, ?_⟩
    have hs₁ := Blanks.front_append_trimStart s₁
    have hs₂ := Blanks.front_append_trimStart s₂
    rw [hn] at hs₁
    rw [after?_eq_some_iff.1 hclose] at hs₂
    simp only [after?_eq_some_iff.1 hopen, Spelling.text, List.append_assoc]
    rw [hs₂, hs₁]

/-! ## Comparisons and limits in a text -/

theorem startsVisibly_symbol (c : Comparison) : StartsVisibly c.symbol.toList := by
  cases c <;> exact ⟨_, rfl, by decide⟩

theorem scanComparison?_append (c : Comparison) {rest : List Char} (h : rest.head? ≠ some '=') :
    scanComparison? (c.symbol.toList ++ rest) = some (c, rest) := by
  cases rest with
  | nil => cases c <;> rfl
  | cons d tail =>
    have hd : ¬ '=' = d := fun heq => h (by rw [← heq]; rfl)
    cases c <;> simp [scanComparison?, comparisons, Comparison.symbol, after?, hd]

theorem eq_append_of_scanComparison? {s rest : List Char} {c : Comparison}
    (h : scanComparison? s = some (c, rest)) : s = c.symbol.toList ++ rest := by
  obtain ⟨d, -, hafter⟩ := List.exists_of_findSome?_eq_some h
  obtain ⟨tail, htail, hpair⟩ := Option.map_eq_some_iff.1 hafter
  cases hpair
  exact after?_eq_some_iff.1 htail

/-- A numeral, with or without a minus sign in front. -/
structure Limit where
  negative : Bool
  numeral : Numeral

def Limit.text (l : Limit) : List Char := signed l.negative l.numeral.text

theorem startsVisibly_limit (l : Limit) : StartsVisibly l.text := by
  obtain ⟨_ | _, n⟩ := l
  · exact startsVisibly_numeral n
  · exact ⟨'-', rfl, by decide⟩

theorem head?_limit_ne (l : Limit) (b : Blanks) (rest : List Char) :
    (b.val ++ (l.text ++ rest)).head? ≠ some '=' := by
  have hlimit : ∀ c, (l.text ++ rest).head? = some c → c ≠ '=' := by
    obtain ⟨_ | _, n⟩ := l
    · obtain ⟨d, hd, hdigit⟩ := n.head?_text
      obtain ⟨tail, htext⟩ := List.head?_eq_some_iff.1 hd
      have htext' : (Limit.mk false n).text = d :: tail := htext
      rw [htext']
      rintro c ⟨⟩ rfl
      cases hdigit
    · rintro c ⟨⟩
      decide
  have hblank : ∀ c, isBlank c = true → c ≠ '=' := by
    rintro c hc rfl
    cases hc
  exact fun h => b.head?_append hblank hlimit '=' h rfl

theorem scanLimit?_append (l : Limit) {rest : List Char} (h : EndsNumber rest) :
    scanLimit? (l.text ++ rest) = some (l.text, rest) := by
  obtain ⟨_ | _, n⟩ := l
  · obtain ⟨c, hc, hdigit⟩ := n.head?_text
    change scanLimit? (n.text ++ rest) = some (n.text, rest)
    have hnumber := scanNumber?_append n h
    obtain ⟨tail, htext⟩ := List.head?_eq_some_iff.1 hc
    rw [htext] at hnumber ⊢
    rw [scanLimit?, hnumber]
    rintro s hs
    obtain rfl : c = '-' := (List.cons.inj hs).1
    cases hdigit
  · change (scanNumber? (n.text ++ rest)).map _ = _
    rw [scanNumber?_append n h]
    rfl

theorem exists_limit_of_scanLimit? {s text rest : List Char}
    (h : scanLimit? s = some (text, rest)) : ∃ l : Limit, l.text = text ∧ s = text ++ rest := by
  unfold scanLimit? at h
  split at h
  · obtain ⟨⟨number, tail⟩, hnumber, hpair⟩ := Option.map_eq_some_iff.1 h
    obtain ⟨rfl, rfl⟩ := Prod.mk.inj hpair
    obtain ⟨n, rfl, rfl⟩ := exists_numeral_of_scanNumber? hnumber
    exact ⟨⟨true, n⟩, rfl, rfl⟩
  · obtain ⟨n, rfl, rfl⟩ := exists_numeral_of_scanNumber? h
    exact ⟨⟨false, n⟩, rfl, rfl⟩

/-! ## Expressions -/

/-- An expression taken apart, with the blanks before, between and after its parts. -/
structure Split where
  before : Blanks
  statistic : Spelling
  gap : Blanks
  comparison : Comparison
  gap' : Blanks
  limit : Limit
  after : Blanks

namespace Split

/-- The text that is split. -/
def text (d : Split) : List Char :=
  d.before.val ++ (d.statistic.text ++ (d.gap.val ++ (d.comparison.symbol.toList ++
    (d.gap'.val ++ (d.limit.text ++ d.after.val)))))

end Split

theorem endsNumber_after (b : Blanks) : EndsNumber b.val := by
  rw [← List.append_nil b.val]
  exact endsNumber_blanks b fun c hc => nomatch hc

theorem parts?_text (d : Split) :
    parts? d.text = some (d.statistic.word, d.comparison, d.limit.text) := by
  obtain ⟨before, statistic, gap, c, gap', limit, after⟩ := d
  have hblank : isAllBlank after.val = true := List.all_eq_true.2 after.property
  rw [parts?]
  simp only [Split.text, trimStart_blanks before ((startsVisibly_spelling statistic).append _),
    scanWord?_append, trimStart_blanks gap ((startsVisibly_symbol c).append _),
    scanComparison?_append c (head?_limit_ne limit gap' _),
    trimStart_blanks gap' ((startsVisibly_limit limit).append _),
    scanLimit?_append limit (endsNumber_after after),
    hblank, Option.bind_eq_bind, Option.bind_some]
  rfl

theorem exists_split_of_parts? {s text : List Char} {word : Word} {c : Comparison}
    (h : parts? s = some (word, c, text)) :
    ∃ d : Split, d.text = s ∧ d.statistic.word = word ∧ d.comparison = c ∧ d.limit.text = text := by
  simp only [parts?, Option.bind_eq_bind, Option.bind_eq_some_iff] at h
  obtain ⟨⟨word', s₁⟩, hword, ⟨c', s₂⟩, hcomparison, ⟨text', s₃⟩, hlimit, h⟩ := h
  split at h
  · next hblank =>
    cases h
    obtain ⟨w, rfl, hw⟩ := exists_spelling_of_scanWord? hword
    obtain ⟨l, rfl, hl⟩ := exists_limit_of_scanLimit? hlimit
    have hc := eq_append_of_scanComparison? hcomparison
    refine ⟨⟨.front s, w, .front s₁, _, .front s₂, l, ⟨s₃, List.all_eq_true.1 hblank⟩⟩, ?_, rfl, rfl,
      rfl⟩
    have hs := Blanks.front_append_trimStart s
    have hs₁ := Blanks.front_append_trimStart s₁
    have hs₂ := Blanks.front_append_trimStart s₂
    rw [hw] at hs
    rw [hc] at hs₁
    rw [hl] at hs₂
    simp only [Split.text]
    rw [hs₂, hs₁, hs]
  · cases h

theorem spelling_append_inj {w w' : Spelling} {rest rest' : List Char}
    (h : w.text ++ rest = w'.text ++ rest') : w = w' ∧ rest = rest' := by
  have hscan := scanWord?_append w rest
  rw [h, scanWord?_append w' rest'] at hscan
  obtain ⟨hword, rfl⟩ := Prod.mk.inj (Option.some.inj hscan)
  have htext := List.append_cancel_right h
  refine ⟨?_, rfl⟩
  cases w with
  | plain s hs =>
    cases w' with
    | plain s' hs' =>
      cases hword
      rfl
    | percentile before' n' after' => cases hword
  | percentile before n after =>
    cases w' with
    | plain s' hs' => cases hword
    | percentile before' n' after' =>
      obtain rfl : n' = n := Numeral.text_injective (Word.percentile.inj hword)
      obtain ⟨rfl, hafter⟩ := Blanks.append_inj ((startsVisibly_numeral n').append _)
        ((startsVisibly_numeral n').append _) (List.append_cancel_left htext)
      obtain rfl : after = after' :=
        Subtype.ext (List.append_cancel_right (List.append_cancel_left hafter))
      rfl

theorem symbol_append_inj {c c' : Comparison} {rest rest' : List Char}
    (hrest : rest.head? ≠ some '=') (hrest' : rest'.head? ≠ some '=')
    (h : c.symbol.toList ++ rest = c'.symbol.toList ++ rest') : c = c' ∧ rest = rest' := by
  have hscan := scanComparison?_append c hrest
  rw [h, scanComparison?_append c' hrest'] at hscan
  obtain ⟨rfl, rfl⟩ := Prod.mk.inj (Option.some.inj hscan)
  exact ⟨rfl, rfl⟩

theorem minus_ne_numeral (n : Numeral) (s : List Char) : n.text ≠ '-' :: s := by
  obtain ⟨c, hc, hdigit⟩ := n.head?_text
  intro h
  rw [h] at hc
  cases hc
  cases hdigit

theorem limit_text_injective : Function.Injective Limit.text := by
  rintro ⟨_ | _, n⟩ ⟨_ | _, n'⟩ h
  · exact congrArg _ (Numeral.text_injective h)
  · exact absurd h (minus_ne_numeral n n'.text)
  · exact absurd h.symm (minus_ne_numeral n' n.text)
  · exact congrArg _ (Numeral.text_injective (List.cons.inj h).2)

theorem limit_append_inj {l l' : Limit} {rest rest' : List Char} (hrest : EndsNumber rest)
    (hrest' : EndsNumber rest') (h : l.text ++ rest = l'.text ++ rest') : l = l' ∧ rest = rest' := by
  have hscan := scanLimit?_append l hrest
  rw [h, scanLimit?_append l' hrest'] at hscan
  obtain ⟨htext, rfl⟩ := Prod.mk.inj (Option.some.inj hscan)
  exact ⟨limit_text_injective htext.symm, rfl⟩

/-- A text is split in one way only. -/
theorem split_text_injective : Function.Injective Split.text := by
  intro d d' h
  obtain ⟨before, statistic, gap, c, gap', limit, after⟩ := d
  obtain ⟨before', statistic', gap₁, c', gap₁', limit', after'⟩ := d'
  obtain ⟨rfl, hstatistic⟩ := Blanks.append_inj ((startsVisibly_spelling statistic).append _)
    ((startsVisibly_spelling statistic').append _) h
  obtain ⟨rfl, hgap⟩ := spelling_append_inj hstatistic
  obtain ⟨rfl, hsymbol⟩ := Blanks.append_inj ((startsVisibly_symbol c).append _)
    ((startsVisibly_symbol c').append _) hgap
  obtain ⟨rfl, hgap'⟩ := symbol_append_inj (head?_limit_ne limit gap' after.val)
    (head?_limit_ne limit' gap₁' after'.val) hsymbol
  obtain ⟨rfl, hlimit⟩ := Blanks.append_inj ((startsVisibly_limit limit).append _)
    ((startsVisibly_limit limit').append _) hgap'
  obtain ⟨rfl, hafter⟩ := limit_append_inj (endsNumber_after after) (endsNumber_after after') hlimit
  obtain rfl : after = after' := Subtype.ext hafter
  rfl

/-! ## What is written -/

namespace Spelling

/-- The number of a percentile. -/
def number? : Spelling → Option ℚ
  | .plain _ _ => none
  | .percentile _ number _ => some number.value

/-- Is this the statistic that is spelled, with the float nearest to the number of a percentile? -/
def Means : Spelling → Statistic → Prop
  | .plain s _, t => t = s
  | .percentile _ number _, t => ∃ p, t = .percentile p ∧ IsNearest p number.value

end Spelling

/-- Is this the float nearest to the limit that is written? -/
def Limit.Means (l : Limit) (x : Float) : Prop :=
  ∃ y, IsNearest y l.numeral.value ∧ x = if l.negative then -y else y

namespace Split

/-- Is this the expression that is written? -/
structure Means (d : Split) (e : Expression) : Prop where
  statistic : d.statistic.Means e.statistic
  comparison : d.comparison = e.comparison
  limit : d.limit.Means e.limit

/-- Is the number of a percentile one that rounds to a float of at most 100? -/
def InRange (d : Split) : Prop := ∀ v ∈ d.statistic.number?, v ≤ 100 + 1 / 2 ^ 47

end Split

theorem isNearest_numberOf (n : Numeral) : IsNearest (numberOf n.text) n.value := by
  obtain ⟨x, hx, hread, -⟩ := n.exists_readChars
  rwa [numberOf, hread]

theorem means_numberOf (l : Limit) : l.Means (numberOf l.text) := by
  obtain ⟨negative, n⟩ := l
  obtain ⟨x, hx, hread, hminus⟩ := n.exists_readChars
  refine ⟨x, hx, ?_⟩
  cases negative
  · change numberOf n.text = x
    rw [numberOf, hread]
  · change numberOf ('-' :: n.text) = -x
    rw [numberOf, hminus]

theorem isPercentile_iff {p : Float} {v : ℚ} (h : IsNearest p v) :
    isPercentile p = true ↔ v ≤ 100 + 1 / 2 ^ 47 := by
  have hundred : Double.ofFloat 100.0 = .finite false (100 * 2 ^ 46) (-46) := rfl
  have hhigh : ((4 * (100 * 2 ^ 46) + 2 : Nat) * 2 ^ (-46 - 2 : Int) : ℚ) = 100 + 1 / 2 ^ 47 := by
    norm_num
  rw [isPercentile, decide_eq_true h.nonneg, Bool.true_and, decide_eq_true_iff,
    h.le_iff hundred (by decide), hhigh]

theorem Spelling.Means.unique {w : Spelling} {t t' : Statistic} (h : w.Means t) (h' : w.Means t') :
    t = t' := by
  cases w with
  | plain s hmem => exact Eq.trans h (Eq.symm h')
  | percentile before n after =>
    obtain ⟨p, rfl, hp⟩ := h
    obtain ⟨p', rfl, hp'⟩ := h'
    rw [hp.unique hp']

theorem Limit.Means.unique {l : Limit} {x x' : Float} (h : l.Means x) (h' : l.Means x') : x = x' := by
  obtain ⟨y, hy, rfl⟩ := h
  obtain ⟨y', hy', rfl⟩ := h'
  rw [hy.unique hy']

theorem Split.Means.unique {d : Split} {e e' : Expression} (h : d.Means e) (h' : d.Means e') :
    e = e' := by
  obtain ⟨statistic, c, limit⟩ := e
  obtain ⟨statistic', c', limit'⟩ := e'
  obtain rfl : statistic = statistic' := h.statistic.unique h'.statistic
  obtain rfl : c = c' := h.comparison.symm.trans h'.comparison
  obtain rfl : limit = limit' := h.limit.unique h'.limit
  rfl

/-- A text that can be split is rejected for the number of a percentile only. -/
theorem exists_read_of_split (d : Split) {s : String} (h : d.text = s.toList) :
    ∃ e, d.Means e ∧ (d.InRange → read s = .ok e) ∧
      (¬ d.InRange → ∃ p, e.statistic = .percentile p ∧ read s = .error (.percentile p)) := by
  have hparts := parts?_text d
  rw [h] at hparts
  have hlimit := means_numberOf d.limit
  obtain ⟨before, w, gap, c, gap', limit, after⟩ := d
  cases w with
  | plain statistic hmem =>
    refine ⟨⟨statistic, c, numberOf limit.text⟩, ⟨rfl, rfl, hlimit⟩, fun _ => ?_, fun hrange => ?_⟩
    · rw [read, hparts]
      rfl
    · exact absurd (fun v hv => nomatch hv) hrange
  | percentile left n right =>
    have hnumber := isNearest_numberOf n
    have hinRange : Split.InRange ⟨before, .percentile left n right, gap, c, gap', limit, after⟩ ↔
        isPercentile (numberOf n.text) = true := by
      rw [isPercentile_iff hnumber]
      exact ⟨fun hrange => hrange _ rfl, fun hle v hv => Option.some.inj hv ▸ hle⟩
    refine ⟨⟨.percentile (numberOf n.text), c, numberOf limit.text⟩,
      ⟨⟨_, rfl, hnumber⟩, rfl, hlimit⟩, fun hrange => ?_, fun hrange => ⟨_, rfl, ?_⟩⟩
    · rw [read, hparts]
      exact if_pos (hinRange.1 hrange)
    · rw [read, hparts]
      exact if_neg (mt hinRange.2 hrange)

theorem read_of_no_split {s : String} (h : ∀ d : Split, d.text ≠ s.toList) :
    read s = .error (.form s) := by
  cases hparts : parts? s.toList with
  | none => rw [read, hparts]
  | some parts =>
    obtain ⟨d, hd, -⟩ := exists_split_of_parts? hparts
    exact absurd hd (h d)

/-! ## Acceptance -/

theorem read_eq_ok_iff {s : String} {e : Expression} :
    read s = .ok e ↔ ∃ d : Split, d.text = s.toList ∧ d.InRange ∧ d.Means e := by
  constructor
  · intro hread
    by_cases hsplit : ∃ d : Split, d.text = s.toList
    · obtain ⟨d, hd⟩ := hsplit
      obtain ⟨e', hmeans, hok, herror⟩ := exists_read_of_split d hd
      by_cases hrange : d.InRange
      · obtain rfl := Except.ok.inj ((hok hrange).symm.trans hread)
        exact ⟨d, hd, hrange, hmeans⟩
      · obtain ⟨p, -, hbad⟩ := herror hrange
        cases hbad.symm.trans hread
    · cases (read_of_no_split (not_exists.1 hsplit)).symm.trans hread
  · rintro ⟨d, hd, hrange, hmeans⟩
    obtain ⟨e', hmeans', hok, -⟩ := exists_read_of_split d hd
    rw [hok hrange, hmeans.unique hmeans']

theorem read_eq_percentile_iff {s : String} {p : Float} :
    read s = .error (.percentile p) ↔
      ∃ d : Split, d.text = s.toList ∧ ¬ d.InRange ∧ d.statistic.Means (.percentile p) := by
  constructor
  · intro hread
    by_cases hsplit : ∃ d : Split, d.text = s.toList
    · obtain ⟨d, hd⟩ := hsplit
      obtain ⟨e, hmeans, hok, herror⟩ := exists_read_of_split d hd
      by_cases hrange : d.InRange
      · cases (hok hrange).symm.trans hread
      · obtain ⟨q, hq, hbad⟩ := herror hrange
        cases hbad.symm.trans hread
        exact ⟨d, hd, hrange, hq ▸ hmeans.statistic⟩
    · cases (read_of_no_split (not_exists.1 hsplit)).symm.trans hread
  · rintro ⟨d, hd, hrange, hp⟩
    obtain ⟨e, hmeans, -, herror⟩ := exists_read_of_split d hd
    obtain ⟨q, hq, hbad⟩ := herror hrange
    obtain rfl : q = p := Statistic.percentile.inj (hq.symm.trans (hmeans.statistic.unique hp))
    exact hbad

theorem read_eq_form_iff {s t : String} :
    read s = .error (.form t) ↔ t = s ∧ ∀ d : Split, d.text ≠ s.toList := by
  constructor
  · intro hread
    by_cases hsplit : ∃ d : Split, d.text = s.toList
    · obtain ⟨d, hd⟩ := hsplit
      obtain ⟨e, -, hok, herror⟩ := exists_read_of_split d hd
      by_cases hrange : d.InRange
      · cases (hok hrange).symm.trans hread
      · obtain ⟨p, -, hbad⟩ := herror hrange
        cases hbad.symm.trans hread
    · have hnone := not_exists.1 hsplit
      cases (read_of_no_split hnone).symm.trans hread
      exact ⟨rfl, hnone⟩
  · rintro ⟨rfl, hnone⟩
    exact read_of_no_split hnone

/-- An expression is read exactly from the texts that can be split, and it is what is written, unless
the number of a percentile is too large; there is no other reason for an error of that kind, and no
text can be split in two ways. The number is compared as the nearest float, so that what is above 100
by no more than half of the last place passes. -/
theorem read_accepts_exactly (s : String) :
    (∀ e, read s = .ok e ↔ ∃ d : Split, d.text = s.toList ∧ d.InRange ∧ d.Means e) ∧
    (∀ p, read s = .error (.percentile p) ↔
      ∃ d : Split, d.text = s.toList ∧ ¬ d.InRange ∧ d.statistic.Means (.percentile p)) ∧
    (∀ t, read s = .error (.form t) ↔ t = s ∧ ∀ d : Split, d.text ≠ s.toList) ∧
    Function.Injective Split.text :=
  ⟨fun _ => read_eq_ok_iff, fun _ => read_eq_percentile_iff, fun _ => read_eq_form_iff,
    split_text_injective⟩

/-- A percentile a little above 100. -/
def barelyAbove : Split where
  before := .empty
  statistic := .percentile .empty ⟨⟨"100".toList, by decide, List.all_eq_true.1 (by decide)⟩,
    some ⟨"00000000000000000001".toList, by decide, List.all_eq_true.1 (by decide)⟩⟩ .empty
  gap := .empty
  comparison := .lt
  gap' := .empty
  limit := ⟨false, ⟨⟨"1".toList, by decide, List.all_eq_true.1 (by decide)⟩, none⟩⟩
  after := .empty

/-- The exact number is not what decides. -/
theorem not_read_iff_le_hundred : ¬ ∀ s : String, (∃ e, read s = .ok e) ↔
    ∃ d : Split, d.text = s.toList ∧ ∀ v ∈ d.statistic.number?, v ≤ 100 := by
  intro h
  have htext : barelyAbove.text = "p(100.00000000000000000001)<1".toList := by decide
  have hvalue : barelyAbove.statistic.number? = some (100 + 1 / 10 ^ 20) := by
    have hwhole : ofDigits "100".toList = 100 := rfl
    have hplaces : ofDigits "00000000000000000001".toList = 1 := rfl
    change some ((ofDigits "100".toList : ℚ) + ofDigits "00000000000000000001".toList / 10 ^ 20) = _
    rw [hwhole, hplaces]
    norm_num
  have hrange : barelyAbove.InRange := by
    rw [Split.InRange, hvalue]
    rintro v ⟨⟩
    norm_num
  obtain ⟨e, -, hok, -⟩ := exists_read_of_split barelyAbove htext
  obtain ⟨d, hd, hle⟩ := (h _).1 ⟨e, hok hrange⟩
  rw [split_text_injective (hd.trans htext.symm), hvalue] at hle
  have hhundred : (100 + 1 / 10 ^ 20 : ℚ) ≤ 100 := hle _ rfl
  norm_num at hhundred

end Expression

/-! ## Thresholds -/

theorem Threshold.read_eq_ok_iff {metric expression : String} {aborts : Bool} {delay : Span}
    {t : Threshold} : read metric expression aborts delay = .ok t ↔
      Metric.read? metric = some t.metric ∧ Expression.read expression = .ok t.expression ∧
        supports t.metric t.expression.statistic = true ∧
        t.source = String.ofList (trim expression.toList) ∧ t.aborts = aborts ∧ t.delay = delay := by
  rw [read]
  constructor
  · intro h
    cases hmetric : Metric.read? metric with
    | none =>
      rw [hmetric] at h
      cases h
    | some m =>
      cases hexpression : Expression.read expression with
      | error cause =>
        rw [hmetric, hexpression] at h
        cases h
      | ok e =>
        rw [hmetric, hexpression] at h
        dsimp only at h
        split at h
        · next hsupports =>
          cases h
          exact ⟨rfl, rfl, hsupports, rfl, rfl, rfl⟩
        · cases h
  · rintro ⟨hmetric, hexpression, hsupports, hsource, rfl, rfl⟩
    rw [hmetric, hexpression]
    dsimp only
    rw [if_pos hsupports, ← hsource]

end FedLoad
