import FedLoad.Proofs.Decimal.Written
import FedLoad.Proofs.Threshold.Grammar
import FedLoad.Proofs.Threshold.Selector
/-!
# Thresholds read again

What has been read of a threshold can be written down and read again: its metric by name, its
expression as it was written without the blanks at its ends, or put together from its parts. The
number of a percentile and the limit are then written with the shortest digits that tell them from
other floats, so that the same floats are read. An infinite limit has no digits.

Main statement: `Threshold.read_again`.
-/
namespace FedLoad

open Text Decimal

namespace Expression

/-! ## Without the blanks at the ends -/

/-- The same parts without the blanks at the ends. -/
def Split.core (d : Split) : Split := { d with before := .empty, after := .empty }

theorem endsVisibly_limit (l : Limit) : EndsVisibly l.text := by
  obtain ⟨negative, w, - | f⟩ := l
  · have hend := w.endsVisibly not_isBlank_of_isDigit
    cases negative
    · exact hend
    · exact hend.append ['-']
  · have hend := f.endsVisibly not_isBlank_of_isDigit
    have hnumeral : EndsVisibly (w.val ++ '.' :: f.val) := (hend.append ['.']).append w.val
    cases negative
    · exact hnumeral
    · exact hnumeral.append ['-']

theorem trim_text (d : Split) : trim d.text = d.core.text := by
  obtain ⟨before, statistic, gap, c, gap', limit, after⟩ := d
  have hstart := (startsVisibly_spelling statistic).append
    (gap.val ++ (c.symbol.toList ++ (gap'.val ++ limit.text)))
  have hend := ((((endsVisibly_limit limit).append gap'.val).append c.symbol.toList).append
    gap.val).append statistic.text
  have htrim := trim_blanks before after hstart hend
  simp only [List.append_assoc] at htrim
  simp only [Split.text, Split.core, htrim]
  change _ = statistic.text ++ (gap.val ++ (c.symbol.toList ++ (gap'.val ++ (limit.text ++ []))))
  rw [List.append_nil]

theorem read_trim {s : String} {e : Expression} (h : read s = .ok e) :
    read (String.ofList (trim s.toList)) = .ok e := by
  obtain ⟨d, htext, hrange, hmeans⟩ := read_eq_ok_iff.1 h
  refine read_eq_ok_iff.2 ⟨d.core, ?_, hrange, ⟨hmeans.statistic, hmeans.comparison, hmeans.limit⟩⟩
  rw [String.toList_ofList, ← htext, trim_text]

theorem trim_trim_of_read {s : String} {e : Expression} (h : read s = .ok e) :
    trim (trim s.toList) = trim s.toList := by
  obtain ⟨d, htext, -⟩ := read_eq_ok_iff.1 h
  rw [← htext, trim_text, trim_text]
  rfl

/-! ## Put together from the parts -/

/-- The text of an expression, with blanks around the comparison. -/
def write (e : Expression) (gap gap' : Blanks) : String :=
  String.ofList (e.statistic.write.toList ++ (gap.val ++ (e.comparison.symbol.toList ++
    (gap'.val ++ (Decimal.write .amount e.limit).toList))))

theorem exists_limit_write {x : Float} (h : isFinite x = true) :
    ∃ l : Limit, l.text = (Decimal.write .amount x).toList ∧ l.Means x := by
  unfold isFinite at h
  split at h
  · next negative m e hx =>
    obtain ⟨n, y, htext, hy, hxy⟩ := exists_numeral_write hx
    exact ⟨⟨negative, n⟩, htext.symm, y, hy, hxy⟩
  · cases h

theorem exists_finite_of_isPercentile {p : Float} {v : ℚ} (h : IsNearest p v)
    (hp : isPercentile p = true) : ∃ m e, Double.ofFloat p = .finite false m e := by
  obtain ⟨m, e, -, hfloat⟩ := h
  split at hfloat
  · obtain rfl : p = 1.0 / 0.0 := eq_of_ofFloat_eq hfloat rfl Double.noConfusion
    cases hp
  · exact ⟨m, e, hfloat⟩

/-- A statistic that has been read is spelled the way it is written. -/
theorem exists_spelling_write {w : Spelling} {s : Statistic} (h : w.Means s)
    (hrange : ∀ v ∈ w.number?, v ≤ 100 + 1 / 2 ^ 47) :
    ∃ w' : Spelling, w'.text = s.write.toList ∧ w'.Means s ∧
      ∀ v ∈ w'.number?, v ≤ 100 + 1 / 2 ^ 47 := by
  cases w with
  | plain t hmem =>
    obtain rfl : s = t := h
    exact ⟨.plain s hmem, rfl, rfl, hrange⟩
  | percentile before number after =>
    obtain ⟨p, rfl, hp⟩ := h
    have hpercentile := (isPercentile_iff hp).2 (hrange _ rfl)
    obtain ⟨m, e, hfloat⟩ := exists_finite_of_isPercentile hp hpercentile
    obtain ⟨n, y, htext, hy, hpy⟩ := exists_numeral_write hfloat
    obtain rfl : p = y := hpy
    refine ⟨.percentile .empty n .empty, ?_, ⟨p, rfl, hy⟩, ?_⟩
    · have hwritten : (Statistic.percentile p).write.toList =
          ['p', '('] ++ ((Decimal.write .amount p).toList ++ [')']) := by
        simp only [Statistic.write, String.toList_append, List.append_assoc]
        rfl
      rw [hwritten, htext]
      rfl
    · rintro v ⟨⟩
      exact (isPercentile_iff hy).1 hpercentile

theorem read_write {s : String} {e : Expression} (h : read s = .ok e)
    (hlimit : isFinite e.limit = true) (gap gap' : Blanks) : read (e.write gap gap') = .ok e := by
  obtain ⟨d, -, hrange, hmeans⟩ := read_eq_ok_iff.1 h
  obtain ⟨w, hw, hwmeans, hwrange⟩ := exists_spelling_write hmeans.statistic hrange
  obtain ⟨l, hl, hlmeans⟩ := exists_limit_write hlimit
  refine read_eq_ok_iff.2 ⟨⟨.empty, w, gap, e.comparison, gap', l, .empty⟩, ?_, hwrange,
    ⟨hwmeans, rfl, hlmeans⟩⟩
  rw [write, String.toList_ofList, ← hw, ← hl, ← List.append_nil l.text]
  rfl

end Expression

namespace Threshold

/-- A threshold that has been read is read again from its metric and its source, and its expression
is read again from its parts if the limit is finite. In a metric blanks may stand between any two
parts, and nowhere else, and they may be left out. -/
theorem read_again :
    (∀ (metric expression : String) (aborts : Bool) (delay : Span) (t : Threshold),
      read metric expression aborts delay = .ok t →
        read t.metric.write t.source aborts delay = .ok t ∧
        (isFinite t.expression.limit = true → ∀ gap gap' : Blanks,
          Expression.read (t.expression.write gap gap') = .ok t.expression)) ∧
    (∀ p : Metric.Spelling, p.bare.text = visible p.text ∧
      Metric.read? (String.ofList p.text) = Metric.read? (String.ofList p.bare.text)) ∧
    (∀ (s : String) (m : Metric), Metric.read? s = some m →
      ∃ p : Metric.Spelling, p.text = s.toList) := by
  refine ⟨fun metric expression aborts delay t h => ?_,
    fun p => ⟨Metric.text_bare p, Metric.read?_text_bare p⟩,
    fun _ _ => Metric.exists_spelling_of_read?⟩
  obtain ⟨-, hexpression, hsupports, hsource, haborts, hdelay⟩ := read_eq_ok_iff.1 h
  refine ⟨read_eq_ok_iff.2 ⟨Metric.read?_write _, ?_, hsupports, ?_, haborts, hdelay⟩,
    Expression.read_write hexpression⟩
  · rw [hsource]
    exact Expression.read_trim hexpression
  · rw [hsource, String.toList_ofList, Expression.trim_trim_of_read hexpression]

/-- A percentile with one zero too many, and a limit of minus zero. -/
def slowest : Threshold := ⟨.latency, ⟨.percentile 99.9, .ge, -0.0⟩, "p( 99.90 )>=-0.0", true, .zero⟩

theorem read_again_slowest :
    read " http_req_duration " " p( 99.90 )>=-0.0 " true .zero = .ok slowest ∧
      read "http_req_duration" "p( 99.90 )>=-0.0" true .zero = .ok slowest ∧
      Expression.read "p(99.9)>=-0" = .ok slowest.expression ∧
      ∃ p : Metric.Spelling, p.text = " http_req_duration ".toList := by
  have hmetric : Metric.read? " http_req_duration " = some .latency := rfl
  have hparts : Expression.parts? " p( 99.90 )>=-0.0 ".toList =
      some (.percentile "99.90".toList, .ge, "-0.0".toList) := rfl
  have hnumber : Expression.numberOf "99.90".toList = 99.9 := by decide +kernel
  have hlimit : Expression.numberOf "-0.0".toList = -0.0 := by decide +kernel
  have hpercentile : Expression.isPercentile 99.9 = true := by decide +kernel
  have hexpression : Expression.read " p( 99.90 )>=-0.0 " = .ok slowest.expression := by
    rw [Expression.read, hparts]
    dsimp only
    rw [hnumber, hlimit, if_pos hpercentile]
    rfl
  have hread : read " http_req_duration " " p( 99.90 )>=-0.0 " true .zero = .ok slowest :=
    read_eq_ok_iff.2 ⟨hmetric, hexpression, rfl, rfl, rfl, rfl⟩
  have hwritten : slowest.expression.write .empty .empty = "p(99.9)>=-0" := by decide +kernel
  obtain ⟨hagain, hparsed⟩ := read_again.1 _ _ _ _ _ hread
  refine ⟨hread, hagain, ?_, read_again.2.2 _ _ hmetric⟩
  rw [← hwritten]
  exact hparsed rfl .empty .empty

end Threshold

end FedLoad
