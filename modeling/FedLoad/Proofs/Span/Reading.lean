import FedLoad.Proofs.Span.Text
/-!
# Which texts are spans

A text is a span just if it is a whole number with a unit behind it, blanks around the two not
counted. The unit is looked for first: `ms` if the text ends so, and else the last character,
whatever it is. So the cut before the unit always falls between two characters, and what is said
against a text that is no span is said about the two parts of this cut, the number before the unit.

The span that is read has the length that is written if that is below the limit of spans. If it is
not, multiples of the limit are lost; either way what is read is below the limit.

Main statement: `Span.read_classified`.
-/
namespace FedLoad

open Text

/-! ## Whole numbers -/

namespace Decimal

/-- Digits that stand for a number, with or without a plus sign before them. -/
def IsNumeral (s : List Char) (n : Nat) : Prop :=
  ∃ ds, (s = ds ∨ s = '+' :: ds) ∧ ds ≠ [] ∧ (∀ c ∈ ds, isDigit c = true) ∧ n = ofDigits ds

theorem isNumeral_digits (n : Nat) : IsNumeral (digits n) n :=
  ⟨digits n, .inl rfl, digits_ne_nil n, fun _ => isDigit_of_mem_digits, (ofDigits_digits n).symm⟩

theorem digit?_eq_none_iff {c : Char} : digit? c = none ↔ isDigit c = false := by
  rw [← digit?_isSome, Option.isSome_eq_false_iff, Option.isNone_iff_eq_none]

/-- Only digits are read to their end. -/
theorem digits_of_wholeFrom {most m n : Nat} {s : List Char} (h : wholeFrom most m s = .ok n) :
    (∀ c ∈ s, isDigit c = true) ∧ n = s.foldl (fun n c => 10 * n + (c.toNat - '0'.toNat)) m := by
  induction s generalizing m with
  | nil => exact ⟨nofun, (Except.ok.inj h).symm⟩
  | cons c rest ih =>
    cases hdigit : isDigit c with
    | false =>
      rw [wholeFrom, digit?_eq_none_iff.2 hdigit] at h
      cases h
    | true =>
      have hvalue : digit? c = some (c.toNat - '0'.toNat) := if_pos hdigit
      rw [wholeFrom, hvalue] at h
      dsimp only at h
      split at h
      · obtain ⟨hrest, heq⟩ := ih h
        exact ⟨List.forall_mem_cons.2 ⟨hdigit, hrest⟩, heq⟩
      · cases h

theorem whole_plus {most : Nat} {ds : List Char} (hne : ds ≠ []) :
    whole most ('+' :: ds) = wholeFrom most 0 ds := by
  obtain ⟨c, rest, rfl⟩ := List.exists_cons_of_ne_nil hne
  rfl

/-- What is read is a numeral, and a numeral is read if its number is allowed. -/
theorem whole_eq_ok_iff {most n : Nat} {s : List Char} :
    whole most s = .ok n ↔ IsNumeral s n ∧ n ≤ most := by
  constructor
  · intro h
    refine ⟨?_, whole_le h⟩
    unfold whole at h
    split at h
    · cases h
    · cases h
    · next ds hne =>
      obtain ⟨hdigits, heq⟩ := digits_of_wholeFrom h
      exact ⟨ds, .inr rfl, hne, hdigits, heq⟩
    · next hnil _ _ =>
      obtain ⟨hdigits, heq⟩ := digits_of_wholeFrom h
      exact ⟨s, .inl rfl, hnil, hdigits, heq⟩
  · rintro ⟨⟨ds, hs, hne, hdigits, rfl⟩, hle⟩
    rcases hs with rfl | rfl
    · exact whole_of_digits hne hdigits hle
    · rw [whole_plus hne]
      exact wholeFrom_of_digits hdigits hle

theorem whole_largest_eq_ok_iff {bits n : Nat} {s : List Char} :
    whole (largest bits) s = .ok n ↔ n < 2 ^ bits ∧ IsNumeral s n := by
  have hlargest : n ≤ largest bits ↔ n < 2 ^ bits := Nat.le_sub_one_iff_lt (Nat.two_pow_pos bits)
  rw [whole_eq_ok_iff, hlargest, and_comm]

end Decimal

/-! ## Units -/

namespace Span

open Decimal

/-- The units as they are written, and their lengths in nanoseconds. -/
def units : List (String × Nat) :=
  [("ms", 1000000), ("s", 1000000000), ("m", 60 * 1000000000), ("h", 60 * 60 * 1000000000),
    ("d", 24 * 60 * 60 * 1000000000)]

theorem mem_units (u : Unit) : (String.ofList u.symbol, u.span.nanos) ∈ units := by
  cases u <;> decide

/-- No other units are written. -/
theorem exists_of_mem_units {symbol : String} {nanos : Nat} (h : (symbol, nanos) ∈ units) :
    ∃ u : Unit, symbol = String.ofList u.symbol ∧ nanos = u.span.nanos := by
  have hunits : units = Unit.all.map fun u => (String.ofList u.symbol, u.span.nanos) := by decide
  rw [hunits] at h
  obtain ⟨u, -, hu⟩ := List.mem_map.1 h
  cases hu
  exact ⟨u, rfl, rfl⟩

theorem ofSymbol?_symbol (u : Unit) : Unit.ofSymbol? u.symbol = some u := by
  cases u <;> rfl

theorem ofSymbol?_eq_some_iff {s : List Char} {u : Unit} :
    Unit.ofSymbol? s = some u ↔ s = u.symbol := by
  constructor
  · intro h
    have hsame := List.find?_some (p := fun u : Unit => u.symbol == s) h
    exact (eq_of_beq hsame).symm
  · rintro rfl
    exact ofSymbol?_symbol u

theorem ofSymbol?_eq_none_iff {s : List Char} :
    Unit.ofSymbol? s = none ↔ String.ofList s ∉ units.map Prod.fst := by
  constructor
  · intro h hmem
    obtain ⟨⟨symbol, nanos⟩, hunit, hs⟩ := List.mem_map.1 hmem
    obtain ⟨u, rfl, -⟩ := exists_of_mem_units hunit
    obtain rfl := String.ofList_injective hs
    rw [ofSymbol?_symbol] at h
    cases h
  · intro h
    cases hu : Unit.ofSymbol? s with
    | none => rfl
    | some u =>
      obtain rfl := ofSymbol?_eq_some_iff.1 hu
      exact absurd (List.mem_map_of_mem (mem_units u)) h

/-! ## The cut before the unit -/

/-- The parts of a text before and behind the place where its unit begins. -/
structure IsParted (s number unit : List Char) : Prop where
  joined : s = number ++ unit
  behind : unit = ['m', 's'] ∨ ¬ ['m', 's'] <:+ s ∧ ∃ c, unit = [c]

section Parted

variable {s number unit : List Char}

theorem splitUnit?_eq_none_iff : splitUnit? s = none ↔ s = [] := by
  simp [splitUnit?, unsnoc?]

/-- Of a text that does not end in `ms` the last character is taken. -/
theorem splitUnit?_concat {c : Char} (h : ¬ ['m', 's'] <:+ s ++ [c]) :
    splitUnit? (s ++ [c]) = some (s, [c]) := by
  rw [splitUnit?, unsnoc?_concat, Option.map_some]
  dsimp only
  split
  · next number hm =>
    rcases List.eq_nil_or_concat s with rfl | ⟨front, d, rfl⟩
    · cases hm
    · rw [List.concat_eq_append, unsnoc?_concat] at hm
      cases hm
      rw [if_neg]
      rintro rfl
      exact h ⟨number, by simp⟩
  · rfl

theorem splitUnit?_eq_some_iff : splitUnit? s = some (number, unit) ↔ IsParted s number unit := by
  constructor
  · intro h
    by_cases hms : ['m', 's'] <:+ s
    · obtain ⟨front, rfl⟩ := hms
      rw [splitUnit?_millis] at h
      cases h
      exact ⟨rfl, .inl rfl⟩
    · rcases List.eq_nil_or_concat s with rfl | ⟨front, c, rfl⟩
      · cases h
      · rw [List.concat_eq_append] at h hms ⊢
        rw [splitUnit?_concat hms] at h
        cases h
        exact ⟨rfl, .inr ⟨hms, c, rfl⟩⟩
  · rintro ⟨rfl, rfl | ⟨hms, c, rfl⟩⟩
    · exact splitUnit?_millis number
    · exact splitUnit?_concat hms

/-- The number ends where a character of the text begins, or at the end of the text. -/
theorem IsParted.isValid (h : IsParted s number unit) :
    (String.ofList number).rawEndPos.IsValid (String.ofList s) := by
  rw [String.Pos.Raw.isValid_iff_exists_append]
  exact ⟨String.ofList number, String.ofList unit, by rw [h.joined, String.ofList_append], rfl⟩

theorem ends_of_suffix {c : Char} (h : ['m', 's'] <:+ s ++ [c]) : c = 's' ∧ 'm' ∈ s := by
  obtain ⟨front, hfront⟩ := h
  have hsplit : front ++ ['m', 's'] = front ++ ['m'] ++ ['s'] := by simp
  rw [hsplit] at hfront
  obtain ⟨rfl, hs⟩ := List.append_inj' hfront rfl
  exact ⟨(List.cons.inj hs).1.symm, by simp⟩

/-- A number with a unit behind it is cut between the two: the `m` of `ms` is no digit. -/
theorem isParted_symbol (u : Unit) {n : Nat} (h : IsNumeral number n) :
    IsParted (number ++ u.symbol) number u.symbol := by
  have hm : 'm' ∉ number := by
    obtain ⟨ds, rfl | rfl, -, hdigits, -⟩ := h
    · intro hmem
      cases hdigits _ hmem
    · intro hmem
      rcases List.mem_cons.1 hmem with hplus | hmem
      · cases hplus
      · cases hdigits _ hmem
  refine ⟨rfl, ?_⟩
  cases u with
  | millisecond => exact .inl rfl
  | _ => exact .inr ⟨fun hms => hm (ends_of_suffix hms).2, _, rfl⟩

end Parted

/-! ## Reading -/

/-- A whole number below `2^64` and a unit, and the length that the two come to. -/
def IsWritten (s : List Char) (length : Span) : Prop :=
  ∃ number unit nanos n, (unit, nanos) ∈ units ∧ s = number ++ unit.toList ∧ IsNumeral number n ∧
    n < 2 ^ 64 ∧ length = ⟨n * nanos⟩

/-- What is said against a text that is no span. Of an unknown unit is spoken only if the number
before it can be read. -/
inductive Faulty (s : List Char) : ReadError → Prop
  | empty (hempty : s = []) : Faulty s .empty
  | number {number unit : List Char} (hparts : IsParted s number unit)
    (hnumber : ¬ ∃ n < 2 ^ 64, IsNumeral number n) : Faulty s (.number (String.ofList number))
  | unit {number unit : List Char} (hparts : IsParted s number unit)
    (hnumber : ∃ n < 2 ^ 64, IsNumeral number n) (hunit : String.ofList unit ∉ units.map Prod.fst) :
    Faulty s (.unit (String.ofList unit))

section Read

variable {s : List Char}

theorem readChars_of_isWritten {length : Span} (h : IsWritten (trim s) length) :
    readChars s = .ok length.wrapped := by
  obtain ⟨number, unit, nanos, n, hunit, hjoined, hnumber, hfits, rfl⟩ := h
  obtain ⟨u, rfl, rfl⟩ := exists_of_mem_units hunit
  rw [String.toList_ofList] at hjoined
  rw [readChars, hjoined, splitUnit?_eq_some_iff.2 (isParted_symbol u hnumber)]
  dsimp only
  rw [whole_largest_eq_ok_iff.2 ⟨hfits, hnumber⟩]
  dsimp only
  rw [ofSymbol?_symbol]
  rfl

theorem readChars_of_faulty {e : ReadError} (h : Faulty (trim s) e) : readChars s = .error e := by
  cases h with
  | empty hempty =>
    rw [readChars, hempty]
    rfl
  | number hparts hnumber =>
    rw [readChars, splitUnit?_eq_some_iff.2 hparts]
    dsimp only
    split
    · rfl
    · next n hok => exact absurd ⟨n, whole_largest_eq_ok_iff.1 hok⟩ hnumber
  | unit hparts hnumber hunit =>
    obtain ⟨n, hn⟩ := hnumber
    rw [readChars, splitUnit?_eq_some_iff.2 hparts]
    dsimp only
    rw [whole_largest_eq_ok_iff.2 hn]
    dsimp only
    rw [ofSymbol?_eq_none_iff.2 hunit]

/-- A text is a span or there is something to say against it. -/
theorem isWritten_or_faulty (s : List Char) :
    (∃ length, IsWritten s length) ∨ ∃ e, Faulty s e := by
  cases hsplit : splitUnit? s with
  | none => exact .inr ⟨_, .empty (splitUnit?_eq_none_iff.1 hsplit)⟩
  | some parts =>
    obtain ⟨number, unit⟩ := parts
    have hparts := splitUnit?_eq_some_iff.1 hsplit
    by_cases hnumber : ∃ n < 2 ^ 64, IsNumeral number n
    · cases hunit : Unit.ofSymbol? unit with
      | none => exact .inr ⟨_, .unit hparts hnumber (ofSymbol?_eq_none_iff.1 hunit)⟩
      | some u =>
        obtain rfl := ofSymbol?_eq_some_iff.1 hunit
        obtain ⟨n, hfits, hn⟩ := hnumber
        have hjoined : s = number ++ (String.ofList u.symbol).toList := by simpa using hparts.joined
        exact .inl ⟨_, number, _, _, n, mem_units u, hjoined, hn, hfits, rfl⟩
    · exact .inr ⟨_, .number hparts hnumber⟩

theorem readChars_eq_ok_iff {d : Span} :
    readChars s = .ok d ↔ ∃ length, IsWritten (trim s) length ∧ d = length.wrapped := by
  constructor
  · intro h
    rcases isWritten_or_faulty (trim s) with ⟨length, hlength⟩ | ⟨e, he⟩
    · rw [readChars_of_isWritten hlength] at h
      exact ⟨length, hlength, (Except.ok.inj h).symm⟩
    · rw [readChars_of_faulty he] at h
      cases h
  · rintro ⟨length, hlength, rfl⟩
    exact readChars_of_isWritten hlength

theorem readChars_eq_error_iff {e : ReadError} : readChars s = .error e ↔ Faulty (trim s) e := by
  refine ⟨fun h => ?_, readChars_of_faulty⟩
  rcases isWritten_or_faulty (trim s) with ⟨length, hlength⟩ | ⟨e', he⟩
  · rw [readChars_of_isWritten hlength] at h
    cases h
  · rw [readChars_of_faulty he] at h
    cases h
    exact he

/-- The length that is written is read just if it is below the limit. -/
theorem readChars_eq_length_iff {length : Span} (h : IsWritten (trim s) length) :
    readChars s = .ok length ↔ length < limit := by
  rw [readChars_of_isWritten h, Except.ok.injEq, wrapped_eq_iff]

/-- Whatever is read is below the limit. -/
theorem lt_limit_of_readChars {d : Span} (h : readChars s = .ok d) : d < limit := by
  obtain ⟨length, -, rfl⟩ := readChars_eq_ok_iff.1 h
  exact length.wrapped_lt_limit

/-- Whatever is read has whole milliseconds. -/
theorem exists_ofMillis_of_readChars {d : Span} (h : readChars s = .ok d) : ∃ n, d = ofMillis n := by
  obtain ⟨-, ⟨-, unit, nanos, n, hunit, -, -, -, rfl⟩, rfl⟩ := readChars_eq_ok_iff.1 h
  have hmillis : ∀ p ∈ units, 1000000 ∣ p.2 := by decide
  have hlength : 1000000 ∣ n * nanos := (hmillis _ hunit).mul_left n
  have hlimit : 1000000 ∣ limit.nanos := by decide +kernel
  obtain ⟨k, hk⟩ := (Nat.dvd_mod_iff hlimit).2 hlength
  exact ⟨k, congrArg mk (hk.trans (Nat.mul_comm 1000000 k))⟩

end Read

/-- Without the blanks around it, a text is read just if it is a number and a unit. It is read as so
many of that unit just if they are below the limit, and else as what a word keeps of them. Of every
other text it is said what is wrong with it, the number first. A text that is not empty is cut
between two of its characters. -/
theorem read_classified (s : String) :
    (∀ d, read s = .ok d ↔ ∃ length, IsWritten (trim s.toList) length ∧ d = length.wrapped) ∧
    (∀ length, IsWritten (trim s.toList) length → (read s = .ok length ↔ length < limit)) ∧
    (∀ e, read s = .error e ↔ Faulty (trim s.toList) e) ∧
    (trim s.toList = [] ∨ ∃ number unit, splitUnit? (trim s.toList) = some (number, unit) ∧
      trim s.toList = number ++ unit ∧
      (String.ofList number).rawEndPos.IsValid (String.ofList (trim s.toList))) := by
  refine ⟨fun d => readChars_eq_ok_iff, fun length => readChars_eq_length_iff,
    fun e => readChars_eq_error_iff, ?_⟩
  cases hsplit : splitUnit? (trim s.toList) with
  | none => exact .inl (splitUnit?_eq_none_iff.1 hsplit)
  | some parts =>
    have hparts := splitUnit?_eq_some_iff.1 hsplit
    exact .inr ⟨parts.1, parts.2, rfl, hparts.joined, hparts.isValid⟩

/-- An hour and a half in minutes, and minutes that are `2^64` seconds and 44 more. -/
theorem read_classified_minutes :
    IsWritten (trim " 90m".toList) (ofSeconds 5400) ∧ read " 90m" = .ok (ofSeconds 5400) ∧
    IsWritten (trim "307445734561825861m".toList) (ofSeconds (2 ^ 64 + 44)) ∧
    read "307445734561825861m" = .ok (ofSeconds 44) := by
  have hminute : ("m", 60 * 1000000000) ∈ units := by decide
  have hshort : IsWritten (trim " 90m".toList) (ofSeconds 5400) :=
    ⟨_, "m", _, 90, hminute, by decide +kernel, isNumeral_digits 90, by decide, rfl⟩
  have hlong : IsWritten (trim "307445734561825861m".toList) (ofSeconds (2 ^ 64 + 44)) :=
    ⟨_, "m", _, 307445734561825861, hminute, by decide +kernel, isNumeral_digits _, by decide,
      by decide +kernel⟩
  refine ⟨hshort, ?_, hlong, ?_⟩
  · exact ((read_classified " 90m").2.1 _ hshort).2 (by decide +kernel)
  · have hkept : ofSeconds 44 = (ofSeconds (2 ^ 64 + 44)).wrapped := by
      have hrest : (2 ^ 64 + 44) % Nat.pow 2 64 = 44 := by decide
      rw [wrapped_ofSeconds, hrest]
    exact ((read_classified "307445734561825861m").1 _).2 ⟨_, hlong, hkept⟩

/-- Two faults, and a last character of several bytes. -/
example : read " 1.5日 " = .error (.number "1.5") := by decide +kernel

end Span

end FedLoad
