import FedLoad.Proofs.Decimal.Written
import FedLoad.Proofs.Text.Blank
import FedLoad.Span.Text
/-!
# Whole milliseconds written and read

A whole number is read from its digits, as long as it is not above the bound. A span of whole
milliseconds is written as digits with `ms` behind them, and reading finds that unit before it looks
at the last character alone.

Main statement: `Span.readChars_of_trim`.
-/
namespace FedLoad

open Text

/-! ## Whole numbers -/

namespace Decimal

theorem le_ofDigits_from (n : Nat) (ds : List Char) :
    n ≤ ds.foldl (fun n c => 10 * n + (c.toNat - '0'.toNat)) n := by
  induction ds generalizing n with
  | nil => exact Nat.le_refl n
  | cons c rest ih =>
    rw [List.foldl_cons]
    exact Nat.le_trans (by omega) (ih _)

/-- Digits are read to their end if what they come to is allowed. -/
theorem wholeFrom_of_digits {most n : Nat} {ds : List Char} (hdigits : ∀ c ∈ ds, isDigit c = true)
    (hle : ds.foldl (fun n c => 10 * n + (c.toNat - '0'.toNat)) n ≤ most) :
    wholeFrom most n ds = .ok (ds.foldl (fun n c => 10 * n + (c.toNat - '0'.toNat)) n) := by
  induction ds generalizing n with
  | nil => rfl
  | cons c rest ih =>
    rw [List.forall_mem_cons] at hdigits
    rw [List.foldl_cons] at hle ⊢
    have hdigit : digit? c = some (c.toNat - '0'.toNat) := if_pos hdigits.1
    rw [wholeFrom, hdigit]
    dsimp only
    rw [if_pos (Nat.le_trans (le_ofDigits_from _ rest) hle)]
    exact ih hdigits.2 hle

theorem whole_of_digits {most : Nat} {ds : List Char} (hne : ds ≠ [])
    (hdigits : ∀ c ∈ ds, isDigit c = true) (hle : ofDigits ds ≤ most) :
    whole most ds = .ok (ofDigits ds) := by
  obtain ⟨c, rest, rfl⟩ := List.exists_cons_of_ne_nil hne
  have hplus : c ≠ '+' := by
    rintro rfl
    cases hdigits _ List.mem_cons_self
  have hwhole : whole most (c :: rest) = wholeFrom most 0 (c :: rest) := by
    unfold whole
    split <;> simp_all
  rw [hwhole]
  exact wholeFrom_of_digits hdigits hle

theorem digits_ne_nil (n : Nat) : digits n ≠ [] := Nat.toDigits_ne_nil

end Decimal

/-! ## Spans -/

namespace Span

open Decimal

theorem unsnoc?_concat (s : List Char) (c : Char) : unsnoc? (s ++ [c]) = some (s, c) := by
  rw [unsnoc?, List.getLast?_concat, List.dropLast_concat]
  rfl

theorem splitUnit?_millis (s : List Char) :
    splitUnit? (s ++ ['m', 's']) = some (s, ['m', 's']) := by
  have hsplit : s ++ ['m', 's'] = s ++ ['m'] ++ ['s'] := by simp
  rw [splitUnit?, hsplit, unsnoc?_concat, Option.map_some]
  dsimp only
  rw [unsnoc?_concat]
  rfl

/-- A span of whole milliseconds, fewer than `2^64` of them. -/
def IsMillis (s : Span) : Prop := ∃ n < 2 ^ 64, s = ofMillis n

theorem millis_ofMillis (n : Nat) : (ofMillis n).millis = n :=
  Nat.mul_div_cancel n (by decide)

theorem IsMillis.lt_limit {d : Span} (h : d.IsMillis) : d < limit := by
  obtain ⟨n, hn, rfl⟩ := h
  change n * 1000000 < 2 ^ 64 * 1000000000
  omega

/-- Blanks around a span are ignored, and whole milliseconds are read as they were written. -/
theorem readChars_of_trim {s : List Char} {d : Span} (h : d.IsMillis)
    (htrim : trim s = writeMillis d) : readChars s = .ok d := by
  have hkept := wrapped_eq_iff.2 h.lt_limit
  obtain ⟨n, hn, rfl⟩ := h
  have hwhole : whole (largest 64) (digits n) = .ok n := by
    have hle : ofDigits (digits n) ≤ largest 64 := by
      rw [ofDigits_digits]
      exact Nat.le_sub_one_of_lt hn
    rw [whole_of_digits (digits_ne_nil n) (fun c => isDigit_of_mem_digits) hle, ofDigits_digits]
  rw [readChars, htrim, writeMillis, millis_ofMillis, Unit.symbol, splitUnit?_millis]
  dsimp only
  rw [hwhole]
  exact congrArg Except.ok hkept

end Span

end FedLoad
