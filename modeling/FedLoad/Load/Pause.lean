import FedLoad.Span.Text
/-!
# Pauses

A virtual user pauses for a fixed span, or for a span drawn anew each time from a range. A range is
written with a hyphen: `1s-3s`. Draws are whole milliseconds, counted in words of sixty-four bits.
If the range holds no two of them in order, the pause is its lower end.
-/
namespace FedLoad

inductive Pause where
  | fixed (length : Span)
  | between (least most : Span)
deriving DecidableEq, Repr

namespace Pause

open Text

/-- Reads a span, or two of them around the first hyphen. -/
def read (s : String) : Except Span.ReadError Pause :=
  match cut '-' s.toList with
  | some (least, most) =>
    match Span.readChars least with
    | .error e => .error e
    | .ok least =>
      match Span.readChars most with
      | .error e => .error e
      | .ok most => .ok (.between least most)
  | none =>
    match Span.readChars s.toList with
    | .error e => .error e
    | .ok length => .ok (.fixed length)

/-- Milliseconds in a word of sixty-four bits. -/
def wordMillis (s : Span) : Nat := s.millis % Nat.pow 2 64

/-- The milliseconds to draw from, if there is a choice. -/
def choice? : Pause → Option (Nat × Nat)
  | .fixed _ => none
  | .between least most =>
    if wordMillis most ≤ wordMillis least then none else some (wordMillis least, wordMillis most)

/-- The length without a choice: of a range, its lower end. -/
def base : Pause → Span
  | .fixed length => length
  | .between least _ => least

/-- The length of the pause; `draw` decides where there is a choice. -/
def length (p : Pause) (draw : Nat) : Span :=
  match p.choice? with
  | none => p.base
  | some (least, most) => .ofMillis (least + draw % (most - least + 1))

/-- Is no pause meant at all? -/
def isZero : Pause → Bool
  | .fixed length => length.isZero
  | .between least most => least.isZero && most.isZero

end Pause

end FedLoad
