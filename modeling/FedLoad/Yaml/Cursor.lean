/-!
# Places in a YAML text

A place is known by its line and column, and by the number of characters before it. A line feed, a
carriage return, both of them and the control character for a next line are one and the same line
break. The line and paragraph separators end a line too, and stay what they are in a scalar.
-/
namespace FedLoad.Yaml

/-! ## Characters -/

/-- The characters that a text may have. -/
def isAllowed (c : Char) : Bool :=
  let n := c.toNat
  n == 0x09 || n == 0x0A || n == 0x0D || (0x20 ≤ n && n ≤ 0x7E) || n == 0x85 ||
    (0xA0 ≤ n && n ≤ 0xFFFD) || 0x10000 ≤ n

/-- The text with one kind of line break besides the two separators. -/
def withLineFeeds : List Char → List Char
  | [] => []
  | '\x0d' :: '\n' :: rest => '\n' :: withLineFeeds rest
  | c :: rest => (if c = '\x0d' || c = '\u0085' then '\n' else c) :: withLineFeeds rest

def isBreak (c : Char) : Bool := c = '\n' || c = '\u2028' || c = '\u2029'

/-- A space or a tab. -/
def isGap (c : Char) : Bool := c = ' ' || c = '\t'

def isGapOrBreak (c : Char) : Bool := isGap c || isBreak c

/-- Is there no character of a word at the beginning? -/
def endsWord : List Char → Bool
  | [] => true
  | c :: _ => isGapOrBreak c

/-- The characters of names: ASCII letters and digits, the hyphen and the underscore. -/
def isNameChar (c : Char) : Bool :=
  ('a' ≤ c && c ≤ 'z') || ('A' ≤ c && c ≤ 'Z') || ('0' ≤ c && c ≤ '9') || c = '-' || c = '_'

/-- Do three hyphens or three points stand here as a word of their own? -/
def isDocumentMark : List Char → Bool
  | '-' :: '-' :: '-' :: rest | '.' :: '.' :: '.' :: rest => endsWord rest
  | _ => false

/-! ## Places -/

structure Mark where
  /-- The number of characters before the place. -/
  index : Nat
  line : Nat
  column : Nat
deriving DecidableEq, Repr

namespace Mark

def origin : Mark := ⟨0, 0, 0⟩

/-- The place after `n` characters of one line. -/
def forward (m : Mark) (n : Nat) : Mark := ⟨m.index + n, m.line, m.column + n⟩

/-- The place after a line break. -/
def newLine (m : Mark) : Mark := ⟨m.index + 1, m.line + 1, 0⟩

end Mark

/-- A place and what follows it. -/
structure Cursor where
  mark : Mark
  rest : List Char

namespace Cursor

def ofText (s : String) : Cursor := ⟨.origin, withLineFeeds s.toList⟩

/-- The place after `n` characters of one line. -/
def forward (c : Cursor) (n : Nat) : Cursor := ⟨c.mark.forward n, c.rest.drop n⟩

/-- The characters up to the first that is not of a kind, and the place after them. -/
def span (c : Cursor) (p : Char → Bool) : List Char × Cursor :=
  let taken := c.rest.takeWhile p
  (taken, c.forward taken.length)

/-- The place after the characters of a kind. -/
def skip (c : Cursor) (p : Char → Bool) : Cursor := (c.span p).2

/-- The place after the line break that stands here, if one does. -/
def skipBreak (c : Cursor) : Cursor :=
  match c.rest with
  | b :: rest => if isBreak b then ⟨c.mark.newLine, rest⟩ else c
  | [] => c

/-- Is there nothing left on the line? -/
def atLineEnd (c : Cursor) : Bool :=
  match c.rest with
  | [] => true
  | b :: _ => isBreak b

end Cursor

end FedLoad.Yaml
