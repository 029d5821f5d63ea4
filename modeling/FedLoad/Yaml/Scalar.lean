import FedLoad.Text.Ascii
import FedLoad.Yaml.Cursor
/-!
# Scalars

A plain or quoted scalar may go over several lines: blanks around a line break count for nothing, a
single line break is read as a space, and of several the first is dropped. In double quotes a
backslash begins an escape, and one at the end of a line joins the lines. A block scalar keeps its
lines, or folds those that begin without a blank; its indentation is that of its first line unless
it is given, and what becomes of the line breaks at its end is given too.
-/
namespace FedLoad.Yaml

open Text

/-! ## Folding -/

/-- A scalar while it is read: its text, and the blanks and line breaks after it of which it is not
known yet what they amount to. Texts are kept backwards. -/
structure Folded where
  text : List Char
  gap : List Char
  /-- Was there a line break? -/
  broken : Bool
  firstBreak : List Char
  moreBreaks : List Char
deriving DecidableEq, Repr

namespace Folded

def empty : Folded := ⟨[], [], false, [], []⟩

/-- A blank; after a line break it counts for nothing. -/
def addGap (f : Folded) (c : Char) : Folded := if f.broken then f else { f with gap := c :: f.gap }

def addBreak (f : Folded) (c : Char) : Folded :=
  if f.broken then { f with moreBreaks := c :: f.moreBreaks }
  else { f with gap := [], broken := true, firstBreak := [c] }

/-- A line break that was escaped: blanks after it count for nothing. -/
def escapeBreak (f : Folded) : Folded := { f with broken := true }

/-- What the blanks and line breaks after the text amount to, backwards. -/
def joint (f : Folded) : List Char :=
  if f.broken then
    if f.firstBreak = ['\n'] then (if f.moreBreaks.isEmpty then [' '] else f.moreBreaks)
    else f.moreBreaks ++ f.firstBreak
  else f.gap

/-- The text goes on. -/
def join (f : Folded) : Folded := ⟨f.joint ++ f.text, [], false, [], []⟩

def push (f : Folded) (c : Char) : Folded := { f.join with text := c :: f.join.text }

def toText (f : Folded) : String := String.ofList f.text.reverse

end Folded

/-! ## Plain scalars -/

/-- The characters that have a meaning of their own in brackets. -/
def isFlowMark (c : Char) : Bool := c = ',' || c = '[' || c = ']' || c = '{' || c = '}'

/-- Does a plain scalar end before this character? -/
def endsPlain (inFlow : Bool) (c : Char) (rest : List Char) : Bool :=
  (c = ':' && endsWord rest) || (inFlow && isFlowMark c)

/-- A colon that nothing can stand before a mark of brackets. -/
def isStrayColon (inFlow : Bool) (c : Char) (rest : List Char) : Bool :=
  inFlow && c = ':' &&
    match rest with
    | d :: _ => isFlowMark d || d = '?'
    | [] => false

/-- Reads a plain scalar of which the lines after the first are indented by at least `indent`.
`fresh` says whether a blank precedes. -/
def plainFrom (inFlow : Bool) (indent : Nat) (fresh : Bool) (f : Folded) (m : Mark) :
    List Char → Option (Folded × Cursor)
  | [] => some (f, ⟨m, []⟩)
  | c :: rest =>
    if isBreak c then plainFrom inFlow indent true (f.addBreak c) m.newLine rest
    else if isGap c then
      if f.broken && m.column < indent && c = '\t' then none
      else plainFrom inFlow indent true (f.addGap c) (m.forward 1) rest
    else if fresh && ((!inFlow && m.column < indent && f.broken) || c = '#' ||
        (m.column == 0 && isDocumentMark (c :: rest))) then
      some (f, ⟨m, c :: rest⟩)
    else if isStrayColon inFlow c rest then none
    else if endsPlain inFlow c rest then some (f, ⟨m, c :: rest⟩)
    else plainFrom inFlow indent false (f.push c) (m.forward 1) rest

/-! ## Quoted scalars -/

/-- What a character after a backslash stands for. -/
def escaped? : Char → Option Char
  | '0' => some '\x00'
  | 'a' => some '\x07'
  | 'b' => some '\x08'
  | 't' | '\t' => some '\t'
  | 'n' => some '\n'
  | 'v' => some '\x0b'
  | 'f' => some '\x0c'
  | 'r' => some '\x0d'
  | 'e' => some '\x1b'
  | ' ' => some ' '
  | '"' => some '"'
  | '/' => some '/'
  | '\\' => some '\\'
  | 'N' => some '\u0085'
  | '_' => some '\u00a0'
  | 'L' => some '\u2028'
  | 'P' => some '\u2029'
  | _ => none

/-- How many digits follow a backslash and this character. -/
def escapeDigits? : Char → Option Nat
  | 'x' => some 2
  | 'u' => some 4
  | 'U' => some 8
  | _ => none

/-- The character with a number. -/
def scalarValue? (n : Nat) : Option Char := if h : n.isValidChar then some ⟨n.toUInt32, by
    have := UInt32.toNat_ofNat_of_lt' (Nat.lt_of_lt_of_le (n := n) (m := 0x110000) (by
      rcases h with h | h <;> omega) (by decide))
    simp only [UInt32.isValidChar]
    rwa [Nat.toUInt32_eq, this]⟩ else none

/-- Where the reading of a quoted scalar stands. -/
inductive Quoting where
  | text
  /-- After a single quote, which ends the scalar unless a second one follows. -/
  | quote
  /-- After a backslash. -/
  | escape
  /-- Inside the digits of an escape, of which some are left. -/
  | digits (left value : Nat)
deriving DecidableEq, Repr

/-- Reads a quoted scalar after its first quote. -/
def quotedFrom (double : Bool) (q : Quoting) (f : Folded) (m : Mark) :
    List Char → Option (Folded × Cursor)
  | [] => if q = .quote then some (f, ⟨m, []⟩) else none
  | c :: rest =>
    match q with
    | .quote =>
      if c = '\'' then quotedFrom double .text (f.push c) (m.forward 1) rest
      else some (f, ⟨m, c :: rest⟩)
    | .digits left value =>
      match hexDigit? c with
      | none => none
      | some d =>
        let value := value * 16 + d
        if 1 < left then quotedFrom double (.digits (left - 1) value) f (m.forward 1) rest
        else
          match scalarValue? value with
          | none => none
          | some v => quotedFrom double .text (f.push v) (m.forward 1) rest
    | .escape =>
      if isBreak c then quotedFrom double .text f.join.escapeBreak m.newLine rest
      else
        match escapeDigits? c, escaped? c with
        | some n, _ => quotedFrom double (.digits n 0) f (m.forward 1) rest
        | none, some v => quotedFrom double .text (f.push v) (m.forward 1) rest
        | none, none => none
    | .text =>
      if isBreak c then quotedFrom double .text (f.addBreak c) m.newLine rest
      else if isGap c then quotedFrom double .text (f.addGap c) (m.forward 1) rest
      else if m.column == 0 && isDocumentMark (c :: rest) then none
      else if double then
        if c = '"' then some (f.join, ⟨m.forward 1, rest⟩)
        else if c = '\\' then quotedFrom double .escape f.join (m.forward 1) rest
        else quotedFrom double .text (f.push c) (m.forward 1) rest
      else if c = '\'' then quotedFrom double .quote f.join (m.forward 1) rest
      else quotedFrom double .text (f.push c) (m.forward 1) rest

/-! ## Block scalars -/

/-- What becomes of the line breaks at the end. -/
inductive Chomp where
  | strip
  | clip
  | keep
deriving DecidableEq, Repr

/-- A block scalar while it is read. Texts are kept backwards. -/
structure Block where
  text : List Char
  /-- The break of the line before. -/
  lineBreak : List Char
  /-- The breaks of the blank lines since. -/
  blankLines : List Char
  /-- Did the line before begin with a blank? -/
  wasIndented : Bool
  /-- The indentation, once it is known. -/
  indent : Option Nat
  /-- The greatest indentation of a blank line. -/
  widest : Nat
deriving DecidableEq, Repr

namespace Block

/-- The line breaks before a line, as they are read. -/
def joint (b : Block) (folds isIndented : Bool) : List Char :=
  if folds && b.lineBreak = ['\n'] && !b.wasIndented && !isIndented then
    (if b.blankLines.isEmpty then [' '] else b.blankLines)
  else b.blankLines ++ b.lineBreak

/-- A line begins. -/
def beginLine (b : Block) (folds isIndented : Bool) : Block :=
  { b with
    text := b.joint folds isIndented ++ b.text
    lineBreak := []
    blankLines := []
    wasIndented := isIndented }

/-- The text with the line breaks at its end. -/
def toText (b : Block) (chomp : Chomp) : String :=
  let tail := match chomp with
    | .strip => []
    | .clip => b.lineBreak
    | .keep => b.blankLines ++ b.lineBreak
  String.ofList (tail ++ b.text).reverse

end Block

/-- Reads a block scalar from the line after its head; `least` is the least indentation that it may
have. `inLine` says whether a line has begun. -/
def blockFrom (folds : Bool) (least : Nat) (inLine : Bool) (b : Block) (m : Mark) :
    List Char → Option (Block × Cursor)
  | [] => some (b, ⟨m, []⟩)
  | c :: rest =>
    if inLine then
      if isBreak c then blockFrom folds least false { b with lineBreak := [c] } m.newLine rest
      else blockFrom folds least true { b with text := c :: b.text } (m.forward 1) rest
    else
      let eats := b.indent.all fun indent => m.column < indent
      if eats && c = ' ' then
        blockFrom folds least false { b with widest := max b.widest (m.column + 1) } (m.forward 1)
          rest
      else if eats && c = '\t' then none
      else if isBreak c then
        blockFrom folds least false { b with blankLines := c :: b.blankLines } m.newLine rest
      else
        let indent := b.indent.getD (max b.widest least)
        if m.column = indent then
          let b := { b with indent := some indent }.beginLine folds (isGap c)
          blockFrom folds least true { b with text := c :: b.text } (m.forward 1) rest
        else some (b, ⟨m, c :: rest⟩)

/-- The head of a block scalar after its mark: how it ends, and its indentation if it is given. -/
def blockHead? : List Char → Option (Chomp × Option Nat × List Char)
  | '+' :: rest => (indentDigit? rest).map fun (indent, rest) => (.keep, indent, rest)
  | '-' :: rest => (indentDigit? rest).map fun (indent, rest) => (.strip, indent, rest)
  | rest =>
    match indentDigit? rest with
    | some (some indent, '+' :: rest) => some (.keep, some indent, rest)
    | some (some indent, '-' :: rest) => some (.strip, some indent, rest)
    | some (indent, rest) => some (.clip, indent, rest)
    | none => none
where
  /-- A digit other than zero, if there is a digit. -/
  indentDigit? : List Char → Option (Option Nat × List Char)
    | c :: rest =>
      if c = '0' then none
      else if '1' ≤ c ∧ c ≤ '9' then some (some (c.toNat - '0'.toNat), rest)
      else some (none, c :: rest)
    | [] => some (none, [])

end FedLoad.Yaml
