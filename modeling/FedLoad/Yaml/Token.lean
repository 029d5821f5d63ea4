import FedLoad.Decimal.Digits
import FedLoad.Yaml.Scalar
/-!
# Tokens of a YAML text

A text is cut into marks, names and scalars. Indentation shows as tokens that begin and end blocks.
That something is a key is only known at the colon after it, which must stand on the same line and
within 1024 characters: the token of a key is then put before the token with which the key began.
At the indentation of a block nothing but a key can stand, so that a colon must follow.
-/
namespace FedLoad.Yaml

open Text

/-- How a scalar was written, as far as it says what it may mean. -/
inductive Style where
  | plain
  /-- With its lines kept. -/
  | literal
  /-- In quotes, or with its lines folded. -/
  | quoted
deriving DecidableEq, Repr

inductive Token where
  | version (major minor : Nat)
  | handle (name meaning : String)
  | documentStart
  | documentEnd
  | blockSequence
  | blockMapping
  | blockEnd
  | flowSequence
  | flowSequenceEnd
  | flowMapping
  | flowMappingEnd
  | entry
  | flowEntry
  | key
  | value
  | alias (name : String)
  | anchor (name : String)
  | tag (handle suffix : String)
  | scalar (style : Style) (text : String)
deriving DecidableEq, Repr

/-- Where a key may have begun. -/
structure KeyPlace where
  /-- Must it be a key? -/
  required : Bool
  /-- The number of tokens before it. -/
  place : Nat
  mark : Mark
deriving DecidableEq, Repr

/-- The cutting of a text, between two tokens. -/
structure Scan where
  cursor : Cursor
  /-- The tokens so far, the last first. -/
  tokens : List Token
  /-- The columns of the open blocks, the innermost first. -/
  blocks : List Nat
  /-- May a key begin here? -/
  keyAllowed : Bool
  /-- Where a key may have begun: outside brackets last, and before it for each open bracket. -/
  keys : List (Option KeyPlace)

namespace Scan

def start (s : String) : Scan := ⟨.ofText s, [], [], true, [none]⟩

def inFlow (s : Scan) : Bool := 1 < s.keys.length

def emit (s : Scan) (t : Token) : Scan := { s with tokens := t :: s.tokens }

/-- Puts a token where there are `place` tokens before it. -/
def insert (s : Scan) (place : Nat) (t : Token) : Scan :=
  let after := s.tokens.length - place
  { s with tokens := s.tokens.take after ++ t :: s.tokens.drop after }

/-- The column of the innermost block, counted from one; nothing outside blocks. -/
def depth (s : Scan) : Nat := (s.blocks.head?.map (· + 1)).getD 0

def column (s : Scan) : Nat := s.cursor.mark.column

def moveTo (s : Scan) (c : Cursor) : Scan := { s with cursor := c }

def forward (s : Scan) (n : Nat) : Scan := s.moveTo (s.cursor.forward n)

def allowKey (s : Scan) (allowed : Bool) : Scan := { s with keyAllowed := allowed }

/-! ## Blocks -/

/-- Ends the blocks whose column is at least `limit`. -/
def endBlocksFrom (s : Scan) (limit : Nat) : List Nat → Scan
  | [] => { s with blocks := [] }
  | column :: outer =>
    if limit ≤ column then (s.emit .blockEnd).endBlocksFrom limit outer
    else { s with blocks := column :: outer }

/-- Ends the blocks that are indented further than `column`; brackets hold blocks open. -/
def endBlocks (s : Scan) (column : Nat) : Scan :=
  if s.inFlow then s else s.endBlocksFrom (column + 1) s.blocks

/-- Ends all blocks. -/
def endAllBlocks (s : Scan) : Scan := if s.inFlow then s else s.endBlocksFrom 0 s.blocks

/-- Begins a block at a column, unless one is open there. -/
def beginBlock (s : Scan) (column place : Nat) (t : Token) : Scan :=
  if s.inFlow || column < s.depth then s
  else { s.insert place t with blocks := column :: s.blocks }

/-- Begins a block here. -/
def beginBlockHere (s : Scan) (t : Token) : Scan := s.beginBlock s.column s.tokens.length t

/-! ## Keys -/

/-- Gives up that a key began; not possible where it must be one. -/
def dropKey? (s : Scan) : Option Scan :=
  match s.keys with
  | some k :: outer => if k.required then none else some { s with keys := none :: outer }
  | _ => some s

/-- A key may begin here. -/
def saveKey? (s : Scan) : Option Scan :=
  if s.keyAllowed then
    s.dropKey?.map fun s =>
      let required := !s.inFlow && s.depth == s.column + 1
      { s with keys := some ⟨required, s.tokens.length, s.cursor.mark⟩ :: s.keys.tail }
  else some s

/-- Gives up the keys that began on an earlier line or too far back. -/
def expireKeys? (s : Scan) : Option Scan :=
  let here := s.cursor.mark
  let expire (key : Option KeyPlace) : Option (Option KeyPlace) :=
    match key with
    | none => some none
    | some k =>
      if k.mark.line < here.line || k.mark.index + 1024 < here.index then
        if k.required then none else some none
      else some (some k)
  (s.keys.mapM expire).map fun keys => { s with keys := keys }

/-! ## Blanks and comments -/

def byteOrderMark : Char := '\ufeff'

/-- Skips blanks, comments and line breaks. A tab is a blank where no key may begin, and in
brackets. -/
def skipFrom (inFlow inComment keyAllowed : Bool) (m : Mark) : List Char → Bool × Cursor
  | [] => (keyAllowed, ⟨m, []⟩)
  | c :: rest =>
    if isBreak c then skipFrom inFlow false (keyAllowed || !inFlow) m.newLine rest
    else if inComment || c = ' ' || (c = '\t' && (inFlow || !keyAllowed)) ||
        (c = byteOrderMark && m.column == 0) then
      skipFrom inFlow inComment keyAllowed (m.forward 1) rest
    else if c = '#' then skipFrom inFlow true keyAllowed (m.forward 1) rest
    else (keyAllowed, ⟨m, c :: rest⟩)

def skipBlanks (s : Scan) : Scan :=
  let (keyAllowed, cursor) := skipFrom s.inFlow false s.keyAllowed s.cursor.mark s.cursor.rest
  { s with keyAllowed := keyAllowed, cursor := cursor }

/-- The place after the rest of a line, which may hold blanks and a comment only. -/
def endLine? (c : Cursor) : Option Cursor :=
  let c := c.skip isGap
  let c := if c.rest.head? = some '#' then c.skip fun d => !isBreak d else c
  if c.atLineEnd then some c.skipBreak else none

/-! ## Marks -/

/-- A mark between documents. -/
def documentMark? (s : Scan) (t : Token) : Option Scan :=
  s.endAllBlocks.dropKey?.map fun s => ((s.allowKey false).emit t).forward 3

def openFlow? (s : Scan) (t : Token) : Option Scan :=
  s.saveKey?.map fun s => (({ s with keys := none :: s.keys }.allowKey true).emit t).forward 1

def closeFlow? (s : Scan) (t : Token) : Option Scan :=
  s.dropKey?.map fun s =>
    let keys := if s.inFlow then s.keys.tail else s.keys
    (({ s with keys := keys }.allowKey false).emit t).forward 1

def flowEntry? (s : Scan) : Option Scan :=
  s.dropKey?.map fun s => ((s.allowKey true).emit .flowEntry).forward 1

def entry? (s : Scan) : Option Scan :=
  if s.inFlow || s.keyAllowed then
    (s.beginBlockHere .blockSequence).dropKey?.map fun s =>
      ((s.allowKey true).emit .entry).forward 1
  else none

def key? (s : Scan) : Option Scan :=
  if s.inFlow || s.keyAllowed then
    (s.beginBlockHere .blockMapping).dropKey?.map fun s =>
      ((s.allowKey !s.inFlow).emit .key).forward 1
  else none

/-- A colon: what began as a possible key is one, and if nothing did, a key without a name. -/
def value? (s : Scan) : Option Scan :=
  match s.keys with
  | some k :: outer =>
    let s := (s.insert k.place .key).beginBlock k.mark.column k.place .blockMapping
    some (({ s with keys := none :: outer }.allowKey false).emit .value |>.forward 1)
  | _ =>
    if s.inFlow then some (((s.allowKey false).emit .value).forward 1)
    else if s.keyAllowed then
      some ((((s.beginBlockHere .blockMapping).allowKey true).emit .value).forward 1)
    else none

/-! ## Names -/

/-- The characters that may follow a name without a blank. -/
def mayFollowName (c : Char) : Bool :=
  isGapOrBreak c || ['?', ':', ',', ']', '}', '%', '@', '\x60'].contains c

/-- The name after an ampersand or an asterisk. -/
def name? (s : Scan) (t : String → Token) : Option Scan :=
  s.saveKey?.bind fun s =>
    let (name, cursor) := (s.cursor.forward 1).span isNameChar
    if !name.isEmpty && cursor.rest.head?.all mayFollowName then
      some (((s.allowKey false).emit (t (String.ofList name))).moveTo cursor)
    else none

/-! ## Tags -/

/-- The characters of a tag; some of them only inside angle brackets. -/
def isTagChar (bracketed : Bool) (c : Char) : Bool :=
  isNameChar c || [';', '/', '?', ':', '@', '&', '=', '+', '$', '.', '%', '!', '~', '*', '\'',
    '(', ')'].contains c || (bracketed && (c = ',' || c = '[' || c = ']'))

/-- The bytes of a text in which every `%` begins two hexadecimal digits. -/
def tagBytes? : List Char → Option (List UInt8)
  | [] => some []
  | '%' :: a :: b :: rest => do
    let x ← hexDigit? a
    let y ← hexDigit? b
    let bytes ← tagBytes? rest
    pure (UInt8.ofNat (x * 16 + y) :: bytes)
  | '%' :: _ => none
  | c :: rest => (tagBytes? rest).map (String.utf8EncodeChar c ++ ·)

/-- The text of a tag or a part of one, with its escapes read. -/
def tagText? (s : List Char) : Option String :=
  (tagBytes? s).bind fun bytes => String.fromUTF8? ⟨bytes.toArray⟩

/-- A handle at the beginning: an exclamation mark, or a name between two of them. -/
def handle (c : Cursor) : List Char × Cursor :=
  let (name, after) := (c.forward 1).span isNameChar
  if after.rest.head? = some '!' then ('!' :: name ++ ['!'], after.forward 1)
  else ('!' :: name, after)

/-- A tag: in angle brackets, or a handle and a suffix. -/
def readTag? (c : Cursor) : Option (Token × Cursor) :=
  match c.rest with
  | _ :: '<' :: _ =>
    let (text, after) := (c.forward 2).span (isTagChar true)
    if text.isEmpty || after.rest.head? ≠ some '>' then none
    else (tagText? text).map fun text => (.tag "" text, after.forward 1)
  | _ =>
    let (lead, after) := handle c
    let (suffix, last) := after.span (isTagChar false)
    if 1 < lead.length && lead.getLast? = some '!' then
      if suffix.isEmpty then none
      else (tagText? suffix).map fun suffix => (.tag (String.ofList lead) suffix, last)
    else
      let whole := lead.tail ++ suffix
      if whole.isEmpty then some (.tag "" "!", last)
      else (tagText? suffix).map fun suffix =>
        (.tag "!" (String.ofList lead.tail ++ suffix), last)

def tag? (s : Scan) : Option Scan :=
  s.saveKey?.bind fun s =>
    (readTag? s.cursor).bind fun (t, cursor) =>
      if cursor.rest.head?.all fun c => isGapOrBreak c || (s.inFlow && c = ',') then
        some (((s.allowKey false).emit t).moveTo cursor)
      else none

/-! ## Directives -/

/-- A number of at most nine digits. -/
def number? (c : Cursor) : Option (Nat × Cursor) :=
  let (ds, after) := c.span Decimal.isDigit
  if ds.isEmpty || 9 < ds.length then none else some (Decimal.ofDigits ds, after)

/-- The numbers of a version. -/
def readVersion? (c : Cursor) : Option (Token × Cursor) := do
  let (major, c) ← number? (c.skip isGap)
  if c.rest.head? = some '.' then
    let (minor, c) ← number? (c.forward 1)
    pure (.version major minor, c)
  else none

/-- A handle and what it stands for. -/
def readHandle? (c : Cursor) : Option (Token × Cursor) := do
  let c := c.skip isGap
  if c.rest.head? ≠ some '!' then none
  let (name, c) := handle c
  if 1 < name.length && name.getLast? ≠ some '!' then none
  if !c.rest.head?.any isGap then none
  let (meaning, c) := (c.skip isGap).span (isTagChar true)
  if meaning.isEmpty || !endsWord c.rest then none
  let meaning ← tagText? meaning
  pure (.handle (String.ofList name) meaning, c)

def directive? (s : Scan) : Option Scan := do
  let s ← s.endAllBlocks.dropKey?
  let (name, c) := (s.cursor.forward 1).span isNameChar
  if !endsWord c.rest then none
  let (t, c) ←
    match String.ofList name with
    | "YAML" => readVersion? c
    | "TAG" => readHandle? c
    | _ => none
  let c ← endLine? c
  pure (((s.allowKey false).emit t).moveTo c)

/-! ## Scalars -/

def plain? (s : Scan) : Option Scan := do
  let s ← s.saveKey?
  let (f, cursor) ← plainFrom s.inFlow s.depth true .empty s.cursor.mark s.cursor.rest
  pure (((s.allowKey f.broken).emit (.scalar .plain f.toText)).moveTo cursor)

def quoted? (s : Scan) (double : Bool) : Option Scan := do
  let s ← s.saveKey?
  let inside := s.cursor.forward 1
  let (f, cursor) ← quotedFrom double .text .empty inside.mark inside.rest
  pure (((s.allowKey false).emit (.scalar .quoted f.toText)).moveTo cursor)

def block? (s : Scan) (folds : Bool) : Option Scan := do
  let s ← s.dropKey?
  let inside := s.cursor.forward 1
  let (chomp, indent, rest) ← blockHead? inside.rest
  let head := inside.forward (inside.rest.length - rest.length)
  let body ← endLine? head
  let start : Block := ⟨[], [], [], false, indent.map (s.depth - 1 + ·), 0⟩
  let (b, cursor) ← blockFrom folds (max s.depth 1) false start body.mark body.rest
  let style := if folds then Style.quoted else .literal
  pure (((s.allowKey true).emit (.scalar style (b.toText chomp))).moveTo cursor)

/-- The characters with which no plain scalar begins, unless what follows says otherwise. -/
def isMark (c : Char) : Bool :=
  ['-', '?', ':', ',', '[', ']', '{', '}', '#', '&', '*', '!', '|', '>', '\'', '"', '%', '@',
    '\x60'].contains c

/-- Does a plain scalar begin with this character? -/
def beginsPlain (inFlow : Bool) (c : Char) (rest : List Char) : Bool :=
  !(isGapOrBreak c || isMark c) || (c = '-' && !rest.head?.any isGap) ||
    (!inFlow && (c = '?' || c = ':') && !endsWord rest)

/-! ## One token after the other -/

/-- Cuts off the token that begins with a character, before which there are no blanks. -/
def token? (s : Scan) (c : Char) (rest : List Char) : Option Scan :=
  if s.column == 0 && c = '%' then s.directive?
  else if s.column == 0 && isDocumentMark (c :: rest) then
    s.documentMark? (if c = '-' then .documentStart else .documentEnd)
  else if c = '[' then s.openFlow? .flowSequence
  else if c = '{' then s.openFlow? .flowMapping
  else if c = ']' then s.closeFlow? .flowSequenceEnd
  else if c = '}' then s.closeFlow? .flowMappingEnd
  else if c = ',' then s.flowEntry?
  else if c = '-' && endsWord rest then s.entry?
  else if c = '?' && (s.inFlow || endsWord rest) then s.key?
  else if c = ':' && (s.inFlow || endsWord rest) then s.value?
  else if c = '*' then s.name? .alias
  else if c = '&' then s.name? .anchor
  else if c = '!' then s.tag?
  else if c = '|' && !s.inFlow then s.block? false
  else if c = '>' && !s.inFlow then s.block? true
  else if c = '\'' then s.quoted? false
  else if c = '"' then s.quoted? true
  else if beginsPlain s.inFlow c rest then s.plain?
  else none

/-- The tokens of the whole text; every step uses up a character. -/
def finish? (s : Scan) : Nat → Option (List Token)
  | 0 => none
  | fuel + 1 => do
    let s ← s.skipBlanks.expireKeys?
    let s := s.endBlocks s.column
    match s.cursor.rest with
    | [] =>
      let s ← s.endAllBlocks.dropKey?
      pure s.tokens.reverse
    | c :: rest =>
      let s ← s.token? c rest
      s.finish? fuel

end Scan

/-- The tokens of a text. -/
def tokens? (s : String) : Option (List Token) :=
  if s.toList.all isAllowed then (Scan.start s).finish? (s.length + 1) else none

end FedLoad.Yaml
