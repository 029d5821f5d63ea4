import FedLoad.Text.Ascii
import FedLoad.Text.Blank
import FedLoad.Text.Composition
import FedLoad.Text.Direction
import FedLoad.Url.DomainTable
import FedLoad.Url.Punycode
/-!
# Domain names

A domain name in any script has one standard form in ASCII. Its characters are mapped and composed,
and each of its labels that is not ASCII is then written in Punycode. A label that comes in Punycode
must be the standard form of the label that it stands for. Labels may be empty.
-/
namespace FedLoad.Url

open Text

/-! ## Characters -/

/-- What the block tables give for a character: the entry at its place. -/
def fromBlocks {α : Type} (blocks : List (Nat × List α)) (n : Nat) : Option α :=
  blocks.findSome? fun (first, entries) => if first ≤ n then entries[n - first]? else none

/-- What a character of a domain name becomes; nothing if no name has it. -/
def mapDomainChar (c : Char) : Option (List Char) :=
  let n := c.toNat
  if inRanges domainDisallowed n then none
  else if inRanges domainIgnored n then some []
  else
    match domainRuns.find? (·.holds n) with
    | some run => some [Char.ofNat ((n : Int) + run.offset).toNat]
    | none =>
      match fromBlocks (domainSingles.map fun (first, s) => (first, s.toList)) n with
      | some d => some [d]
      | none => some (((fromBlocks domainTexts n).map String.toList).getD [c])

/-- The ASCII characters that no host has. -/
def isForbidden (c : Char) : Bool :=
  c.toNat ≤ 0x20 || c.toNat == 0x7F ||
    ['#', '%', '/', ':', '<', '>', '?', '@', '[', '\\', ']', '^', '|'].contains c

/-- The name with its characters mapped and composed. -/
def mapDomain (s : List Char) : Option (List Char) := do
  let mapped ← s.mapM mapDomainChar
  let name := composed mapped.flatten
  if name.any isForbidden then none else pure name

/-! ## Labels -/

def isAscii (c : Char) : Bool := c.toNat < 0x80

/-- The beginning of a label in Punycode. -/
def punycodeMark : List Char := ['x', 'n', '-', '-']

def nonJoiner : Char := '\u200c'

def joiner : Char := '\u200d'

/-- The combining class of the marks that take away a vowel. -/
def viramaClass : Nat := 9

/-- Do all joiners stand where they make a difference? `before` is reversed. -/
def joinersHold (before : List Char) : List Char → Bool
  | [] => true
  | c :: rest =>
    let afterVirama := (before.head?.map fun b => combiningClass b == viramaClass).getD false
    let ok :=
      if c = nonJoiner then afterVirama || joinsAcross before rest
      else if c = joiner then afterVirama
      else true
    ok && joinersHold (c :: before) rest

/-- Is this label, which is not ASCII, well formed? -/
def labelHolds (label : List Char) : Bool :=
  !(label.head?.map isMark).getD false && joinersHold [] label

/-- The label that a written label stands for. -/
def readLabel? (label : List Char) : Option (List Char) :=
  if label.all isAscii then
    match after? punycodeMark label with
    | none => some label
    | some code =>
      match Punycode.decode? code with
      | none => none
      | some decoded =>
        if decoded.all isAscii || mapDomain decoded != some decoded || !labelHolds decoded then none
        else some decoded
  else if (after? punycodeMark label).isSome || !labelHolds label then none
  else some label

/-- A label in ASCII. -/
def writeLabel (label : List Char) : List Char :=
  if label.all isAscii then label else punycodeMark ++ Punycode.encode label

/-! ## Names -/

/-- The standard form of a domain name. -/
def domainToAscii? (s : List Char) : Option (List Char) := do
  let name ← mapDomain s
  let labels ← (pieces '.' name).mapM readLabel?
  if labels.any (·.any fun c => (directionOf c).isRightward) && !labels.all directionHolds then none
  else pure (['.'].intercalate (labels.map writeLabel))

end FedLoad.Url
