import FedLoad.Text.Case
import FedLoad.Text.CompositionTable
/-!
# The composed form of a text

Two texts that look alike may be made of different characters, since a letter with marks may be one
character or several. The composed form is the same for both: every character is taken apart, the
marks behind a base are put in the order of their classes, and then bases and marks are put together
again wherever a character for both exists. Korean syllables are put together by calculation.
-/
namespace FedLoad.Text

/-- The combining class of a character; zero for a base. -/
def combiningClass (c : Char) : Nat :=
  ((combiningClasses.find? fun (_, ranges) => inRanges ranges c.toNat).map Prod.fst).getD 0

def isMark (c : Char) : Bool := inRanges markRanges c.toNat

/-! ## Korean syllables -/

/-- The syllable of two letters, or of a syllable and a final letter. -/
def syllable? (a b : Char) : Option Char :=
  let x := a.toNat
  let y := b.toNat
  if 0x1100 ≤ x && x ≤ 0x1112 && 0x1161 ≤ y && y ≤ 0x1175 then
    some (Char.ofNat (0xAC00 + ((x - 0x1100) * 21 + (y - 0x1161)) * 28))
  else if 0xAC00 ≤ x && x ≤ 0xD7A3 && (x - 0xAC00) % 28 == 0 && 0x11A8 ≤ y && y ≤ 0x11C2 then
    some (Char.ofNat (x + (y - 0x11A7)))
  else none

/-! ## Pairs -/

/-- Bases and what they make up, taken from the alternating characters of a text. -/
def basePairs : List Char → List (Char × Char)
  | base :: whole :: rest => (base, whole) :: basePairs rest
  | _ => []

/-- What a base and a mark make up. -/
def compose? (base mark : Char) : Option Char :=
  match compositions.findSome? fun (m, pairs) =>
    if m == mark.toNat then (basePairs pairs.toList).lookup base else none with
  | some whole => some whole
  | none => syllable? base mark

/-- The base and the mark of a character. -/
def decompose? (c : Char) : Option (Char × Char) :=
  compositions.findSome? fun (m, pairs) =>
    ((basePairs pairs.toList).find? fun (_, whole) => whole == c).map fun (base, _) =>
      (base, Char.ofNat m)

/-- Takes a character apart. No character carries more than `depth` marks in itself. -/
def takeApart (depth : Nat) (c : Char) : List Char :=
  match depth, decompose? c with
  | depth + 1, some (base, mark) => takeApart depth base ++ [mark]
  | _, _ => [c]

/-! ## The composed form -/

/-- Puts a mark behind those of its class and before those of higher classes. -/
def insertMark (mark : Char) : List Char → List Char
  | [] => [mark]
  | m :: rest =>
    if combiningClass mark < combiningClass m then mark :: m :: rest
    else m :: insertMark mark rest

/-- Puts the marks behind each base in order; `marks` are those met since the last base. -/
def orderMarks (marks : List Char) : List Char → List Char
  | [] => marks
  | c :: rest =>
    if combiningClass c = 0 then marks ++ c :: orderMarks [] rest
    else orderMarks (insertMark c marks) rest

/-- Does a mark of the same or a higher class stand between a base and a character? -/
def isBlocked (apart : List Char) (c : Char) : Bool :=
  match apart.getLast? with
  | some m => combiningClass c ≤ combiningClass m
  | none => false

/-- Puts characters together behind a base, with the marks that stayed apart from it. -/
def joinFrom (base : Char) (apart : List Char) : List Char → List Char
  | [] => base :: apart
  | c :: rest =>
    match if isBlocked apart c then none else compose? base c with
    | some whole => joinFrom whole apart rest
    | none =>
      if combiningClass c = 0 then base :: (apart ++ joinFrom c [] rest)
      else joinFrom base (apart ++ [c]) rest

/-- Puts characters together; marks before the first base stay apart. -/
def join : List Char → List Char
  | [] => []
  | c :: rest => if combiningClass c = 0 then joinFrom c [] rest else c :: join rest

/-- The composed form of a text. -/
def composed (s : List Char) : List Char :=
  if s.all fun c => c.toNat < 0x300 then s else join (orderMarks [] (s.flatMap (takeApart 4)))

end FedLoad.Text
