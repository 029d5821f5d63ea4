import FedLoad.Text.CaseTable
/-!
# Changing the case of a text

Each character goes to its full case mapping, which may be several characters (`ß` becomes `SS`).
One mapping looks around it: a capital sigma becomes the final form `ς` when a cased letter comes
before it and none after it, marks and punctuation that carry no case being skipped on both sides.
-/
namespace FedLoad.Text

/-! ## One character -/

def CaseRun.holds (run : CaseRun) (n : Nat) : Bool :=
  run.first ≤ n && n ≤ run.last && (n - run.first) % run.stride == 0

/-- The full mapping of a character: an expansion if there is one, else its run. -/
def mapCase (runs : List CaseRun) (expansions : List (Nat × List Nat)) (c : Char) : List Char :=
  let n := c.toNat
  match expansions.lookup n with
  | some ns => ns.map Char.ofNat
  | none =>
    match runs.find? (·.holds n) with
    | some run => [Char.ofNat ((n : Int) + run.offset).toNat]
    | none => [c]

def lowerOf (c : Char) : List Char := mapCase lowerRuns lowerExpansions c

def upperOf (c : Char) : List Char := mapCase upperRuns upperExpansions c

def inRanges (ranges : List (Nat × Nat)) (n : Nat) : Bool :=
  ranges.any fun (first, last) => first ≤ n && n ≤ last

def isCased (c : Char) : Bool := inRanges casedRanges c.toNat

def isCaseIgnorable (c : Char) : Bool := inRanges caseIgnorableRanges c.toNat

/-! ## A text -/

/-- Is the nearest character that is not skipped a cased one? -/
def meetsCased (s : List Char) : Bool :=
  match s.dropWhile isCaseIgnorable with
  | c :: _ => isCased c
  | [] => false

/-- Lower case of a text that comes after `before`, whose last character is first in the list. -/
def lowerAfter : List Char → List Char → List Char
  | _, [] => []
  | before, c :: rest =>
    let mapped :=
      if c = 'Σ' then [if meetsCased before && !meetsCased rest then 'ς' else 'σ'] else lowerOf c
    mapped ++ lowerAfter (c :: before) rest

def lower (s : List Char) : List Char := lowerAfter [] s

def upper (s : List Char) : List Char := s.flatMap upperOf

def toLower (s : String) : String := String.ofList (lower s.toList)

def toUpper (s : String) : String := String.ofList (upper s.toList)

end FedLoad.Text
