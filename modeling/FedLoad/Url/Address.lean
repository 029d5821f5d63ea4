import FedLoad.Decimal.Digits
import FedLoad.Text.Ascii
import FedLoad.Text.Blank
/-!
# Numeric addresses

A host whose last label is a number is an address of thirty-two bits: one to four numbers in
decimal, octal or hexadecimal notation, of which the last fills the bytes that the others leave. A
host in brackets is an address of eight groups of sixteen bits; one run of zero groups may be left
out, and the last two groups may be written as four decimal numbers. It is shown with the longest
run of zero groups left out.
-/
namespace FedLoad.Url

open Text

/-! ## Thirty-two bits -/

/-- A number of an address. -/
inductive Part where
  | value (n : Nat)
  | tooLarge
  | noNumber
deriving DecidableEq, Repr

/-- The value of digits in a base, if they are all digits of it. -/
def inBase? (base : Nat) (s : List Char) : Option Nat :=
  s.foldlM (fun n c => (hexDigit? c).bind fun d => if d < base then some (n * base + d) else none) 0

/-- Reads a number: `0x` begins a hexadecimal one, and another leading zero an octal one. -/
def readPart (s : List Char) : Part :=
  if s.isEmpty then .noNumber
  else
    let (base, digits) := match s with
      | '0' :: 'x' :: rest | '0' :: 'X' :: rest => (16, rest)
      | '0' :: c :: rest => (8, c :: rest)
      | _ => (10, s)
    match inBase? base digits with
    | none => .noNumber
    | some n => if n < Nat.pow 2 32 then .value n else .tooLarge

/-- The labels of a host, without an empty one at the end. -/
def addressLabels (host : List Char) : List (List Char) :=
  let labels := pieces '.' host
  match labels.reverse with
  | [] :: _ :: _ => labels.dropLast
  | _ => labels

/-- Is the last label a number? -/
def endsInNumber (host : List Char) : Bool :=
  match (addressLabels host).getLast? with
  | none => false
  | some last =>
    (!last.isEmpty && last.all Decimal.isDigit) ||
      (match readPart last with
        | .noNumber => false
        | _ => true)

/-- Puts leading bytes and a last number together; `shift` is the weight of the next byte. -/
def joinParts? : Nat → List Part → Option Nat
  | _, [] => none
  | weight, [.value n] => if n < weight * 256 then some n else none
  | weight, .value n :: rest =>
    if n ≤ 255 then (joinParts? (weight / 256) rest).map (n * weight + ·) else none
  | _, _ => none

/-- Reads an address of thirty-two bits. -/
def shortAddress? (host : List Char) : Option Nat :=
  let labels := addressLabels host
  if 4 < labels.length then none else joinParts? (Nat.pow 256 3) (labels.map readPart)

/-- Four decimal numbers. -/
def showShort (n : Nat) : List Char :=
  let byte (k : Nat) := Decimal.digits (n / Nat.pow 256 k % 256)
  byte 3 ++ '.' :: byte 2 ++ '.' :: byte 1 ++ '.' :: byte 0

/-! ## Eight groups of sixteen bits -/

/-- A group of one to four hexadecimal digits. -/
def group? (s : List Char) : Option Nat :=
  if s.isEmpty || 4 < s.length then none else inBase? 16 s

/-- A decimal number from 0 to 255 without leading zeros. -/
def byte? (s : List Char) : Option Nat :=
  if s.isEmpty || !s.all Decimal.isDigit || (s.length ≠ 1 && s.head? == some '0') then none
  else if Decimal.ofDigits s ≤ 255 then some (Decimal.ofDigits s) else none

/-- Two groups written as four decimal numbers. -/
def embedded? (s : List Char) : Option (List Nat) :=
  match (pieces '.' s).mapM byte? with
  | some [a, b, c, d] => some [a * 256 + b, c * 256 + d]
  | _ => none

/-- The groups between colons; the last may be two groups written in decimal. -/
def groups? : List (List Char) → Option (List Nat)
  | [] => some []
  | [last] =>
    if last.contains '.' then embedded? last else (group? last).map fun g => [g]
  | s :: rest => do
    let g ← group? s
    let gs ← groups? rest
    pure (g :: gs)

/-- The parts before and after the first pair of colons. -/
def cutPair? : List Char → Option (List Char × List Char)
  | ':' :: ':' :: rest => some ([], rest)
  | c :: rest => (cutPair? rest).map fun (left, right) => (c :: left, right)
  | [] => none

/-- The groups of a part that may be empty. -/
def side? (s : List Char) : Option (List Nat) := if s.isEmpty then some [] else groups? (pieces ':' s)

/-- Reads an address of eight groups. -/
def longAddress? (s : List Char) : Option (List Nat) :=
  match cutPair? s with
  | none => (side? s).filter fun gs => gs.length == 8
  | some (left, right) => do
    let a ← if left.contains '.' then none else side? left
    let b ← side? right
    if a.length + b.length ≤ 7 then pure (a ++ List.replicate (8 - a.length - b.length) 0 ++ b)
    else none

/-- How many zeros a list begins with. -/
def leadingZeros (gs : List Nat) : Nat := (gs.takeWhile (· == 0)).length

/-- The first of the longest runs of zeros: where it begins, and its length. -/
def longestZeros (at_ : Nat) : List Nat → Nat × Nat
  | [] => (at_, 0)
  | g :: rest =>
    let (later, length) := longestZeros (at_ + 1) rest
    let here := leadingZeros (g :: rest)
    if length ≤ here then (at_, here) else (later, length)

def showGroups (gs : List Nat) : List Char := [':'].intercalate (gs.map (Nat.toDigits 16))

/-- Groups between colons, the longest run of at least two zeros left out. -/
def showLong (gs : List Nat) : List Char :=
  let (start, length) := longestZeros 0 gs
  if length < 2 then showGroups gs
  else showGroups (gs.take start) ++ [':', ':'] ++ showGroups (gs.drop (start + length))

end FedLoad.Url
