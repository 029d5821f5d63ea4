import FedLoad.Json.Basic
import FedLoad.Decimal.Reader
/-!
# The tokens of a JSON text

A text is cut into marks, words, numbers and quoted texts; only space, tab, line feed and carriage
return may stand between them. An escape of half a surrogate pair counts only when its other half
follows at once.

A number without fraction and exponent that fits sixty-four bits is whole, and zero with a minus
sign is the double `-0.0`. Any other number is a double: as many leading digits as fit sixty-four
bits are taken as a whole number, which is then scaled by a power of ten, so that the last place may
differ from the nearest double. A number that becomes infinite is refused.
-/
namespace FedLoad.Json

open Decimal (isDigit ofDigits takeSign)

inductive Token where
  | openList
  | closeList
  | openRecord
  | closeRecord
  | comma
  | colon
  | scalar (value : Json)
deriving Inhabited

/-! ## Numbers -/

/-- The greatest power of ten below the largest double. -/
def topPower : Nat := 308

def powerOfTen (k : Nat) : Float := Float.ofScientific 1 false k

/-- Divides by `10^k`, at most `10^308` at a time. -/
def divideByPower (x : Float) (k : Nat) : Float :=
  if k ≤ topPower then x / powerOfTen k
  else if x == 0.0 then x
  else divideByPower (x / powerOfTen topPower) (k - topPower)
termination_by k
decreasing_by simp only [topPower] at *; omega

/-- `n · 10^e` as a double, if that is finite. -/
def scale? (n : Nat) (e : Int) : Option Float :=
  let x := floatOfNat n
  if e < 0 then some (divideByPower x e.natAbs)
  else if e.natAbs ≤ topPower then
    let y := x * powerOfTen e.natAbs
    if isFinite y then some y else none
  else if n = 0 then some x
  else none

/-- As many leading digits as stay below `2^64`, and the digits that are left. -/
def leading : Nat → List Char → Nat × List Char
  | n, [] => (n, [])
  | n, c :: rest =>
    let m := 10 * n + (c.toNat - '0'.toNat)
    if m < Nat.pow 2 64 then leading m rest else (n, c :: rest)

/-- The exponents that are followed in full; beyond them only the sign of the exponent counts. -/
def exponentLimit : Nat := Nat.pow 2 31

/-- A double from its digits before and after the point and its exponent. -/
def double? (whole fraction : List Char) (exponent : Int) : Option Float :=
  let (n, dropped) := leading 0 whole
  let (n, left) := leading n fraction
  let taken := fraction.length - left.length
  if exponent.natAbs < exponentLimit then scale? n (exponent + dropped.length - taken)
  else if 0 < exponent && n != 0 then none
  else some 0.0

/-- The value of a number with these parts; an absent part is no digits at all. -/
def number? (negative : Bool) (whole : List Char) (fraction : Option (List Char))
    (exponent : Option Int) : Option Json :=
  let n := ofDigits whole
  match fraction, exponent with
  | none, none =>
    if n < Nat.pow 2 64 ∧ ¬ negative then some (.int n)
    else if negative ∧ n ≠ 0 ∧ n ≤ Nat.pow 2 63 then some (.int (-n))
    else (double? whole [] 0).map fun x => .float (if negative then -x else x)
  | _, _ =>
    (double? whole (fraction.getD []) (exponent.getD 0)).map fun x =>
      .float (if negative then -x else x)

/-- The digits at the front of a text, at least one of them. -/
def digits? (s : List Char) : Option (List Char × List Char) :=
  let ds := s.takeWhile isDigit
  if ds.isEmpty then none else some (ds, s.dropWhile isDigit)

/-- The whole part of a number: a zero stands alone. -/
def wholePart? (s : List Char) : Option (List Char × List Char) :=
  match s with
  | '0' :: rest => some (['0'], rest)
  | _ => digits? s

/-- A fraction, if a point comes next. -/
def fractionPart? (s : List Char) : Option (Option (List Char) × List Char) :=
  match s with
  | '.' :: rest => (digits? rest).map fun (ds, tail) => (some ds, tail)
  | _ => some (none, s)

/-- An exponent, if its letter comes next. -/
def exponentPart? (s : List Char) : Option (Option Int × List Char) :=
  match s with
  | c :: rest =>
    if c = 'e' ∨ c = 'E' then
      let (negative, tail) := takeSign rest
      (digits? tail).map fun (ds, after) =>
        (some (if negative then -(ofDigits ds : Int) else ofDigits ds), after)
    else some (none, s)
  | [] => some (none, s)

/-- The number at the front of a text. -/
def scanNumber? (s : List Char) : Option (Json × List Char) := do
  let (negative, body) := match s with
    | '-' :: rest => (true, rest)
    | _ => (false, s)
  let (whole, s) ← wholePart? body
  let (fraction, s) ← fractionPart? s
  let (exponent, s) ← exponentPart? s
  let value ← number? negative whole fraction exponent
  pure (value, s)

/-! ## Quoted texts -/

/-- The value of four hexadecimal digits. -/
def unit? (a b c d : Char) : Option Nat := do
  let a ← Text.hexDigit? a
  let b ← Text.hexDigit? b
  let c ← Text.hexDigit? c
  let d ← Text.hexDigit? d
  pure (((a * 16 + b) * 16 + c) * 16 + d)

/-- The character of an escape with one letter. -/
def escape? : Char → Option Char
  | '"' => some '"'
  | '\\' => some '\\'
  | '/' => some '/'
  | 'b' => some '\x08'
  | 'f' => some '\x0c'
  | 'n' => some '\n'
  | 'r' => some '\r'
  | 't' => some '\t'
  | _ => none

def isHighHalf (n : Nat) : Bool := 0xD800 ≤ n && n ≤ 0xDBFF

def isLowHalf (n : Nat) : Bool := 0xDC00 ≤ n && n ≤ 0xDFFF

/-- The rest of a quoted text and what follows its closing quote. `high` is the first half of a
surrogate pair when the second half has to come next. -/
def scanText? (high : Option Nat) : List Char → Option (List Char × List Char)
  | '\\' :: 'u' :: a :: b :: c :: d :: rest =>
    match unit? a b c d, high with
    | none, _ => none
    | some n, none =>
      if isHighHalf n then scanText? (some n) rest
      else if isLowHalf n then none
      else (scanText? none rest).map fun (cs, tail) => (Char.ofNat n :: cs, tail)
    | some n, some h =>
      if isLowHalf n then
        (scanText? none rest).map fun (cs, tail) =>
          (Char.ofNat (0x10000 + (h - 0xD800) * 0x400 + (n - 0xDC00)) :: cs, tail)
      else none
  | c :: rest =>
    if high.isSome then none
    else if c = '"' then some ([], rest)
    else if c.toNat < 0x20 then none
    else if c = '\\' then
      match rest with
      | e :: rest =>
        match escape? e with
        | some x => (scanText? none rest).map fun (cs, tail) => (x :: cs, tail)
        | none => none
      | [] => none
    else (scanText? none rest).map fun (cs, tail) => (c :: cs, tail)
  | [] => none

/-! ## All tokens -/

def isSpace (c : Char) : Bool := c == ' ' || c == '\t' || c == '\n' || c == '\r'

/-- The token at the front of a text that begins with no space. -/
def next? (s : List Char) : Option (Token × List Char) :=
  match s with
  | '[' :: rest => some (.openList, rest)
  | ']' :: rest => some (.closeList, rest)
  | '\x7b' :: rest => some (.openRecord, rest)
  | '\x7d' :: rest => some (.closeRecord, rest)
  | ',' :: rest => some (.comma, rest)
  | ':' :: rest => some (.colon, rest)
  | 'n' :: 'u' :: 'l' :: 'l' :: rest => some (.scalar .null, rest)
  | 't' :: 'r' :: 'u' :: 'e' :: rest => some (.scalar (.bool true), rest)
  | 'f' :: 'a' :: 'l' :: 's' :: 'e' :: rest => some (.scalar (.bool false), rest)
  | '"' :: rest =>
    (scanText? none rest).map fun (cs, tail) => (.scalar (.text (String.ofList cs)), tail)
  | _ => (scanNumber? s).map fun (value, tail) => (.scalar value, tail)

/-- The tokens of a text. Every token takes at least one character, so `fuel` characters of text
hold at most `fuel` tokens. -/
def tokensWithin : Nat → List Char → Option (List Token)
  | 0, s => if s.all isSpace then some [] else none
  | fuel + 1, s =>
    match s.dropWhile isSpace with
    | [] => some []
    | c :: rest =>
      match next? (c :: rest) with
      | none => none
      | some (token, tail) => (tokensWithin fuel tail).map (token :: ·)

/-- The tokens of a text, if it is made of tokens and spaces only. -/
def tokens? (s : List Char) : Option (List Token) := tokensWithin s.length s

end FedLoad.Json
