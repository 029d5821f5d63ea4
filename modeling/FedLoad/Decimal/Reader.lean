import FedLoad.Decimal.Digits
import FedLoad.Decimal.Double
import FedLoad.Text.Ascii
/-!
# Reading a double

The accepted texts are an optional sign followed by `inf`, `infinity` or `nan` in any case, or by a
decimal: digits with at most one point among or beside them, at least one digit in all, and an
optional exponent `e` or `E` with an optional sign and at least one digit. The result is the double
nearest to the decimal, infinite when it is too large.
-/
namespace FedLoad.Decimal

open Text (sameAscii)

inductive FloatError where
  | empty
  | invalid
deriving DecidableEq, Repr

def FloatError.message : FloatError → String
  | .empty => "cannot parse float from empty string"
  | .invalid => "invalid float literal"

/-- An unsigned decimal: the digits before and after the point, and the exponent. -/
structure Literal where
  whole : List Char
  fraction : List Char
  exponent : Int
deriving DecidableEq, Repr

/-- A sign in front: is it a minus, and what follows it? -/
def takeSign : List Char → Bool × List Char
  | '-' :: rest => (true, rest)
  | '+' :: rest => (false, rest)
  | s => (false, s)

/-- An exponent part, which must take all of the text; no text is exponent zero. -/
def exponentPart? : List Char → Option Int
  | [] => some 0
  | c :: rest =>
    if c = 'e' ∨ c = 'E' then
      let (negative, ds) := takeSign rest
      if ds.isEmpty || !ds.all isDigit then none
      else some (if negative then -(ofDigits ds : Int) else ofDigits ds)
    else none

/-- Reads an unsigned decimal that takes all of the text. -/
def literal? (s : List Char) : Option Literal :=
  let whole := s.takeWhile isDigit
  let rest := s.dropWhile isDigit
  let (fraction, tail) := match rest with
    | '.' :: more => (more.takeWhile isDigit, more.dropWhile isDigit)
    | _ => ([], rest)
  if whole.isEmpty && fraction.isEmpty then none
  else (exponentPart? tail).map fun e => ⟨whole, fraction, e⟩

/-- The double nearest to `n · 10^e`. Exponents past the range of doubles are not expanded: beyond
it every value is infinite or zero. -/
def nearest (n : Nat) (e : Int) : Float :=
  if n = 0 then 0.0
  else
    let top := e + width n
    if top > 400 then 1.0 / 0.0
    else if top < -400 then 0.0
    else if e < 0 then Float.ofScientific n true e.natAbs
    else Float.ofScientific n false e.natAbs

def Literal.toFloat (l : Literal) : Float :=
  nearest (ofDigits (l.whole ++ l.fraction)) (l.exponent - l.fraction.length)

/-- The words for the values that have no decimal. -/
def word? (s : List Char) : Option Float :=
  if sameAscii s "inf".toList || sameAscii s "infinity".toList then some (1.0 / 0.0)
  else if sameAscii s "nan".toList then some (0.0 / 0.0)
  else none

/-- Reads a double from all of the text. -/
def readChars (s : List Char) : Except FloatError Float :=
  match s with
  | [] => .error .empty
  | _ =>
    let (negative, body) := takeSign s
    match (literal? body).map Literal.toFloat <|> word? body with
    | some x => .ok (if negative then -x else x)
    | none => .error .invalid

def read (s : String) : Except FloatError Float := readChars s.toList

end FedLoad.Decimal
