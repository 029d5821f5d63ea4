import FedLoad.Decimal.Reader
import FedLoad.Decimal.Style
import FedLoad.Text.Blank
/-!
# Threshold expressions

An expression compares a statistic with a limit: `rate < 0.01`, `p(95)<200`. Blanks may stand
between the three parts, around the number in `p( )`, and before and after the whole, but not inside
a part. Numbers are digits, with or without a point and more digits; only the limit may be negative.
The number in `p( )` is at most 100.
-/
namespace FedLoad

open Text Decimal

/-! ## Parts -/

/-- What is computed of a metric. -/
inductive Statistic where
  | rate
  | count
  | avg
  | min
  | max
  | med
  | percentile (p : Float)
deriving DecidableEq, Repr

def Statistic.write : Statistic → String
  | .rate => "rate"
  | .count => "count"
  | .avg => "avg"
  | .min => "min"
  | .max => "max"
  | .med => "med"
  | .percentile p => s!"p({Decimal.write .amount p})"

inductive Comparison where
  | lt
  | le
  | gt
  | ge
  | eq
  | ne
deriving DecidableEq, Repr

namespace Comparison

def symbol : Comparison → String
  | .lt => "<"
  | .le => "<="
  | .gt => ">"
  | .ge => ">="
  | .eq => "=="
  | .ne => "!="

def holds (c : Comparison) (observed limit : Float) : Bool :=
  match c with
  | .lt => observed < limit
  | .le => observed ≤ limit
  | .gt => observed > limit
  | .ge => observed ≥ limit
  | .eq => observed == limit
  | .ne => observed != limit

/-- The comparison that holds of two numbers exactly when this one does not. -/
def negate : Comparison → Comparison
  | .lt => .ge
  | .le => .gt
  | .gt => .le
  | .ge => .lt
  | .eq => .ne
  | .ne => .eq

end Comparison

/-- A statistic, a comparison and a limit. -/
structure Expression where
  statistic : Statistic
  comparison : Comparison
  limit : Float
deriving DecidableEq, Repr

namespace Expression

inductive ReadError where
  | form (text : String)
  | percentile (p : Float)

def ReadError.message : ReadError → String
  | .form text =>
    s!"Invalid threshold expression '{text}'. Expected e.g. 'rate < 0.01' or 'p(95)<200'"
  | .percentile p =>
    s!"Invalid percentile {Decimal.write .amount p}. Expected a value between 0 and 100"

/-! ## Reading -/

/-- A statistic as written: a percentile with the digits of its number. -/
inductive Word where
  | plain (s : Statistic)
  | percentile (number : List Char)

/-- Digits, with or without a point and more digits, and what follows them. -/
def scanNumber? (s : List Char) : Option (List Char × List Char) :=
  let whole := s.takeWhile isDigit
  if whole.isEmpty then none
  else match s.dropWhile isDigit with
    | '.' :: rest =>
      let fraction := rest.takeWhile isDigit
      if fraction.isEmpty then some (whole, '.' :: rest)
      else some (whole ++ '.' :: fraction, rest.dropWhile isDigit)
    | rest => some (whole, rest)

/-- The statistics that are a word each. -/
def words : List Statistic := [.rate, .count, .avg, .min, .max, .med]

/-- The statistic at the front of a text. -/
def scanWord? (s : List Char) : Option (Word × List Char) :=
  match words.findSome? fun w => (after? w.write.toList s).map fun rest => (Word.plain w, rest) with
  | some found => some found
  | none => do
    let s ← after? ['p', '('] s
    let (number, s) ← scanNumber? (trimStart s)
    let s ← after? [')'] (trimStart s)
    pure (.percentile number, s)

/-- Longer symbols before those that they begin with. -/
def comparisons : List Comparison := [.le, .ge, .eq, .ne, .lt, .gt]

/-- The comparison at the front of a text. -/
def scanComparison? (s : List Char) : Option (Comparison × List Char) :=
  comparisons.findSome? fun c => (after? c.symbol.toList s).map fun rest => (c, rest)

/-- The limit at the front of a text. -/
def scanLimit? (s : List Char) : Option (List Char × List Char) :=
  match s with
  | '-' :: rest => (scanNumber? rest).map fun (number, tail) => ('-' :: number, tail)
  | _ => scanNumber? s

/-- The parts of an expression that takes all of the text. -/
def parts? (s : List Char) : Option (Word × Comparison × List Char) := do
  let (word, s) ← scanWord? (trimStart s)
  let (comparison, s) ← scanComparison? (trimStart s)
  let (limit, s) ← scanLimit? (trimStart s)
  if isAllBlank s then pure (word, comparison, limit) else none

/-- A number whose digits have been scanned. -/
def numberOf (s : List Char) : Float :=
  match readChars s with
  | .ok x => x
  | .error _ => 0.0

def isPercentile (p : Float) : Bool := 0.0 ≤ p && p ≤ 100.0

/-- Reads an expression. -/
def read (s : String) : Except ReadError Expression :=
  match parts? s.toList with
  | none => .error (.form s)
  | some (.plain statistic, comparison, limit) => .ok ⟨statistic, comparison, numberOf limit⟩
  | some (.percentile number, comparison, limit) =>
    let p := numberOf number
    if isPercentile p then .ok ⟨.percentile p, comparison, numberOf limit⟩
    else .error (.percentile p)

end Expression

end FedLoad
