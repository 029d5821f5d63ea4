import FedLoad.Span.Basic
import FedLoad.Decimal.Digits
import FedLoad.Text.Blank
/-!
# Written spans

A span is written as a whole number followed by a unit: `250ms`, `30s`, `10m`, `5h`, `3d`. Blanks
around it are ignored. The unit is `ms` if the text ends so, and else the last character, whatever
it is; the rest must be a whole number below `2^64`. A number that cannot be read is reported before
a unit that is not known. The seconds that a number of minutes, hours or days comes to are not
checked: of `2^64` and more only what a word keeps is left.

A summary shows a span in its largest fitting unit with the fraction that is left: `1.5s`, `250ms`.
-/
namespace FedLoad.Span

open Text Decimal

/-! ## Reading -/

inductive ReadError where
  | empty
  | number (text : String)
  | unit (text : String)
deriving DecidableEq, Repr

def ReadError.message : ReadError → String
  | .empty => "Duration string cannot be empty"
  | .number text => s!"Invalid numeric value in duration: '{text}'"
  | .unit text =>
    s!"Unknown duration unit: '{text}'. Use 'ms', 's', 'm', 'h', or 'd'."

inductive Unit where
  | millisecond
  | second
  | minute
  | hour
  | day
deriving DecidableEq, Repr

def Unit.symbol : Unit → List Char
  | .millisecond => ['m', 's']
  | .second => ['s']
  | .minute => ['m']
  | .hour => ['h']
  | .day => ['d']

def Unit.all : List Unit := [.millisecond, .second, .minute, .hour, .day]

def Unit.ofSymbol? (s : List Char) : Option Unit := Unit.all.find? (·.symbol == s)

/-- The length of one unit. -/
def Unit.span : Unit → Span
  | .millisecond => ofMillis 1
  | .second => ofSeconds 1
  | .minute => ofSeconds 60
  | .hour => ofSeconds 3600
  | .day => ofSeconds 86400

/-- `n` units of time, whose whole seconds are counted in a word. -/
def ofUnits (n : Nat) (u : Unit) : Span := wrapped ⟨n * u.span.nanos⟩

/-- The number and the unit of a text without blanks around it; nothing if it is empty. -/
def splitUnit? (s : List Char) : Option (List Char × List Char) :=
  (unsnoc? s).map fun (front, c) =>
    match unsnoc? front with
    | some (number, 'm') => if c = 's' then (number, ['m', 's']) else (front, [c])
    | _ => (front, [c])

def readChars (s : List Char) : Except ReadError Span :=
  match splitUnit? (trim s) with
  | none => .error .empty
  | some (number, unit) =>
    match whole (largest 64) number with
    | .error _ => .error (.number (String.ofList number))
    | .ok n =>
      match Unit.ofSymbol? unit with
      | some u => .ok (ofUnits n u)
      | none => .error (.unit (String.ofList unit))

/-- Reads a whole number with a unit. -/
def read (s : String) : Except ReadError Span := readChars s.toList

/-- Whole milliseconds with their unit. -/
def writeMillis (s : Span) : List Char := digits s.millis ++ Unit.millisecond.symbol

/-! ## Showing -/

/-- A whole number with the part behind the point, of which trailing zeros are not shown. -/
def showFraction (whole part places : Nat) : List Char :=
  let ds := digits part
  let padded := List.replicate (places - ds.length) '0' ++ ds
  let shown := (padded.reverse.dropWhile (· = '0')).reverse
  digits whole ++ (if shown.isEmpty then [] else '.' :: shown)

/-- The span in seconds, milliseconds, microseconds or nanoseconds. -/
def shown (s : Span) : String :=
  let n := s.nanos
  let (cs, unit) :=
    if 1000000000 ≤ n then (showFraction (n / 1000000000) (n % 1000000000) 9, "s")
    else if 1000000 ≤ n then (showFraction (n / 1000000) (n % 1000000) 6, "ms")
    else if 1000 ≤ n then (showFraction (n / 1000) (n % 1000) 3, "µs")
    else (digits n, "ns")
  String.ofList cs ++ unit

end FedLoad.Span
