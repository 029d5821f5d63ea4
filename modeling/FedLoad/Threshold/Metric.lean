import FedLoad.Record.Kind
/-!
# Metrics

A threshold reads one of three metrics: the rate of samples with a defect, of all defects or of one;
the rate of passing checks; or the latency of requests. The one defect is chosen in braces after the
name: `error_rate`, then `errorType` and a colon and the label of the defect between braces. Blanks
may stand between the parts, and before and after the whole.
-/
namespace FedLoad

open Text

inductive Metric where
  | defects (only : Option Defect)
  | checks
  | latency
deriving DecidableEq, Repr

namespace Metric

def write : Metric → String
  | .defects none => "error_rate"
  | .defects (some d) => "error_rate\x7berrorType:" ++ d.label ++ "\x7d"
  | .checks => "checks"
  | .latency => "http_req_duration"

/-- A letter of a metric's name. -/
def isNameChar (c : Char) : Bool := ('a' ≤ c && c ≤ 'z') || c == '_'

/-- A letter of a defect's label. -/
def isLabelChar (c : Char) : Bool := ('a' ≤ c && c ≤ 'z') || ('A' ≤ c && c ≤ 'Z')

/-- The choice in braces that makes up all of a text: the label in it. -/
def choice? (s : List Char) : Option (List Char) := do
  let s ← after? ['\x7b'] s
  let s ← after? "errorType".toList (trimStart s)
  let s ← after? [':'] (trimStart s)
  let s := trimStart s
  let label := s.takeWhile isLabelChar
  let s ← after? ['\x7d'] (trimStart (s.dropWhile isLabelChar))
  if label.isEmpty || !isAllBlank s then none else some label

/-- The name at the front of a text, and the label chosen after it, if there is a choice. -/
def parts? (s : List Char) : Option (List Char × Option (List Char)) :=
  let s := trimStart s
  let name := s.takeWhile isNameChar
  let rest := trimStart (s.dropWhile isNameChar)
  if name.isEmpty then none
  else if rest.isEmpty then some (name, none)
  else (choice? rest).map fun label => (name, some label)

/-- Reads a metric. -/
def read? (s : String) : Option Metric :=
  match parts? s.toList with
  | none => none
  | some (name, label) =>
    match String.ofList name, label with
    | "error_rate", none => some (.defects none)
    | "error_rate", some label =>
      (Defect.ofLabel? (String.ofList label)).map fun d => .defects (some d)
    | "checks", none => some .checks
    | "http_req_duration", none => some .latency
    | _, _ => none

end Metric

end FedLoad
