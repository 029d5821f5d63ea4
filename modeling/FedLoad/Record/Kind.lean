import FedLoad.Text.Blank
import FedLoad.Text.Case
/-!
# What can be wrong with a response

A defect is a property of a response that was received: its status, its content type, the size of
its body, or the type of the object in it. Each has the label under which its samples are counted.
An outage is a request that got no response, or not all of it, sorted into one of four categories;
where nothing but a message is known, words in the message decide.
-/
namespace FedLoad

open Text

/-! ## Defects -/

inductive Defect where
  | status
  | contentType
  | bodySize
  | objectType
deriving DecidableEq, Repr

namespace Defect

/-- Every defect, in the order in which they are reported. -/
def all : List Defect := [.status, .contentType, .bodySize, .objectType]

def label : Defect → String
  | .status => "responseStatusError"
  | .contentType => "contentTypeError"
  | .bodySize => "bodySizeError"
  | .objectType => "ActivityPubError"

/-- The position in `all`. -/
def index : Defect → Nat
  | .status => 0
  | .contentType => 1
  | .bodySize => 2
  | .objectType => 3

/-- The defect with a label; labels are compared exactly. -/
def ofLabel? (s : String) : Option Defect := all.find? (·.label == s)

/-- Says which labels there are, for a text that is none of them. -/
def unknownMessage (s : String) : String :=
  s!"Unknown errorType '{s}'. Expected one of: " ++ ", ".intercalate (all.map label)

theorem mem_all (d : Defect) : d ∈ all := by cases d <;> simp [all]

theorem label_injective {a b : Defect} (h : a.label = b.label) : a = b := by
  cases a <;> cases b <;> first | rfl | (exact absurd h (by decide))

theorem ofLabel?_label (d : Defect) : ofLabel? d.label = some d := by cases d <;> decide

end Defect

/-! ## Outages -/

inductive Outage where
  | network
  | timeout
  | tls
  | other
deriving DecidableEq, Repr

namespace Outage

def label : Outage → String
  | .network => "network_error"
  | .timeout => "timeout_error"
  | .tls => "tls_error"
  | .other => "other_error"

/-- Does one of these words occur in the text? -/
def mentions (text : List Char) (words : List String) : Bool :=
  words.any fun w => occursIn w.toList text

/-- The category that the words of a message point to, in whatever case they are written. -/
def ofMessage (message : String) : Outage :=
  let text := lower message.toList
  if mentions text ["certificate", "tls", "ssl"] then .tls
  else if mentions text ["timeout", "timed out"] then .timeout
  else if mentions text ["dns", "resolve", "connect"] then .network
  else .other

end Outage

end FedLoad
