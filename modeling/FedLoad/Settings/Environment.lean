import FedLoad.Text.Ascii
import FedLoad.Text.Blank
import FedLoad.Text.Case
/-!
# The environment

Settings may come from named texts. A name without a text and a blank text are the same thing: the
setting is not given.
-/
namespace FedLoad

open Text

/-- Names with their texts. -/
abbrev Environment := List (String × String)

namespace Environment

/-- The text of a name, unless it is blank. -/
def given? (env : Environment) (name : String) : Option String :=
  (env.lookup name).filter fun s => !isAllBlank s.toList

/-! ## Flags -/

/-- Only `true`, in whatever case and with blanks around it, turns a flag on. -/
def readFlag (s : String) : Bool := sameAscii (trim s.toList) "true".toList

/-! ## The form of the log -/

inductive LogForm where
  | text
  | json
deriving DecidableEq, Repr

/-- Reads the form of the log; the error is the message. A blank text means lines of text. -/
def readLogForm (s : String) : Except String LogForm :=
  match String.ofList (lower (trim s.toList)) with
  | "text" | "" => .ok .text
  | "json" => .ok .json
  | other => .error s!"expected 'text' or 'json', got '{other}'"

/-- The form of the log; one that cannot be read is no reason to stop. -/
def logForm (env : Environment) : LogForm :=
  match (env.given? "LOG_FORMAT").map readLogForm with
  | some (.ok form) => form
  | _ => .text

end Environment

end FedLoad
