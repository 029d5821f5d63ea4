import FedLoad.Settings.Environment
import FedLoad.Settings.Fault
/-!
# Layers of settings

A setting comes from the first of three layers that has it: the environment, the plan, the defaults.
A layer that is not reached is not looked at, so nothing that is wrong with it matters.
-/
namespace FedLoad

open Text Decimal

/-- The value of the first layer that has one. -/
def layered {ε α : Type} (given planned : Except ε (Option α)) (default : α) : Except ε α :=
  match given with
  | .error e => .error e
  | .ok (some a) => .ok a
  | .ok none =>
    match planned with
    | .error e => .error e
    | .ok a => .ok (a.getD default)

/-- What a plan means, as a layer. -/
def planned {α : Type} (a : Except PlanError α) : Except SettingsError α :=
  match a with
  | .ok a => .ok a
  | .error e => .error (.plan e)

namespace Environment

/-- What the text of a name means, if it is given. -/
def read? {α : Type} (env : Environment) (name : String)
    (read : String → Except SettingCause α) : Except SettingsError (Option α) :=
  match env.given? name with
  | none => .ok none
  | some s =>
    match read s with
    | .ok a => .ok (some a)
    | .error cause => .error (.value name s cause)

/-! ## Texts -/

def readSpan (s : String) : Except SettingCause Span :=
  match Span.read s with
  | .ok d => .ok d
  | .error e => .error (.span e)

def readPause (s : String) : Except SettingCause Pause :=
  match Pause.read s with
  | .ok p => .ok p
  | .error e => .error (.span e)

/-- Reads a whole number of at most this many bits, with blanks around it. -/
def readWhole (bits : Nat) (s : String) : Except SettingCause Nat :=
  match whole (largest bits) (trim s.toList) with
  | .ok n => .ok n
  | .error e => .error (.whole e)

/-- Reads a number with blanks around it. -/
def readFloat (s : String) : Except SettingCause Float :=
  match readChars (trim s.toList) with
  | .ok x => .ok x
  | .error e => .error (.float e)

def readStages (s : String) : Except SettingCause (List (Stage Float)) :=
  match Stage.readList s with
  | .ok stages => .ok stages
  | .error e => .error (.stages e)

end Environment

/-! ## Laws -/

end FedLoad
