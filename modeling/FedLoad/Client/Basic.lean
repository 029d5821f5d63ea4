import FedLoad.Client.Headers
import FedLoad.Decimal.Digits
import FedLoad.Span.Basic
/-!
# The client

A client is made from its settings before the first request. An override of the address to connect
to is written `hostname:ip:port`, with blanks allowed around the three parts, none of which is
empty; the address is four decimal numbers without leading zeros. A faulty override is reported
before a faulty header.
-/
namespace FedLoad

open Text Decimal

/-- How requests are made. -/
structure ClientSettings where
  timeout : Span
  skipTlsVerify : Bool
  resolve : Option String
  headers : Option String
deriving DecidableEq, Repr

/-- A host whose address is fixed. -/
structure Override where
  host : String
  address : List Nat
  port : Nat
deriving DecidableEq, Repr

/-- What requests are made with. -/
structure Client where
  timeout : Span
  skipTlsVerify : Bool
  override : Option Override
  headers : Headers
deriving DecidableEq, Repr

namespace Client

inductive BuildError where
  | form (text : String)
  | port (text : String) (cause : WholeError)
  | address (text : String)
  | header (cause : Headers.EntryError)
deriving DecidableEq, Repr

def BuildError.message : BuildError → String
  | .form text =>
    s!"RESOLVE_TARGET_ADDR ('{text}') is not in the expected format 'hostname:ip:port'"
  | .port text cause => s!"RESOLVE_TARGET_ADDR: invalid port '{text}': {cause.message}"
  | .address text =>
    s!"RESOLVE_TARGET_ADDR: invalid address '{text}': invalid socket address syntax"
  | .header cause => s!"Invalid header in CUSTOM_HEADERS: {cause.message}"

/-- A number from 0 to 255 without leading zeros. -/
def octet? (s : List Char) : Option Nat :=
  if s.isEmpty || !s.all isDigit || (s.length ≠ 1 && s.head? == some '0') then none
  else if ofDigits s ≤ 255 then some (ofDigits s) else none

/-- Four numbers separated by points. -/
def address? (s : List Char) : Option (List Nat) :=
  match pieces '.' s with
  | [a, b, c, d] => [a, b, c, d].mapM octet?
  | _ => none

def readOverride (s : String) : Except BuildError Override :=
  match (pieces ':' s.toList).map trim with
  | [host, ip, port] =>
    if host.isEmpty || ip.isEmpty || port.isEmpty then .error (.form s)
    else
      match whole (largest 16) port with
      | .error cause => .error (.port (String.ofList port) cause)
      | .ok n =>
        match address? ip with
        | some address => .ok ⟨String.ofList host, address, n⟩
        | none => .error (.address (String.ofList ip ++ ":" ++ toString n))
  | _ => .error (.form s)

/-- An empty setting counts as none. -/
def given (s : Option String) : Option String := s.filter fun s => !s.isEmpty

def readGivenOverride : Option String → Except BuildError (Option Override)
  | none => .ok none
  | some s =>
    match readOverride s with
    | .ok o => .ok (some o)
    | .error e => .error e

/-- The headers of every request. -/
def readHeaders (s : Option String) : Except BuildError Headers :=
  match given s with
  | none => .ok Headers.default
  | some s =>
    match Headers.read s with
    | .ok headers => .ok headers
    | .error cause => .error (.header cause)

def build (settings : ClientSettings) : Except BuildError Client :=
  match readGivenOverride (given settings.resolve) with
  | .error e => .error e
  | .ok override =>
    match readHeaders settings.headers with
    | .error e => .error e
    | .ok headers => .ok ⟨settings.timeout, settings.skipTlsVerify, override, headers⟩

end Client

end FedLoad
