import FedLoad.Decimal.Digits
import FedLoad.Text.Utf8
import FedLoad.Url.Address
import FedLoad.Url.Domain
/-!
# Absolute addresses

Of an address only its scheme and its host are of interest. It is read leniently: control
characters and spaces at its ends count for nothing, nor do line breaks and tabs anywhere, and any
number of slashes may precede the host of a well-known scheme. What makes an address unreadable is
a missing scheme, a faulty host or a faulty port.
-/
namespace FedLoad.Url

open Text Decimal

inductive Fault where
  | noScheme
  | emptyHost
  | domain
  | character
  | shortAddress
  | longAddress
  | port
deriving DecidableEq, Repr

def Fault.message : Fault → String
  | .noScheme => "relative URL without a base"
  | .emptyHost => "empty host"
  | .domain => "invalid international domain name"
  | .character => "invalid domain character"
  | .shortAddress => "invalid IPv4 address"
  | .longAddress => "invalid IPv6 address"
  | .port => "invalid port number"

/-- Where an address leads: its scheme in lower case, and its host in standard form. -/
structure Origin where
  scheme : String
  host : Option String
deriving DecidableEq, Repr

/-! ## Schemes -/

def isSchemeChar (c : Char) : Bool :=
  isAsciiLetter c || isDigit c || c = '+' || c = '-' || c = '.'

/-- The scheme in lower case, and what follows its colon. -/
def cutScheme? (s : List Char) : Option (List Char × List Char) :=
  match cut ':' s with
  | some (c :: scheme, rest) =>
    if isAsciiLetter c && scheme.all isSchemeChar then some ((c :: scheme).map lowerAscii, rest)
    else none
  | _ => none

/-- The schemes whose addresses always have a host. -/
def webSchemes : List String := ["http", "https", "ws", "wss", "ftp"]

/-! ## Hosts -/

/-- The bytes of a text in which `%` and two hexadecimal digits stand for a byte. -/
def decodePercent : List Char → List UInt8
  | '%' :: a :: b :: rest =>
    match hexDigit? a, hexDigit? b with
    | some x, some y => UInt8.ofNat (x * 16 + y) :: decodePercent rest
    | _, _ => 0x25 :: decodePercent (a :: b :: rest)
  | c :: rest => String.utf8EncodeChar c ++ decodePercent rest
  | [] => []

/-- The address in brackets, if the text has both of them. -/
def bracketed (s : List Char) : Except Fault (List Char) :=
  match s.getLast?, longAddress? s.dropLast with
  | some ']', some groups => .ok ('[' :: showLong groups ++ [']'])
  | _, _ => .error .longAddress

/-- The standard form of a host that is a domain name or a numeric address. -/
def readHost : List Char → Except Fault (List Char)
  | '[' :: rest => bracketed rest
  | s =>
    match domainToAscii? (Utf8.read (decodePercent s)).toList with
    | none => .error .domain
    | some [] => .error .emptyHost
    | some name =>
      if endsInNumber name then
        match shortAddress? name with
        | some n => .ok (showShort n)
        | none => .error .shortAddress
      else .ok name

/-- The characters that no host has, whatever the scheme. -/
def neverInHost (c : Char) : Bool :=
  ['\x00', '\t', '\n', '\x0d', ' ', '#', '/', ':', '<', '>', '?', '@', '[', '\\', ']', '^',
    '|'].contains c

def hexDigits (b : UInt8) : List Char :=
  [Nat.digitChar (b.toNat / 16), Nat.digitChar (b.toNat % 16)].map Char.toUpper

/-- Control characters and all that is not ASCII as `%` and two digits for each byte. -/
def encodeControl (c : Char) : List Char :=
  if 0x20 ≤ c.toNat ∧ c.toNat < 0x7F then [c]
  else (String.utf8EncodeChar c).flatMap fun b => '%' :: hexDigits b

/-- The standard form of a host whose scheme gives it no meaning. -/
def readOpaque : List Char → Except Fault (List Char)
  | '[' :: rest => bracketed rest
  | s => if s.any neverInHost then .error .character else .ok (s.flatMap encodeControl)

/-! ## Authorities -/

/-- Does this character end an authority? -/
def endsAuthority (web : Bool) (c : Char) : Bool :=
  c = '/' || c = '?' || c = '#' || (web && c = '\\')

/-- What stands before the last `@` of an authority, and what follows it. -/
def cutCredentials? (web : Bool) (s : List Char) : Option (List Char × List Char) :=
  let authority := s.takeWhile fun c => !endsAuthority web c
  let host := (authority.reverse.takeWhile (· ≠ '@')).reverse
  if authority.contains '@' then
    some (authority.take (authority.length - host.length - 1),
      host ++ s.dropWhile fun c => !endsAuthority web c)
  else none

/-- The host and what follows it; a colon in brackets belongs to the host. -/
def cutHost (web : Bool) (inBrackets : Bool) : List Char → List Char × List Char
  | [] => ([], [])
  | c :: rest =>
    if endsAuthority web c || (c = ':' && !inBrackets) then ([], c :: rest)
    else
      let inside := if c = '[' then true else if c = ']' then false else inBrackets
      let (host, more) := cutHost web inside rest
      (c :: host, more)

/-- Is there no port, or one of at most sixteen bits? -/
def portHolds : List Char → Bool
  | ':' :: rest =>
    let port := rest.takeWhile fun c => !endsAuthority true c
    port.all isDigit && ofDigits port < Nat.pow 2 16
  | _ => true

/-- May the host be left out between these credentials and what follows? -/
def hostMayBeEmpty (credentials : Option (List Char)) (rest : List Char) : Bool :=
  match credentials with
  | none => rest.head? != some ':'
  | some [] => rest.isEmpty
  | some [c] => c = ':' && rest.head? != some ':'
  | some _ => false

/-- The host of a text that follows the slashes; nothing for an empty one. -/
def readAuthority (web : Bool) (s : List Char) : Except Fault (Option (List Char)) := do
  let (credentials, s) := match cutCredentials? web s with
    | none => (none, s)
    | some (credentials, rest) => (some credentials, rest)
  let (host, rest) := cutHost web false s
  if host.isEmpty then
    if !web && hostMayBeEmpty credentials rest then return none else throw .emptyHost
  let name ← if web then readHost host else readOpaque host
  if portHolds rest then return some name else throw .port

/-! ## Files -/

/-- A letter and a colon or a bar, as some file names begin. -/
def isDrive : List Char → Bool
  | [c, d] => isAsciiLetter c && (d = ':' || d = '|')
  | _ => false

/-- The host of a file; there is none if the file is on this machine. -/
def readFileHost (s : List Char) : Except Fault (Option (List Char)) :=
  let host := s.takeWhile fun c => !endsAuthority true c
  let path := (s.dropWhile fun c => !endsAuthority true c).drop 1
  if host.isEmpty || isDrive host then .ok none
  else
    match readHost host with
    | .error e => .error e
    | .ok name =>
      if name == "localhost".toList || isDrive (path.takeWhile fun c => !endsAuthority true c) then
        .ok none
      else .ok (some name)

/-! ## Addresses -/

def isSlash (c : Char) : Bool := c = '/' || c = '\\'

def isControlOrSpace (c : Char) : Bool := c.toNat ≤ 0x20

/-- The text without what counts for nothing. -/
def tidy (s : List Char) : List Char :=
  let s := ((s.dropWhile isControlOrSpace).reverse.dropWhile isControlOrSpace).reverse
  s.filter fun c => !(c = '\t' || c = '\n' || c = '\x0d')

/-- The host of what follows a scheme and its colon. -/
def readHostOf (scheme : String) (rest : List Char) : Except Fault (Option (List Char)) :=
  if webSchemes.contains scheme then readAuthority true (rest.dropWhile isSlash)
  else if scheme == "file" then
    match rest with
    | a :: b :: rest => if isSlash a && isSlash b then readFileHost rest else .ok none
    | _ => .ok none
  else
    match rest with
    | '/' :: '/' :: rest => readAuthority false rest
    | _ => .ok none

/-- Reads an address. -/
def read (s : String) : Except Fault Origin :=
  match cutScheme? (tidy s.toList) with
  | none => .error .noScheme
  | some (scheme, rest) =>
    let scheme := String.ofList scheme
    (readHostOf scheme rest).map fun host => ⟨scheme, host.map String.ofList⟩

/-- Can the address be read, and does its host end in `ending`? An empty ending is the end of no
host. -/
def hostEndsWith (url ending : String) : Bool :=
  match read url with
  | .ok ⟨_, some host⟩ => !ending.isEmpty && host.endsWith ending
  | _ => false

end FedLoad.Url
