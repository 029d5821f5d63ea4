import FedLoad.Text.Ascii
import FedLoad.Text.Blank
/-!
# Request headers

Every request carries an `accept` header and the headers of a list of entries, written `Name:Value`
and separated by commas; a backslash before a comma makes it part of an entry. Names are compared
without regard to case. The headers stand in the order in which their names came up first, and a
name that comes up again takes its latest value to the old place.

The list takes any number of names. The table that a client keeps its headers in has room for 24576
of them and fails on one more; this failure is left out.
-/
namespace FedLoad

open Text

/-- Names in lower case with their values, each name once. -/
abbrev Headers := List (String × String)

namespace Headers

/-! ## Entries -/

/-- Puts a character in front of the first entry. -/
def pushChar (c : Char) : List (List Char) → List (List Char)
  | [] => [[c]]
  | entry :: more => (c :: entry) :: more

/-- Cuts at the commas that no backslash stands before. -/
def cutEntries : List Char → List (List Char)
  | [] => [[]]
  | '\\' :: ',' :: rest => pushChar ',' (cutEntries rest)
  | ',' :: rest => [] :: cutEntries rest
  | c :: rest => pushChar c (cutEntries rest)

/-- The entries of a text that are not blank. -/
def entries (s : List Char) : List (List Char) := (cutEntries s).filter fun e => !isAllBlank e

/-- Drops every backslash that stands before a comma. -/
def unescapeCommas : List Char → List Char
  | [] => []
  | '\\' :: ',' :: rest => ',' :: unescapeCommas rest
  | c :: rest => c :: unescapeCommas rest

/-! ## Names and values -/

inductive EntryError where
  | noColon (entry : String)
  | noName (entry : String)
  | name (name : String)
  | value (name : String)
deriving DecidableEq, Repr

def EntryError.message : EntryError → String
  | .noColon entry => s!"'{entry}'. Expected 'Name:Value'"
  | .noName entry => s!"header name cannot be empty in '{entry}'"
  | .name n => s!"name '{n}': invalid HTTP header name"
  | .value n => s!"value for '{n}': failed to parse header value"

/-- The characters of a name. -/
def isNameChar (c : Char) : Bool :=
  isAsciiLetter c || ('0' ≤ c && c ≤ '9') ||
    ['!', '#', '$', '%', '&', '\'', '*', '+', '-', '.', '^', '_', '\x60', '|', '~'].contains c

/-- The longest name that is taken. -/
def nameLimit : Nat := 65535

def isName (s : List Char) : Bool := !s.isEmpty && s.all isNameChar && s.length ≤ nameLimit

/-- Everything but controls; the tab is allowed. -/
def isValueChar (c : Char) : Bool := c == '\t' || (0x20 ≤ c.toNat && c.toNat != 0x7F)

/-- Reads an entry without blanks around it. -/
def readEntry (entry : List Char) : Except EntryError (String × String) :=
  match cut ':' entry with
  | none => .error (.noColon (String.ofList entry))
  | some (name, value) =>
    let name := trim name
    let value := unescapeCommas (trim value)
    if name.isEmpty then .error (.noName (String.ofList entry))
    else if !isName name then .error (.name (String.ofList name))
    else if !value.all isValueChar then .error (.value (String.ofList name))
    else .ok (String.ofList (name.map lowerAscii), String.ofList value)

/-! ## The list of headers -/

/-- Gives a name its value, at its place if it has one and else at the end. -/
def put (name value : String) : Headers → Headers
  | [] => [(name, value)]
  | (n, v) :: rest =>
    if n = name then (n, value) :: rest else (n, v) :: put name value rest

/-- What is accepted unless a list of headers says otherwise. -/
def defaultAccept : String :=
  "application/activity+json, application/ld+json, application/json"

def default : Headers := [("accept", defaultAccept)]

/-- Puts entries in order; the first that cannot be read decides the error. -/
def putEntries (headers : Headers) : List (List Char) → Except EntryError Headers
  | [] => .ok headers
  | entry :: rest =>
    match readEntry (trim entry) with
    | .error e => .error e
    | .ok (name, value) => putEntries (put name value headers) rest

/-- Reads the entries of a text on top of the default. -/
def read (s : String) : Except EntryError Headers := putEntries default (entries s.toList)

/-- A value that can be shown: visible ASCII, blanks and tabs. -/
def isShown (value : String) : Bool :=
  value.toList.all fun c => c == '\t' || (0x20 ≤ c.toNat && c.toNat < 0x7F)

end Headers

end FedLoad
