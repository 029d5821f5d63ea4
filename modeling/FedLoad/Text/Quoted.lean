import FedLoad.Text.Case
import FedLoad.Text.HiddenTable
/-!
# Quoted text

A text between double quotes, written so that nothing in it is invisible: a quote and a backslash
get a backslash, the zero character, tab, line feed and carriage return have letters of their own,
and any other character that does not show is written as its code point in hexadecimal. Values that
may be absent and lists of texts are written with quoted texts inside.
-/
namespace FedLoad.Text

def isHidden (c : Char) : Bool := inRanges hiddenRanges c.toNat

/-- A character inside quotes. -/
def quotedChar (c : Char) : List Char :=
  match c with
  | '\x00' => ['\\', '0']
  | '\t' => ['\\', 't']
  | '\n' => ['\\', 'n']
  | '\r' => ['\\', 'r']
  | '"' => ['\\', '"']
  | '\\' => ['\\', '\\']
  | c =>
    if isHidden c then ['\\', 'u', '\x7b'] ++ Nat.toDigits 16 c.toNat ++ ['\x7d'] else [c]

def quoted (s : String) : String :=
  String.ofList ('"' :: (s.toList.flatMap quotedChar ++ ['"']))

/-- A text that may be absent. -/
def quotedOption : Option String → String
  | none => "None"
  | some s => "Some(" ++ quoted s ++ ")"

def quotedList (ss : List String) : String :=
  "[" ++ ", ".intercalate (ss.map quoted) ++ "]"

end FedLoad.Text
