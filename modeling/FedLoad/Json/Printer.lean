import FedLoad.Json.Basic
import FedLoad.Decimal.Style
/-!
# Written JSON

Values are written without spaces. In a text only the quote, the backslash and the controls below
the space are escaped; controls without a letter of their own get four lower case hexadecimal
digits. A double always shows a fraction or an exponent; one that is not finite is written `null`.
-/
namespace FedLoad.Json

/-- Four hexadecimal digits. -/
def hex4 (n : Nat) : List Char :=
  let ds := Nat.toDigits 16 n
  List.replicate (4 - ds.length) '0' ++ ds

def escapedChar (c : Char) : List Char :=
  match c with
  | '"' => ['\\', '"']
  | '\\' => ['\\', '\\']
  | '\x08' => ['\\', 'b']
  | '\t' => ['\\', 't']
  | '\n' => ['\\', 'n']
  | '\x0c' => ['\\', 'f']
  | '\r' => ['\\', 'r']
  | c => if c.toNat < 0x20 then '\\' :: 'u' :: hex4 c.toNat else [c]

def writeText (s : String) : String :=
  String.ofList ('"' :: (s.toList.flatMap escapedChar ++ ['"']))

def writeFloat (x : Float) : String :=
  if isFinite x then Decimal.write .data x else "null"

mutual

def write : Json → String
  | .null => "null"
  | .bool b => if b then "true" else "false"
  | .int n => toString n
  | .float x => writeFloat x
  | .text s => writeText s
  | .list items => "[" ++ writeItems items ++ "]"
  | .record fields => "\x7b" ++ writeFields fields ++ "\x7d"

def writeItems : List Json → String
  | [] => ""
  | [j] => write j
  | j :: rest => write j ++ "," ++ writeItems rest

def writeFields : List (String × Json) → String
  | [] => ""
  | [(k, j)] => writeText k ++ ":" ++ write j
  | (k, j) :: rest => writeText k ++ ":" ++ write j ++ "," ++ writeFields rest

end

end FedLoad.Json
