/-!
# Reading bytes as UTF-8

Every sequence of bytes reads as a text. A byte that no character can begin or go on with is
replaced, together with the bytes of the character it breaks off, by one replacement character;
reading goes on at the byte that did the breaking.
-/
namespace FedLoad.Text.Utf8

/-- Where reading stands: between characters, or inside one that wants `wanted` more bytes, the
next of them from `low` to `high`, with the bits read so far. -/
inductive State where
  | between
  | inside (wanted low high bits : Nat)
deriving DecidableEq, Repr

def replacement : Char := '\ufffd'

/-- The first byte of a character: what it completes, and where reading stands after it. -/
def first (b : Nat) : List Char × State :=
  if b < 0x80 then ([Char.ofNat b], .between)
  else if b < 0xC2 then ([replacement], .between)
  else if b < 0xE0 then ([], .inside 1 0x80 0xBF (b - 0xC0))
  else if b < 0xF0 then
    ([], .inside 2 (if b = 0xE0 then 0xA0 else 0x80) (if b = 0xED then 0x9F else 0xBF) (b - 0xE0))
  else if b < 0xF5 then
    ([], .inside 3 (if b = 0xF0 then 0x90 else 0x80) (if b = 0xF4 then 0x8F else 0xBF) (b - 0xF0))
  else ([replacement], .between)

/-- One byte. -/
def step (state : State) (b : Nat) : List Char × State :=
  match state with
  | .between => first b
  | .inside wanted low high bits =>
    if low ≤ b && b ≤ high then
      let bits := bits * 64 + (b - 0x80)
      if wanted ≤ 1 then ([Char.ofNat bits], .between)
      else ([], .inside (wanted - 1) 0x80 0xBF bits)
    else
      let (cs, next) := first b
      (replacement :: cs, next)

def readFrom : State → List UInt8 → List Char
  | .between, [] => []
  | .inside .., [] => [replacement]
  | state, b :: rest =>
    let (cs, next) := step state b.toNat
    cs ++ readFrom next rest

/-- The text of a sequence of bytes. -/
def read (bytes : List UInt8) : String := String.ofList (readFrom .between bytes)

end FedLoad.Text.Utf8
