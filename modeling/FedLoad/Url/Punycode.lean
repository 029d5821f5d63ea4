/-!
# Punycode

A label with characters outside ASCII is written in ASCII: first its ASCII characters, then, behind
a hyphen, a number in base 36 for every other character in ascending order, which says how far its
place and its code point are from those before. How many digits a number takes adapts to the size of
the numbers before it.
-/
namespace FedLoad.Url.Punycode

def base : Nat := 36
def leastThreshold : Nat := 1
def mostThreshold : Nat := 26
def skew : Nat := 38
def damp : Nat := 700
def firstBias : Nat := 72
def firstCode : Nat := 128

/-- The largest code point or number that is handled. -/
def limit : Nat := Nat.pow 2 32

/-- The threshold of the digit at position `k`. -/
def threshold (k bias : Nat) : Nat :=
  if k ≤ bias + leastThreshold then leastThreshold
  else if bias + mostThreshold ≤ k then mostThreshold
  else k - bias

/-- Divides until the number is small, counting the digits. -/
def settle (delta k : Nat) : Nat :=
  if (base - leastThreshold) * mostThreshold / 2 < delta then
    settle (delta / (base - leastThreshold)) (k + base)
  else k + (base - leastThreshold + 1) * delta / (delta + skew)
termination_by delta
decreasing_by
  apply Nat.div_lt_self
  · omega
  · decide

/-- The bias after a number `delta`. -/
def adapt (delta count : Nat) (first : Bool) : Nat :=
  let delta := if first then delta / damp else delta / 2
  settle (delta + delta / count) 0

/-! ## Writing -/

def digit (d : Nat) : Char :=
  if d < 26 then Char.ofNat ('a'.toNat + d) else Char.ofNat ('0'.toNat + (d - 26))

theorem one_le_threshold (k bias : Nat) : 1 ≤ threshold k bias := by
  unfold threshold leastThreshold mostThreshold
  split
  · omega
  · split <;> omega

/-- A number in digits, the first at position `k`. -/
def writeNumber (q k bias : Nat) : List Char :=
  if q < threshold k bias then [digit q]
  else
    digit (threshold k bias + (q - threshold k bias) % (base - threshold k bias)) ::
      writeNumber ((q - threshold k bias) / (base - threshold k bias)) (k + base) bias
termination_by q
decreasing_by
  have := one_le_threshold k bias
  have : (q - threshold k bias) / (base - threshold k bias) ≤ q - threshold k bias :=
    Nat.div_le_self _ _
  omega

/-- Where writing stands. -/
structure Pen where
  delta : Nat
  bias : Nat
  /-- Characters written so far, ASCII included. -/
  done : Nat
  first : Bool
  out : List Char

/-- Goes once through the label for the code point `n`. -/
def Pen.sweep (p : Pen) (n : Nat) : List Char → Pen
  | [] => { p with delta := p.delta + 1 }
  | c :: rest =>
    if c.toNat < n then { p with delta := p.delta + 1 }.sweep n rest
    else if c.toNat = n then
      { p with
        out := p.out ++ writeNumber p.delta base p.bias
        bias := adapt p.delta (p.done + 1) p.first
        delta := 0
        done := p.done + 1
        first := false }.sweep n rest
    else p.sweep n rest

/-- Goes through the label for each of the code points, which ascend from above `last`. -/
def Pen.sweepAll (p : Pen) (label : List Char) (last : Nat) : List Nat → Pen
  | [] => p
  | n :: rest =>
    let p := { p with delta := p.delta + (n - last) * (p.done + 1) }
    (p.sweep n label).sweepAll label (n + 1) rest

/-- Puts a number into ascending numbers, unless it is there. -/
def insertCode (n : Nat) : List Nat → List Nat
  | [] => [n]
  | m :: rest => if n < m then n :: m :: rest else if n = m then m :: rest else m :: insertCode n rest

/-- The written form of a label, without the mark that it is one. -/
def encode (label : List Char) : List Char :=
  let plain := label.filter fun c => c.toNat < firstCode
  let codes := (label.filter fun c => firstCode ≤ c.toNat).foldl (fun ns c => insertCode c.toNat ns) []
  let start := if plain.isEmpty then [] else plain ++ ['-']
  (Pen.sweepAll ⟨0, firstBias, plain.length, true, start⟩ label firstCode codes).out

/-! ## Reading -/

def digit? (c : Char) : Option Nat :=
  if 'a' ≤ c && c ≤ 'z' then some (c.toNat - 'a'.toNat)
  else if 'A' ≤ c && c ≤ 'Z' then some (c.toNat - 'A'.toNat)
  else if '0' ≤ c && c ≤ '9' then some (c.toNat - '0'.toNat + 26)
  else none

/-- Where reading stands: the place and code point of the last character, and a number that is
being read, with its weight and position. -/
structure Eye where
  place : Nat
  code : Nat
  bias : Nat
  first : Bool
  start : Nat
  weight : Nat
  position : Nat
  out : List Char

/-- Inserts a character at a place. -/
def insertAt (c : Char) : Nat → List Char → List Char
  | 0, s => c :: s
  | _ + 1, [] => [c]
  | n + 1, d :: s => d :: insertAt c n s

def Eye.read? (e : Eye) : List Char → Option (List Char)
  | [] => if e.weight = 1 && e.position = base then some e.out else none
  | c :: rest =>
    match digit? c with
    | none => none
    | some d =>
      let place := e.place + d * e.weight
      let t := threshold e.position e.bias
      if limit ≤ place then none
      else if d < t then
        let count := e.out.length + 1
        let code := e.code + place / count
        let at_ := place % count
        if 0x10FFFF < code || (0xD800 ≤ code && code ≤ 0xDFFF) then none
        else
          Eye.read? ⟨at_ + 1, code, adapt (place - e.start) count e.first, false, at_ + 1, 1, base,
            insertAt (Char.ofNat code) at_ e.out⟩ rest
      else if limit ≤ e.weight * (base - t) then none
      else
        Eye.read?
          { e with place := place, weight := e.weight * (base - t), position := e.position + base }
          rest

/-- The last hyphen of a text, with what stands before and after it. -/
def cutLast? (s : List Char) : Option (List Char × List Char) :=
  match s.reverse.span (· != '-') with
  | (after, _ :: before) => some (before.reverse, after.reverse)
  | (_, []) => none

/-- The label of a written form. -/
def decode? (s : List Char) : Option (List Char) :=
  let (plain, numbers) := (cutLast? s).getD ([], s)
  if !plain.all fun c => c.toNat < firstCode then none
  else Eye.read? ⟨0, firstCode, firstBias, true, 0, 1, base, plain⟩ numbers

end FedLoad.Url.Punycode
