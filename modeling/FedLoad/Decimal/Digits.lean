/-!
# Decimal digits and whole numbers

A digit is one of the ten ASCII digits. A whole number is read from left to right against an upper
bound, and the first fault decides the error: a character that is no digit, or the digit with which
the value passes the bound. A plus sign may stand in front.
-/
namespace FedLoad.Decimal

/-! ## Digits -/

def isDigit (c : Char) : Bool := '0' ≤ c && c ≤ '9'

/-- The value of one digit, if `c` is one. -/
def digit? (c : Char) : Option Nat :=
  if isDigit c then some (c.toNat - '0'.toNat) else none

/-- The value of a run of digits. -/
def ofDigits (s : List Char) : Nat :=
  s.foldl (fun n c => 10 * n + (c.toNat - '0'.toNat)) 0

/-- The digits of a number, the most significant first. -/
def digits (n : Nat) : List Char := Nat.toDigits 10 n

/-- The number of digits of a positive number; none for zero. -/
def width (n : Nat) : Nat := if n = 0 then 0 else (digits n).length

/-! ## Reading a bounded whole number -/

inductive WholeError where
  | empty
  | invalidDigit
  | tooLarge
deriving DecidableEq, Repr

def WholeError.message : WholeError → String
  | .empty => "cannot parse integer from empty string"
  | .invalidDigit => "invalid digit found in string"
  | .tooLarge => "number too large to fit in target type"

/-- Go on reading after a value `n`; `most` is the largest number allowed. -/
def wholeFrom (most : Nat) : Nat → List Char → Except WholeError Nat
  | n, [] => .ok n
  | n, c :: rest =>
    match digit? c with
    | none => .error .invalidDigit
    | some d =>
      if 10 * n + d ≤ most then wholeFrom most (10 * n + d) rest else .error .tooLarge

/-- Reads `+?[0-9]+` as a number of at most `most`. -/
def whole (most : Nat) : List Char → Except WholeError Nat
  | [] => .error .empty
  | ['+'] => .error .invalidDigit
  | '+' :: rest => wholeFrom most 0 rest
  | s => wholeFrom most 0 s

/-- The largest number of `bits` binary digits. -/
def largest (bits : Nat) : Nat := Nat.pow 2 bits - 1

/-! ## Laws -/

theorem digit?_isSome (c : Char) : (digit? c).isSome = isDigit c := by
  unfold digit?; split <;> simp_all

theorem wholeFrom_le {most n m : Nat} {s : List Char} (hn : n ≤ most)
    (h : wholeFrom most n s = .ok m) : m ≤ most := by
  induction s generalizing n with
  | nil => simp only [wholeFrom, Except.ok.injEq] at h; omega
  | cons c rest ih =>
    unfold wholeFrom at h
    split at h
    · simp at h
    · split at h
      · next hle => exact ih hle h
      · simp at h

/-- Whatever is read fits. -/
theorem whole_le {most m : Nat} {s : List Char} (h : whole most s = .ok m) : m ≤ most := by
  unfold whole at h
  split at h
  · simp at h
  · simp at h
  · exact wholeFrom_le (Nat.zero_le _) h
  · exact wholeFrom_le (Nat.zero_le _) h

end FedLoad.Decimal
