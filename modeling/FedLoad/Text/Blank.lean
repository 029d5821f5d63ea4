/-!
# Blank characters, trimming and cutting

Text is handled as a list of characters. A character is blank when it has the Unicode property
`White_Space`; trimming takes blanks from both ends and touches nothing between them. Cutting
splits at a separator and loses nothing but the separators: `cut` stops at the first one,
`pieces` goes through all of them and always gives at least one piece.
-/
namespace FedLoad.Text

/-! ## Blanks -/

/-- The characters with the Unicode property `White_Space`. -/
def isBlank (c : Char) : Bool :=
  let n := c.toNat
  (9 ≤ n && n ≤ 13) || n == 0x20 || n == 0x85 || n == 0xA0 || n == 0x1680 ||
    (0x2000 ≤ n && n ≤ 0x200A) || n == 0x2028 || n == 0x2029 || n == 0x202F || n == 0x205F ||
    n == 0x3000

def trimStart (s : List Char) : List Char := s.dropWhile isBlank

def trimEnd (s : List Char) : List Char := (s.reverse.dropWhile isBlank).reverse

/-- The text without the blanks at its two ends. -/
def trim (s : List Char) : List Char := trimEnd (trimStart s)

/-- A text of blanks only, the empty text included. -/
def isAllBlank (s : List Char) : Bool := s.all isBlank

/-! ## Cutting -/

/-- The parts before and after the first `sep`, if there is one. -/
def cut (sep : Char) : List Char → Option (List Char × List Char)
  | [] => none
  | c :: rest =>
    if c = sep then some ([], rest)
    else (cut sep rest).map fun (left, right) => (c :: left, right)

/-- The parts between the `sep`s: one more than there are separators. -/
def pieces (sep : Char) : List Char → List (List Char)
  | [] => [[]]
  | c :: rest =>
    if c = sep then [] :: pieces sep rest
    else match pieces sep rest with
      | [] => [[c]]
      | piece :: more => (c :: piece) :: more

/-- What remains of `s` after `lead`, if `s` begins with it. -/
def after? : List Char → List Char → Option (List Char)
  | [], s => some s
  | _ :: _, [] => none
  | a :: lead, c :: s => if a = c then after? lead s else none

/-- Does `part` occur in `s`? -/
def occursIn (part : List Char) : List Char → Bool
  | [] => part.isEmpty
  | c :: s => (after? part (c :: s)).isSome || occursIn part s

/-- The last character apart from those before it. -/
def unsnoc? (s : List Char) : Option (List Char × Char) :=
  s.getLast?.map fun c => (s.dropLast, c)

/-! ## Laws -/

theorem after?_eq_some_iff {lead s rest : List Char} :
    after? lead s = some rest ↔ s = lead ++ rest := by
  induction lead generalizing s with
  | nil => simp [after?, eq_comm]
  | cons a lead ih =>
    cases s with
    | nil => simp [after?]
    | cons c s =>
      unfold after?
      split
      · next h => subst h; simp [ih]
      · next h => simp [Ne.symm h]

end FedLoad.Text
