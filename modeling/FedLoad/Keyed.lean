/-!
# Pairs in ascending order of keys

A list of pairs with ascending keys holds at most one value for a key and has one form only, so
that two such lists with the same look-ups are equal. There is one way to change it: `alter`
replaces what a key has, or what it lacks, and leaves every other key alone. Texts ascend by the
code points of their characters; keys made of several texts ascend by the first that differs.
-/
namespace FedLoad

/-! ## The order of keys -/

/-- The order in which keys ascend. -/
class Key (κ : Type) where
  before : κ → κ → Bool

/-- The order of texts by code points: a text comes after its own beginnings. -/
def charsBefore : List Char → List Char → Bool
  | _, [] => false
  | [], _ :: _ => true
  | a :: as, b :: bs => a.toNat.blt b.toNat || (a == b && charsBefore as bs)

def textBefore (a b : String) : Bool := charsBefore a.toList b.toList

/-- The order of lists of texts by the first that differs. -/
def textsBefore : List String → List String → Bool
  | _, [] => false
  | [], _ :: _ => true
  | a :: as, b :: bs => textBefore a b || (a == b && textsBefore as bs)

instance : Key Nat := ⟨Nat.blt⟩

instance : Key String := ⟨textBefore⟩

instance : Key (List String) := ⟨textsBefore⟩

/-! ## Sorted pairs -/

namespace Keyed

variable {κ ν : Type} [Key κ] [DecidableEq κ]

/-- Gives `key` the value that `f` makes of its present one. -/
def alter (key : κ) (f : Option ν → ν) : List (κ × ν) → List (κ × ν)
  | [] => [(key, f none)]
  | (k, v) :: rest =>
    if Key.before key k then (key, f none) :: (k, v) :: rest
    else if key = k then (k, f (some v)) :: rest
    else (k, v) :: alter key f rest

/-- Gives `key` a value, whatever it had. -/
def insert (key : κ) (value : ν) (pairs : List (κ × ν)) : List (κ × ν) :=
  alter key (fun _ => value) pairs

/-- Adds `n` under `key`, which starts from nothing. -/
def bump (key : κ) (n : Nat) (pairs : List (κ × Nat)) : List (κ × Nat) :=
  alter key (fun v => v.getD 0 + n) pairs

/-- Pairs in ascending order, with the last value of each key. -/
def ofList (pairs : List (κ × ν)) : List (κ × ν) :=
  pairs.foldl (fun sorted (k, v) => insert k v sorted) []

/-- Are the keys ascending? -/
def Ascending (pairs : List (κ × ν)) : Prop := pairs.Pairwise fun a b => Key.before a.1 b.1

end Keyed

end FedLoad
