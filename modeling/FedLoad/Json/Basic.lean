import FedLoad.Decimal.Double
import FedLoad.Keyed
/-!
# JSON values

A number is whole or it is a double, and the two are never equal: `1` is not `1.0`. Whole numbers
reach from `-2^63` to `2^64 - 1`. The fields of a record are kept in the order in which they were
written; the normal form of a record has each key once, with its last value, in ascending order of
code points. Values that the rest of the library works with are in normal form.
-/
namespace FedLoad

inductive Json where
  | null
  | bool (b : Bool)
  | int (n : Int)
  | float (x : Float)
  | text (s : String)
  | list (items : List Json)
  | record (fields : List (String × Json))
deriving Inhabited

namespace Json

/-! ## Normal form -/

mutual

/-- The normal form: every record sorted, at every depth. -/
def normalize : Json → Json
  | .list items => .list (normalizeList items)
  | .record fields => .record (Keyed.ofList (normalizeFields fields))
  | j => j

def normalizeList : List Json → List Json
  | [] => []
  | j :: rest => normalize j :: normalizeList rest

def normalizeFields : List (String × Json) → List (String × Json)
  | [] => []
  | (k, j) :: rest => (k, normalize j) :: normalizeFields rest

end

/-! ## Equality -/

mutual

/-- Equality of values in normal form. Doubles compare as numbers: the two zeros are equal. -/
def same : Json → Json → Bool
  | .null, .null => true
  | .bool a, .bool b => a == b
  | .int a, .int b => a == b
  | .float a, .float b => a == b
  | .text a, .text b => a == b
  | .list a, .list b => sameList a b
  | .record a, .record b => sameFields a b
  | _, _ => false

def sameList : List Json → List Json → Bool
  | [], [] => true
  | a :: as, b :: bs => same a b && sameList as bs
  | _, _ => false

def sameFields : List (String × Json) → List (String × Json) → Bool
  | [], [] => true
  | (k, a) :: as, (l, b) :: bs => k == l && same a b && sameFields as bs
  | _, _ => false

end

/-! ## Looking inside -/

/-- The value of a field of a record. -/
def field? (j : Json) (key : String) : Option Json :=
  match j with
  | .record fields => fields.lookup key
  | _ => none

def text? : Json → Option String
  | .text s => some s
  | _ => none

/-- The fields of a record, and none of any other value. -/
def fields : Json → List (String × Json)
  | .record fs => fs
  | _ => []

def keys (j : Json) : List String := j.fields.map Prod.fst

end Json

end FedLoad
