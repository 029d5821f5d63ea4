import FedLoad.Decimal.Reader
import FedLoad.Json.Basic
import FedLoad.Yaml.Node
/-!
# Values of nodes

What a scalar means depends on what is wanted. Where a text is wanted any scalar is one; where a
number or a flag is wanted it is read as such if it is plain. Where nothing particular is wanted a
plain scalar is null, a flag, a number or a text, whichever fits first, and any other scalar is a
text; a standard tag says what it must be, and a tag of another kind has no meaning.

An empty plain scalar stands for an empty list and an empty record too.
-/
namespace FedLoad.Yaml

open Text Decimal

/-! ## Words and numbers -/

def isNullWord (s : String) : Bool := ["null", "Null", "NULL", "~"].contains s

def flagWord? (s : String) : Option Bool :=
  if ["true", "True", "TRUE"].contains s then some true
  else if ["false", "False", "FALSE"].contains s then some false
  else none

/-- The value of digits in a base. -/
def inBase? (base : Nat) (s : List Char) : Option Nat :=
  if s.isEmpty then none
  else s.foldlM (fun n c => (hexDigit? c).bind fun d =>
    if d < base then some (n * base + d) else none) 0

/-- A whole number without a sign; a decimal one begins with a zero only if it is zero. -/
def unsigned? : List Char → Option Nat
  | '0' :: 'x' :: rest => inBase? 16 rest
  | '0' :: 'o' :: rest => inBase? 8 rest
  | '0' :: 'b' :: rest => inBase? 2 rest
  | '0' :: _ :: _ => none
  | s => inBase? 10 s

/-- A whole number that may have a plus sign. -/
def natural? : List Char → Option Nat
  | '+' :: rest => unsigned? rest
  | s => unsigned? s

/-- A whole number that may have a sign. -/
def whole? : List Char → Option Int
  | '-' :: rest => (unsigned? rest).map fun n => -(n : Int)
  | s => (natural? s).map Int.ofNat

/-- A number with a fraction or an exponent, or one of the words for what is not finite. -/
def decimal? (s : List Char) : Option Float :=
  let positive := match s with
    | '+' :: rest => rest
    | _ => s
  if s.head? = some '+' && (takeSign positive).2 != positive then none
  else if [".inf", ".Inf", ".INF"].contains (String.ofList positive) then some (1.0 / 0.0)
  else if ["-.inf", "-.Inf", "-.INF"].contains (String.ofList s) then some (-(1.0 / 0.0))
  else if [".nan", ".NaN", ".NAN"].contains (String.ofList s) then some (0.0 / 0.0)
  else
    match readChars positive with
    | .ok x => if isFinite x then some x else none
    | .error _ => none

/-- Digits after a zero, which make no number. -/
def isZeroPadded (s : List Char) : Bool :=
  match (takeSign s).2 with
  | '0' :: c :: rest => (c :: rest).all isDigit
  | _ => false

/-! ## Values of any kind -/

inductive Value where
  | null
  | flag (b : Bool)
  | whole (n : Int)
  | decimal (x : Float)
  | text (s : String)
  | list (items : List Value)
  | record (pairs : List (Value × Value))

namespace Value

/-- Does a whole number fit in sixty-four bits, with or without a sign? -/
def isWord (n : Int) : Bool := -(Nat.pow 2 63 : Nat) ≤ n && n < (Nat.pow 2 64 : Nat)

/-- Does it fit in twice as many? -/
def isDoubleWord (n : Int) : Bool := -(Nat.pow 2 127 : Nat) ≤ n && n < (Nat.pow 2 128 : Nat)

/-- A whole number, if it is one: too large a one has no value, and a far larger one is none. -/
def ofWhole? (s : List Char) : Option (Option Value) :=
  match whole? s with
  | none => none
  | some n =>
    if isWord n then some (some (.whole n)) else if isDoubleWord n then some none else none

/-- The value of a plain scalar without a tag. -/
def ofPlain? (s : String) : Option Value :=
  if s.isEmpty || isNullWord s then some .null
  else
    match flagWord? s, ofWhole? s.toList with
    | some b, _ => some (.flag b)
    | none, some value => value
    | none, none =>
      match if isZeroPadded s.toList then none else decimal? s.toList with
      | some x => some (.decimal x)
      | none => some (.text s)

end Value

def standardTag (name : String) : String := "tag:yaml.org,2002:" ++ name

namespace Node

/-- Has this tag a meaning only where it stands? -/
def isLocal (tag : String) : Bool := tag.startsWith "!"

/-- The value of a scalar. -/
def scalarValue? (tag : Option String) (style : Style) (s : String) : Option Value :=
  match tag with
  | none => if style = .plain then Value.ofPlain? s else some (.text s)
  | some tag =>
    if isLocal tag then none
    else if tag == standardTag "bool" then (flagWord? s).map .flag
    else if tag == standardTag "int" then (Value.ofWhole? s.toList).join
    else if tag == standardTag "float" then (decimal? s.toList).map .decimal
    else if tag == standardTag "null" then if isNullWord s then some .null else none
    else some (.text s)

/-- How much a value may hold: how deep it may be nested, and how often a named node may stand again
in it. -/
structure Room where
  depth : Nat
  repeats : Nat

mutual

/-- The value of a node that has this room, and how often a named node may still stand again
after it. -/
def valueIn? : Node → Room → Option (Value × Nat)
  | .scalar tag style s, room => (scalarValue? tag style s).map fun v => (v, room.repeats)
  | .sequence items, ⟨depth + 1, repeats⟩ =>
    (valuesIn? items ⟨depth, repeats⟩).map fun (vs, left) => (.list vs, left)
  | .mapping pairs, ⟨depth + 1, repeats⟩ =>
    (pairsIn? pairs ⟨depth, repeats⟩).map fun (vs, left) => (.record vs, left)
  | .repeated n, ⟨depth, repeats + 1⟩ => valueIn? n ⟨depth, repeats⟩
  | .tagged tag n, room => if isLocal tag then none else valueIn? n room
  | _, _ => none

def valuesIn? : List Node → Room → Option (List Value × Nat)
  | [], room => some ([], room.repeats)
  | n :: rest, ⟨depth, repeats⟩ => do
    let (v, repeats) ← valueIn? n ⟨depth, repeats⟩
    let (vs, repeats) ← valuesIn? rest ⟨depth, repeats⟩
    pure (v :: vs, repeats)

def pairsIn? : List (Node × Node) → Room → Option (List (Value × Value) × Nat)
  | [], room => some ([], room.repeats)
  | (k, n) :: rest, ⟨depth, repeats⟩ => do
    let (key, repeats) ← valueIn? k ⟨depth, repeats⟩
    let (v, repeats) ← valueIn? n ⟨depth, repeats⟩
    let (vs, repeats) ← pairsIn? rest ⟨depth, repeats⟩
    pure ((key, v) :: vs, repeats)

end

/-- How many marks it takes to write a node: one for a scalar or a name, and two around the nodes of
a sequence or a mapping. -/
def marks : Node → Nat
  | .sequence items => marksOf items + 2
  | .mapping pairs => marksOfPairs pairs + 2
  | .tagged _ n => marks n
  | _ => 1
where
  marksOf : List Node → Nat
    | [] => 0
    | n :: rest => marks n + marksOf rest
  marksOfPairs : List (Node × Node) → Nat
    | [] => 0
    | (k, v) :: rest => marks k + marks v + marksOfPairs rest

/-- The room of the node of a whole text. -/
def room (n : Node) : Room := ⟨128, 100 * n.marks⟩

/-- The room of what lies inside `around` sequences and mappings. -/
def Room.inside (room : Room) (around : Nat) : Room := { room with depth := room.depth - around }

/-- The value of a node that has this room. -/
def value? (room : Room) (n : Node) : Option Value := (n.valueIn? room).map Prod.fst

/-- The value of a node that is a scalar. -/
def single? : Node → Option Value
  | .scalar tag style s => scalarValue? tag style s
  | .repeated n => single? n
  | _ => none

end Node

namespace Value

mutual

/-- The value as JSON data, if all of its keys are texts. What is not finite is null. -/
def json? : Value → Option Json
  | .null => some .null
  | .flag b => some (.bool b)
  | .whole n => some (.int n)
  | .decimal x => some (if isFinite x then .float x else .null)
  | .text s => some (.text s)
  | .list items => (jsons? items).map .list
  | .record pairs => (fields? pairs).map fun fs => .record (Keyed.ofList fs)

def jsons? : List Value → Option (List Json)
  | [] => some []
  | v :: rest => do
    let j ← json? v
    let js ← jsons? rest
    pure (j :: js)

def fields? : List (Value × Value) → Option (List (String × Json))
  | [] => some []
  | (.text key, v) :: rest => do
    let j ← json? v
    let fs ← fields? rest
    pure ((key, j) :: fs)
  | _ => none

end

end Value

/-! ## Wanted values -/

namespace Node

/-- Any scalar is a text. -/
def text? : Node → Option String
  | .scalar _ _ s => some s
  | .repeated n => text? n
  | _ => none

/-- The text of a scalar that may be read as a number or a flag with this standard tag. -/
def literalOf? (name : String) : Node → Option String
  | .scalar _ .plain s => some s
  | .scalar (some tag) .literal s => if tag == standardTag name then some s else none
  | .repeated n => literalOf? name n
  | _ => none

def flag? (n : Node) : Option Bool := (n.literalOf? "bool").bind flagWord?

/-- A whole number of at most sixty-four bits. -/
def natural? (n : Node) : Option Nat :=
  ((n.literalOf? "int").bind fun s => Yaml.natural? s.toList).filter (· < Nat.pow 2 64)

def decimal? (n : Node) : Option Float :=
  (n.literalOf? "float").bind fun s => Yaml.decimal? s.toList

/-- The items of a list. -/
def items? : Node → Option (List Node)
  | .sequence items => some items
  | .scalar _ .plain s => if s.isEmpty then some [] else none
  | .repeated n | .tagged _ n => items? n
  | _ => none

/-- The pairs of a record, of which every key must be a scalar. -/
def fields? : Node → Option (List (String × Node))
  | .mapping pairs => pairs.mapM fun (k, v) => k.text?.map fun key => (key, v)
  | .scalar _ .plain s => if s.isEmpty then some [] else none
  | .repeated n | .tagged _ n => fields? n
  | _ => none

/-- Does this node stand for nothing, where a value may be left out? -/
def isAbsent? : Node → Option Bool
  | .scalar tag .plain s =>
    match tag with
    | none => some (s.isEmpty || isNullWord s)
    | some tag =>
      if tag == standardTag "null" then if isNullWord s then some true else none else some false
  | .repeated n => isAbsent? n
  | _ => some false

/-- A value that may be left out. -/
def optional? {α : Type} (read : Node → Option α) (n : Node) : Option (Option α) :=
  match n.isAbsent? with
  | none => none
  | some true => some none
  | some false => (read n).map some

end Node

/-! ## Fields of a record -/

/-- The named fields of a record, each at most once; other fields do not count. -/
def named? {α : Type} (names : List String) (fields : List (String × α)) :
    Option (List (String × α)) :=
  let known := fields.filter fun (key, _) => names.contains key
  if (known.map Prod.fst).eraseDups.length == known.length then some known else none

end FedLoad.Yaml
