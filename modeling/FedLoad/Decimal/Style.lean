import FedLoad.Decimal.Shortest
/-!
# Written forms of a double

A style says how the shortest digits of a double are laid out: which magnitudes are written with
the point in place and which with an exponent, whether a whole number keeps `.0`, whether a
positive exponent carries its sign, and which way a tie between two shortest candidates goes. The
number of places of `fixed` is given instead, and its digits come from the exact binary value, a
half going to the even neighbour.
-/
namespace FedLoad.Decimal

open Double (Ratio)

/-- How the shortest digits of a double are laid out. -/
structure Style where
  /-- The exponents of the leading digit that are written with the point in place. -/
  positional : Int → Bool
  /-- Does a whole number in place keep `.0`? -/
  keepsPoint : Bool
  /-- Does a positive exponent carry a plus sign? -/
  plusExponent : Bool
  tie : Tie

/-- Amounts: never an exponent, whole numbers without a point. -/
def Style.amount : Style := ⟨fun _ => true, false, false, .up⟩

/-- Settings in a summary: whole numbers keep `.0`, exponents below -4 and above 15 show. -/
def Style.setting : Style := ⟨fun x => -4 ≤ x && x ≤ 15, true, false, .up⟩

/-- Numbers in a JSON text: always a fraction or an exponent, in place from `1e-5` to `1e16`. -/
def Style.data : Style := ⟨fun x => -5 ≤ x && x ≤ 15, true, true, .even⟩

/-- Digits with the point after the first `whole` of them, which may be none or too many. -/
def placePoint (ds : List Char) (whole : Int) (keepsPoint : Bool) : List Char :=
  if whole ≤ 0 then '0' :: '.' :: (List.replicate (-whole).toNat '0' ++ ds)
  else
    let n := whole.toNat
    if ds.length ≤ n then
      ds ++ List.replicate (n - ds.length) '0' ++ (if keepsPoint then ['.', '0'] else [])
    else ds.take n ++ '.' :: ds.drop n

/-- Digits with the point after the first, and the exponent of that first digit. -/
def placeExponent (ds : List Char) (x : Int) (plus : Bool) : List Char :=
  let head := match ds with
    | d :: e :: rest => d :: '.' :: e :: rest
    | _ => ds
  let sign := if x < 0 then ['-'] else if plus then ['+'] else []
  head ++ 'e' :: sign ++ digits x.natAbs

def dropTrailingZeros (ds : List Char) : List Char := (ds.reverse.dropWhile (· = '0')).reverse

/-- The written form of a positive decimal. -/
def Scientific.write (style : Style) (s : Scientific) : List Char :=
  let all := digits s.coefficient
  let ds := dropTrailingZeros all
  let x := s.exponent + all.length - 1
  if style.positional x then placePoint ds (x + 1) style.keepsPoint
  else placeExponent ds x style.plusExponent

def signed (negative : Bool) (s : List Char) : List Char := if negative then '-' :: s else s

/-- The written form of a double in a style. -/
def write (style : Style) (x : Float) : String :=
  match Double.ofFloat x with
  | .nan => "NaN"
  | .infinite negative => String.ofList (signed negative ['i', 'n', 'f'])
  | .finite negative m e =>
    let text := if m = 0 then (if style.keepsPoint then ['0', '.', '0'] else ['0'])
      else (shortest style.tie m e).write style
    String.ofList (signed negative text)

/-- A whole number of units of `10^-places`, written with all its places. -/
def withPlaces (places n : Nat) : List Char :=
  if places = 0 then digits n
  else
    let ds := digits n
    let padded := List.replicate (places + 1 - ds.length) '0' ++ ds
    padded.take (padded.length - places) ++ '.' :: padded.drop (padded.length - places)

/-- The written form of a double with a fixed number of places. -/
def fixed (places : Nat) (x : Float) : String :=
  match Double.ofFloat x with
  | .nan => "NaN"
  | .infinite negative => String.ofList (signed negative ['i', 'n', 'f'])
  | .finite negative m e =>
    let units := ((Ratio.ofScaled m e).shift places).roundHalfEven
    String.ofList (signed negative (withPlaces places units))

end FedLoad.Decimal
