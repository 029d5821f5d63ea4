import FedLoad.Text.Case
import FedLoad.Text.DirectionTable
import FedLoad.Text.JoiningTable
/-!
# Direction and joining

The direction in which a character is written decides which characters may share a label with it: a
label is written from left to right or from right to left as a whole, and its two ends show which.
A joiner is invisible and may stand only where it changes how its neighbours look.
-/
namespace FedLoad.Text

/-! ## Direction -/

inductive Direction where
  | left
  | right
  | arabic
  | arabicNumber
  | europeanNumber
  | europeanSeparator
  | commonSeparator
  | europeanTerminator
  | otherNeutral
  | boundaryNeutral
  | nonspacing
deriving DecidableEq, Repr

/-- The classes that have ranges, with their ranges. -/
def directionRanges : List (Direction × List (Nat × Nat)) := [
  (.right, rightRanges),
  (.arabic, arabicRanges),
  (.arabicNumber, arabicNumberRanges),
  (.europeanNumber, europeanNumberRanges),
  (.europeanSeparator, europeanSeparatorRanges),
  (.commonSeparator, commonSeparatorRanges),
  (.europeanTerminator, europeanTerminatorRanges),
  (.otherNeutral, otherNeutralRanges),
  (.boundaryNeutral, boundaryNeutralRanges),
  (.nonspacing, nonspacingRanges)]

def directionOf (c : Char) : Direction :=
  ((directionRanges.find? fun (_, ranges) => inRanges ranges c.toNat).map Prod.fst).getD .left

/-- The classes that make a name one of mixed direction. -/
def Direction.isRightward : Direction → Bool
  | .right | .arabic | .arabicNumber => true
  | _ => false

/-- The classes that may stand in a label of either direction. -/
def Direction.isShared : Direction → Bool
  | .europeanNumber | .europeanSeparator | .commonSeparator | .europeanTerminator | .otherNeutral
  | .boundaryNeutral | .nonspacing => true
  | _ => false

/-- The class of the last character that takes up space. -/
def lastSpacing (ds : List Direction) : Option Direction :=
  (ds.reverse.dropWhile (· == .nonspacing)).head?

/-- Is a label of a name of mixed direction well formed? -/
def directionHolds (label : List Char) : Bool :=
  let ds := label.map directionOf
  match ds.head? with
  | none => true
  | some .left =>
    ds.all (fun d => d == .left || d.isShared) &&
      (lastSpacing ds == some .left || lastSpacing ds == some .europeanNumber)
  | some d =>
    (d == .right || d == .arabic) &&
      ds.all (fun d => d.isRightward || d.isShared) &&
      (match lastSpacing ds with
        | some e => e.isRightward || e == .europeanNumber
        | none => false) &&
      !(ds.contains .europeanNumber && ds.contains .arabicNumber)

/-! ## Joining -/

def joinsThrough (c : Char) : Bool := inRanges joinsThroughRanges c.toNat

/-- May a character join the one after it? -/
def joinsNext (c : Char) : Bool :=
  inRanges joinsBothRanges c.toNat || inRanges joinsLeftRanges c.toNat

/-- May a character join the one before it? -/
def joinsPrevious (c : Char) : Bool :=
  inRanges joinsBothRanges c.toNat || inRanges joinsRightRanges c.toNat

/-- Is a break in joining of use between these two parts, the first of them reversed? -/
def joinsAcross (before after : List Char) : Bool :=
  ((before.dropWhile joinsThrough).head?.map joinsNext).getD false &&
    ((after.dropWhile joinsThrough).head?.map joinsPrevious).getD false

end FedLoad.Text
