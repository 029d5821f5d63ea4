import FedLoad.Decimal.Scalar
/-!
# Pass and fail counts

A rate counts samples and, among them, the failed ones. Its two shares are defined once there is a
sample: the failed part of all samples, and what is left of one.
-/
namespace FedLoad

/-- A number of samples and how many of them failed. -/
structure Rate where
  total : Nat
  failed : Nat
deriving DecidableEq, Repr, Inhabited

namespace Rate

def zero : Rate := ⟨0, 0⟩

/-- One more sample. -/
def add (r : Rate) (passed : Bool) : Rate :=
  ⟨r.total + 1, if passed then r.failed else r.failed + 1⟩

/-- The samples that did not fail; none if more failures than samples are given. -/
def passed (r : Rate) : Nat := r.total - r.failed

/-- The failed part of all samples. -/
def failureShare (α : Type) [Scalar α] (r : Rate) : Option α :=
  if r.total = 0 then none else some (Scalar.ofNat r.failed / Scalar.ofNat r.total)

/-- What the failed part leaves of one. -/
def passShare (α : Type) [Scalar α] (r : Rate) : Option α :=
  (r.failureShare α).map fun share => Scalar.ofNat 1 - share

instance : Add Rate := ⟨fun a b => ⟨a.total + b.total, a.failed + b.failed⟩⟩

end Rate

end FedLoad
