import Mathlib.Data.Nat.Basic

set_option autoImplicit false

namespace SchwabGateway

inductive PriorityClass where
  | «protected»
  | background
deriving DecidableEq, Repr

def maxCapacityPerClass : Nat := 256

-- Only a policy that passed __post_init__ exists, so the bounds are fields.
structure AdmissionPolicy where
  protectedCapacity : Nat
  backgroundCapacity : Nat
  protectedBounds : 1 ≤ protectedCapacity ∧ protectedCapacity ≤ maxCapacityPerClass
  backgroundBounds : 1 ≤ backgroundCapacity ∧ backgroundCapacity ≤ maxCapacityPerClass

def AdmissionPolicy.limits (policy : AdmissionPolicy) : PriorityClass → Nat
  | .protected => policy.protectedCapacity
  | .background => policy.backgroundCapacity

end SchwabGateway
