import Mathlib.Data.Rat.Defs
import Mathlib.Algebra.Order.Ring.Rat

set_option autoImplicit false

namespace SchwabGateway.Python

-- Finite doubles are exact rationals beside the three special values. Nothing
-- is rounded here: what arithmetic rounds is a matter of Double.
inductive PyFloat where
  | finite (value : ℚ)
  | infinity
  | negInfinity
  | nan
deriving DecidableEq

namespace PyFloat

def isfinite : PyFloat → Bool
  | .finite _ => true
  | _ => false

def lt : PyFloat → PyFloat → Bool
  | .finite a, .finite b => a < b
  | .finite _, .infinity => true
  | .negInfinity, .finite _ => true
  | .negInfinity, .infinity => true
  | _, _ => false

def le : PyFloat → PyFloat → Bool
  | .nan, _ => false
  | _, .nan => false
  | a, b => !(lt b a)

end PyFloat

end SchwabGateway.Python
