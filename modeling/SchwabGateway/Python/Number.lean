import Mathlib.Data.Rat.Floor
import SchwabGateway.Python.Value

set_option autoImplicit false

namespace SchwabGateway.Python

-- What float(text) and int(text) make of a string: none is their ValueError.
structure Literals where
  float : String → Option PyFloat
  int : String → Option Int

variable (literals : Literals)

def toFloat : PyValue → Except PyError PyFloat
  | .bool flag => .ok (.finite (if flag then 1 else 0))
  | .int number => floatOfInt number
  | .float number => .ok number
  | .str text =>
      match literals.float text with
      | some number => .ok number
      | none => .error .valueError
  | _ => .error .typeError

-- int(value): a float is cut towards zero.
def toInt : PyValue → Except PyError Int
  | .bool flag => .ok (if flag then 1 else 0)
  | .int number => .ok number
  | .float (.finite number) => .ok (number.num.tdiv number.den)
  | .float .nan => .error .valueError
  | .float _ => .error .overflowError
  | .str text =>
      match literals.int text with
      | some number => .ok number
      | none => .error .valueError
  | _ => .error .typeError

end SchwabGateway.Python
