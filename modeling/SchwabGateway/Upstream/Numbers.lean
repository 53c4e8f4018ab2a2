import SchwabGateway.Python.Number
import SchwabGateway.Python.Time

set_option autoImplicit false

namespace SchwabGateway.Upstream

open SchwabGateway.Python

-- What a normalizer can raise. A pydantic ValidationError is a ValueError; it
-- is named by the field of its first complaint, in the order of the fields.
inductive Raised where
  | valueError (message : String)
  | validation (field message : String)
  | osError
  | overflowError
deriving DecidableEq

def Raised.isValueError : Raised → Bool
  | .valueError _ => true
  | .validation _ _ => true
  | .osError => false
  | .overflowError => false

-- What a read ends with: UpstreamUnavailableError, UpstreamMalformedError, or
-- an exception of a normalizer that is no ValueError.
inductive ReadError where
  | unavailable (message : String)
  | malformed (message : String)
  | escaped (error : Raised)
deriving DecidableEq

def readError (message : String) (error : Raised) : ReadError :=
  if error.isValueError then .malformed message else .escaped error

abbrev Result (α : Type) := Except Raised α

abbrev Payload := List (PyValue × PyValue)

variable (literals : Literals)

-- except (TypeError, ValueError): return None.
def optional {α : Type} : Except PyError α → Result (Option α)
  | .ok value => .ok (some value)
  | .error .overflowError => .error .overflowError
  | .error _ => .ok none

def number (payload : Payload) (name : String) : Result (Option PyFloat) :=
  match PyValue.get payload name with
  | .none => .ok none
  | value => optional (toFloat literals value)

def integer (payload : Payload) (name : String) : Result (Option Int) :=
  match PyValue.get payload name with
  | .none => .ok none
  | value => optional (toInt literals value)

-- The timestamp of a positive count of milliseconds, where the code lets the
-- error of fromtimestamp out.
def timestamp (millis : Int) : Result Datetime :=
  match fromMillis millis with
  | .ok at_ => .ok at_
  | .error .valueError => .error (.valueError "year is out of range")
  | .error .osError => .error .osError
  | .error .overflowError => .error .overflowError

end SchwabGateway.Upstream
