import SchwabGateway.Python.Double

set_option autoImplicit false

namespace SchwabGateway.Python

-- The values json.load builds, and one constructor for everything else.
inductive PyValue where
  | none
  | bool (value : Bool)
  | int (value : Int)
  | float (value : PyFloat)
  | str (value : String)
  | list (items : List PyValue)
  | dict (entries : List (PyValue × PyValue))
  | object

inductive PyError where
  | typeError
  | valueError
  | overflowError
deriving DecidableEq

namespace PyValue

def get : List (PyValue × PyValue) → String → PyValue
  | [], _ => .none
  | (.str key, value) :: rest, name => if key = name then value else get rest name
  | _ :: rest, name => get rest name

end PyValue

-- From here on an int has no double: it would round to 2 ^ 1024.
@[irreducible] def floatLimit : Nat := 2 ^ 1024 - 2 ^ 970

def floatOfInt (value : Int) : Except PyError PyFloat :=
  if value.natAbs < floatLimit then .ok (.finite (roundDouble value)) else .error .overflowError

end SchwabGateway.Python
