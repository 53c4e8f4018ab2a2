import Mathlib.Data.Rat.Floor
import SchwabGateway.Library.Rounding
import SchwabGateway.Python.Float

set_option autoImplicit false

namespace SchwabGateway.Python

-- The double nearest to a rational, by the format of IEEE 754 without its
-- largest exponent.
def roundDouble (value : ℚ) : ℚ := Library.roundTo 52 (-1074) value

def IsDouble (value : ℚ) : Prop := roundDouble value = value

instance (value : ℚ) : Decidable (IsDouble value) := inferInstanceAs (Decidable (_ = _))

namespace PyFloat

def ofRat (value : ℚ) : PyFloat :=
  if 2 ^ 1024 ≤ roundDouble value then .infinity
  else if roundDouble value ≤ -(2 ^ 1024) then .negInfinity
  else .finite (roundDouble value)

def add : PyFloat → PyFloat → PyFloat
  | .finite a, .finite b => ofRat (a + b)
  | .finite _, other => other
  | number, .finite _ => number
  | .infinity, .infinity => .infinity
  | .negInfinity, .negInfinity => .negInfinity
  | _, _ => .nan

def sign : PyFloat → Int
  | .finite value => if 0 < value then 1 else if value < 0 then -1 else 0
  | .infinity => 1
  | .negInfinity => -1
  | .nan => 0

-- An infinity times a zero is NaN.
def mul : PyFloat → PyFloat → PyFloat
  | .finite a, .finite b => ofRat (a * b)
  | a, b =>
      if a.sign * b.sign = 1 then .infinity
      else if a.sign * b.sign = -1 then .negInfinity
      else .nan

end PyFloat

section Doubles

theorem round_double_mono (x y : ℚ) (nonneg : 0 ≤ x) (ordered : x ≤ y) : roundDouble x ≤ roundDouble y :=
  Library.round_to_mono 52 (-1074) x y nonneg ordered

theorem natural_double (n : Nat) (small : n ≤ 2 ^ 53) : IsDouble n :=
  Library.round_to_natural 52 (-1074) n small (by decide)

theorem of_rat_bounded (value : ℚ) (nonneg : 0 ≤ value) (small : roundDouble value ≤ 2 ^ 53) :
    PyFloat.ofRat value = .finite (roundDouble value) := by
  have low : 0 ≤ roundDouble value := Library.round_to_nonneg 52 (-1074) value nonneg
  have power : (2 : ℚ) ^ 53 < 2 ^ 1024 := pow_lt_pow_right₀ one_lt_two (by decide)
  have below : ¬ (2 : ℚ) ^ 1024 ≤ roundDouble value := not_le.mpr (lt_of_le_of_lt small power)
  have above : ¬ roundDouble value ≤ -(2 ^ 1024) := by
    rw [not_le]
    exact lt_of_lt_of_le (neg_lt_zero.mpr (pow_pos two_pos _)) low
  rw [PyFloat.ofRat, if_neg below, if_neg above]

-- Counts are added exactly as long as the sum is one of the doubles.
theorem add_naturals (a b : Nat) (small : a + b ≤ 2 ^ 53) :
    PyFloat.add (.finite a) (.finite b) = .finite ((a + b : Nat) : ℚ) := by
  have exact_ := natural_double (a + b) small
  rw [Nat.cast_add] at exact_ ⊢
  have sum : PyFloat.ofRat ((a : ℚ) + b) = .finite (roundDouble (a + b)) := by
    apply of_rat_bounded _ (by positivity)
    rw [exact_]
    exact_mod_cast small
  rw [PyFloat.add, sum, exact_]

end Doubles

end SchwabGateway.Python
