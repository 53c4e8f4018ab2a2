import Mathlib.Algebra.Order.Round
import Mathlib.Data.Int.Log
import Mathlib.Tactic.FieldSimp
import Mathlib.Tactic.Linarith

set_option autoImplicit false

namespace SchwabGateway.Library

variable {K : Type} [Field K] [LinearOrder K] [IsStrictOrderedRing K] [FloorRing K]

-- The nearest integer, and the even one of two that are as near.
def roundHalfEven (x : K) : Int :=
  let below := ⌊x⌋
  if x - below < 1 / 2 then below
  else if 1 / 2 < x - below then below + 1
  else if below % 2 = 0 then below
  else below + 1

omit [IsStrictOrderedRing K] in
theorem round_half_even_bounds (x : K) : ⌊x⌋ ≤ roundHalfEven x ∧ roundHalfEven x ≤ ⌊x⌋ + 1 := by
  simp only [roundHalfEven]
  split_ifs
  all_goals omega

theorem round_half_even_int (k : Int) : roundHalfEven (k : K) = k := by
  have near : (k : K) - (⌊(k : K)⌋ : Int) < 1 / 2 := by
    rw [Int.floor_intCast, sub_self]
    exact one_half_pos
  rw [roundHalfEven]
  simp only [if_pos near]
  exact Int.floor_intCast k

theorem round_half_even_mono (x y : K) (ordered : x ≤ y) : roundHalfEven x ≤ roundHalfEven y := by
  have floors := Int.floor_le_floor ordered
  rcases lt_or_eq_of_le floors with apart | same
  · have upper := (round_half_even_bounds x).2
    have lower := (round_half_even_bounds y).1
    omega
  · have rest : x - ⌊x⌋ ≤ y - ⌊x⌋ := sub_le_sub_right ordered _
    simp only [roundHalfEven, ← same]
    split_ifs with first second third fourth fifth sixth
    all_goals first
      | omega
      | exact absurd (lt_of_le_of_lt rest ‹_›) ‹_›
      | exact absurd (lt_of_lt_of_le ‹_› rest) ‹_›

-- A float format by the bits of its fraction and its least exponent: the
-- distance between neighbours near x.
def exponent (fraction : Nat) (least : Int) (x : K) : Int := max (Int.log 2 |x| - fraction) least

def quantum (fraction : Nat) (least : Int) (x : K) : K := 2 ^ exponent fraction least x

def roundTo (fraction : Nat) (least : Int) (x : K) : K :=
  roundHalfEven (x / quantum fraction least x) * quantum fraction least x

section Format

variable (fraction : Nat) (least : Int)

theorem quantum_pos (x : K) : 0 < quantum fraction least x := zpow_pos two_pos _

theorem round_to_multiple (x : K) (k : Int) (multiple : x = k * quantum fraction least x) :
    roundTo fraction least x = x := by
  have ratio : x / quantum fraction least x = k := by
    rw [div_eq_iff (quantum_pos fraction least x).ne']
    exact multiple
  rw [roundTo, ratio, round_half_even_int, ← multiple]

theorem round_to_zero : roundTo fraction least (0 : K) = 0 :=
  round_to_multiple fraction least 0 0 (by rw [Int.cast_zero, zero_mul])

theorem round_to_le (x bound : K) (k : Int) (multiple : bound = k * quantum fraction least x) (below : x ≤ bound) :
    roundTo fraction least x ≤ bound := by
  have positive := quantum_pos fraction least x
  have ratio : x / quantum fraction least x ≤ k := by
    rw [div_le_iff₀ positive, ← multiple]
    exact below
  have rounded := round_half_even_mono _ _ ratio
  rw [round_half_even_int] at rounded
  rw [roundTo, multiple]
  exact mul_le_mul_of_nonneg_right (Int.cast_le.mpr rounded) positive.le

theorem le_round_to (x bound : K) (k : Int) (multiple : bound = k * quantum fraction least x) (above : bound ≤ x) :
    bound ≤ roundTo fraction least x := by
  have positive := quantum_pos fraction least x
  have ratio : (k : K) ≤ x / quantum fraction least x := by
    rw [le_div_iff₀ positive, ← multiple]
    exact above
  have rounded := round_half_even_mono _ _ ratio
  rw [round_half_even_int] at rounded
  rw [roundTo, multiple]
  exact mul_le_mul_of_nonneg_right (Int.cast_le.mpr rounded) positive.le

theorem round_to_nonneg (x : K) (nonneg : 0 ≤ x) : 0 ≤ roundTo fraction least x :=
  le_round_to fraction least x 0 0 (by rw [Int.cast_zero, zero_mul]) nonneg

theorem round_to_nonpos (x : K) (nonpos : x ≤ 0) : roundTo fraction least x ≤ 0 :=
  round_to_le fraction least x 0 0 (by rw [Int.cast_zero, zero_mul]) nonpos

theorem power_multiple (x : K) (power : Int) (above : exponent fraction least x ≤ power) :
    ∃ k : Int, (2 : K) ^ power = k * quantum fraction least x := by
  obtain ⟨steps, same⟩ := Int.le.dest above
  refine ⟨2 ^ steps, ?_⟩
  have two : (2 : K) ≠ 0 := (zero_lt_two : (0 : K) < 2).ne'
  rw [← same, zpow_add₀ two, quantum, zpow_natCast, mul_comm]
  push_cast
  rfl

-- The power of two below y lies between the two when they are in different
-- binades, and both formats have it.
theorem round_to_mono_pos (x y : K) (positive : 0 < x) (ordered : x ≤ y) :
    roundTo fraction least x ≤ roundTo fraction least y := by
  have large := lt_of_lt_of_le positive ordered
  have logs : Int.log 2 x ≤ Int.log 2 y := Int.log_mono_right positive ordered
  have low : exponent fraction least x = max (Int.log 2 x - fraction) least := by rw [exponent, abs_of_pos positive]
  have high : exponent fraction least y = max (Int.log 2 y - fraction) least := by rw [exponent, abs_of_pos large]
  by_cases same : exponent fraction least x = exponent fraction least y
  · have equal : quantum fraction least y = quantum fraction least x := by rw [quantum, quantum, same]
    rw [roundTo, roundTo, equal]
    have step := quantum_pos fraction least x
    apply mul_le_mul_of_nonneg_right _ step.le
    exact Int.cast_le.mpr (round_half_even_mono _ _ (div_le_div_of_nonneg_right ordered step.le))
  · have apart : exponent fraction least x < exponent fraction least y ∧ Int.log 2 x < Int.log 2 y ∧
        exponent fraction least x ≤ Int.log 2 y ∧ exponent fraction least y ≤ Int.log 2 y := by
      rw [low, high] at same ⊢
      omega
    have between : x ≤ 2 ^ Int.log 2 y := by
      have next := Int.lt_zpow_succ_log_self (R := K) (b := 2) one_lt_two x
      have powers : (2 : K) ^ (Int.log 2 x + 1) ≤ 2 ^ Int.log 2 y := zpow_le_zpow_right₀ one_le_two (by omega)
      exact (lt_of_lt_of_le (by exact_mod_cast next) powers).le
    have reached : (2 : K) ^ Int.log 2 y ≤ y := by exact_mod_cast Int.zpow_log_le_self one_lt_two large
    obtain ⟨k, lower⟩ := power_multiple fraction least x _ apart.2.2.1
    obtain ⟨j, upper⟩ := power_multiple fraction least y _ apart.2.2.2
    exact le_trans (round_to_le fraction least x _ k lower between) (le_round_to fraction least y _ j upper reached)

theorem round_to_mono (x y : K) (nonneg : 0 ≤ x) (ordered : x ≤ y) :
    roundTo fraction least x ≤ roundTo fraction least y := by
  rcases lt_or_eq_of_le nonneg with positive | zero
  · exact round_to_mono_pos fraction least x y positive ordered
  · rw [← zero, round_to_zero]
    exact round_to_nonneg fraction least y (le_trans nonneg ordered)

theorem round_to_natural (n : Nat) (small : n ≤ 2 ^ (fraction + 1)) (negative : least ≤ 0) :
    roundTo fraction least (n : K) = n := by
  rcases Nat.eq_zero_or_pos n with rfl | positive
  · rw [Nat.cast_zero, round_to_zero]
  have same : exponent fraction least (n : K) = max ((Nat.log 2 n : Int) - fraction) least := by
    rw [exponent, Nat.abs_cast, Int.log_natCast]
  rcases lt_or_eq_of_le small with below | top
  · have log : Nat.log 2 n < fraction + 1 := Nat.log_lt_of_lt_pow positive.ne' below
    obtain ⟨k, unit⟩ := power_multiple fraction least (n : K) 0 (by rw [same]; omega)
    rw [zpow_zero] at unit
    apply round_to_multiple fraction least _ (n * k)
    rw [Int.cast_mul, Int.cast_natCast, mul_assoc, ← unit, mul_one]
  · have log : Nat.log 2 n = fraction + 1 := by rw [top, Nat.log_pow Nat.one_lt_two]
    obtain ⟨k, power⟩ := power_multiple fraction least (n : K) (fraction + 1) (by rw [same]; omega)
    apply round_to_multiple fraction least _ k
    rw [← power, top]
    push_cast
    exact_mod_cast rfl

end Format

end SchwabGateway.Library
