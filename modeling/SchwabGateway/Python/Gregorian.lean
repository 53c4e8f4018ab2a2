import Mathlib.Tactic.Common
import SchwabGateway.Python.Time

set_option autoImplicit false

namespace SchwabGateway.Python.Date

def leapDay (year : Int) : Int := if isLeap year then 1 else 0

theorem leap_day_bounds (year : Int) : 0 ≤ leapDay year ∧ leapDay year ≤ 1 := by
  rw [leapDay]
  split
  · exact ⟨by omega, by omega⟩
  · exact ⟨by omega, by omega⟩

-- The leap day is what the four divisions of the next year count more.
theorem days_before_next (year : Int) : daysBeforeYear (year + 1) = daysBeforeYear year + 365 + leapDay year := by
  rw [leapDay, daysBeforeYear, daysBeforeYear]
  by_cases leap : isLeap year = true
  · rw [if_pos leap]
    simp only [isLeap, Bool.and_eq_true, Bool.or_eq_true, decide_eq_true_eq] at leap
    omega
  · rw [if_neg leap]
    simp only [isLeap, Bool.and_eq_true, Bool.or_eq_true, decide_eq_true_eq] at leap
    omega

theorem leap_day_count (year : Int) :
    daysBeforeYear year + leapDay year = 365 * (year - 1) + year / 4 - year / 100 + year / 400 := by
  have next := days_before_next year
  rw [daysBeforeYear] at next
  omega

theorem days_before_month (year : Int) (later : Nat) :
    daysBeforeMonth year (later + 3) =
      59 + leapDay year + (([31, 30, 31, 30, 31, 31, 30, 31, 30, 31] : List Int).take later).sum := by
  have february : (if isLeap year then (29 : Int) else 28) = 28 + leapDay year := by
    rw [leapDay]
    split
    · rfl
    · rfl
  rw [daysBeforeMonth, monthLengths, february]
  simp only [show later + 3 - 1 = later + 2 from rfl, List.take_succ_cons, List.sum_cons]
  omega

theorem days_before_cycles (q r s t : Int) (century : 0 ≤ r ∧ r ≤ 3) (olympiad : 0 ≤ s ∧ s ≤ 24)
    (single : 0 ≤ t ∧ t ≤ 3) :
    daysBeforeYear (400 * q + 100 * r + 4 * s + t + 1) = 146097 * q + 36524 * r + 1461 * s + 365 * t := by
  rw [daysBeforeYear]
  omega

theorem leap_day_cycles (q r s t : Int) (century : 0 ≤ r ∧ r ≤ 3) (olympiad : 0 ≤ s ∧ s ≤ 24)
    (single : 0 ≤ t ∧ t ≤ 3) :
    leapDay (400 * q + 100 * r + 4 * s + t + 1) = if t = 3 ∧ (s < 24 ∨ r = 3) then 1 else 0 := by
  have leap : isLeap (400 * q + 100 * r + 4 * s + t + 1) = true ↔ t = 3 ∧ (s < 24 ∨ r = 3) := by
    simp only [isLeap, Bool.and_eq_true, Bool.or_eq_true, decide_eq_true_eq]
    omega
  rw [leapDay]
  exact if_congr leap rfl rfl

theorem year_of_day (date year : Int) (after : daysBeforeYear year < date)
    (before : date ≤ daysBeforeYear (year + 1)) : Date.year date = year := by
  obtain ⟨q, r, s, t, century, olympiad, single, rfl⟩ : ∃ q r s t : Int, (0 ≤ r ∧ r ≤ 3) ∧ (0 ≤ s ∧ s ≤ 24) ∧
      (0 ≤ t ∧ t ≤ 3) ∧ year = 400 * q + 100 * r + 4 * s + t + 1 :=
    ⟨(year - 1) / 400, (year - 1) % 400 / 100, (year - 1) % 100 / 4, (year - 1) % 4, by omega, by omega, by omega,
      by omega⟩
  rw [days_before_next, leap_day_cycles q r s t century olympiad single] at before
  rw [days_before_cycles q r s t century olympiad single] at after before
  obtain ⟨offset, rfl⟩ : ∃ offset, date = 146097 * q + 36524 * r + 1461 * s + 365 * t + offset + 1 :=
    ⟨date - (146097 * q + 36524 * r + 1461 * s + 365 * t) - 1, by omega⟩
  have length : 0 ≤ offset ∧ (offset ≤ 364 ∨ offset = 365 ∧ t = 3 ∧ (s < 24 ∨ r = 3)) := by
    split at before
    · omega
    · omega
  clear after before
  have n400 : (146097 * q + 36524 * r + 1461 * s + 365 * t + offset + 1 - 1) / 146097 = q := by omega
  have rest : (146097 * q + 36524 * r + 1461 * s + 365 * t + offset + 1 - 1) % 146097 =
      36524 * r + 1461 * s + 365 * t + offset := by omega
  simp only [Date.year, n400, rest]
  clear n400 rest
  by_cases final : r = 3 ∧ s = 24 ∧ t = 3 ∧ offset = 365
  · obtain ⟨rfl, rfl, rfl, rfl⟩ := final
    simp only [Int.reduceMul, Int.reduceAdd, Int.reduceDiv, Int.reduceMod]
    rw [if_pos (.inr trivial)]
    omega
  · have n100 : (36524 * r + 1461 * s + 365 * t + offset) / 36524 = r := by omega
    have four : (36524 * r + 1461 * s + 365 * t + offset) % 36524 = 1461 * s + (365 * t + offset) := by omega
    have n4 : (1461 * s + (365 * t + offset)) / 1461 = s := by omega
    have one : (1461 * s + (365 * t + offset)) % 1461 = 365 * t + offset := by omega
    simp only [n100, four, n4, one]
    rcases length.2 with usual | ⟨rfl, rfl, _⟩
    · have n1 : (365 * t + offset) / 365 = t := by omega
      have neither : ¬ (t = 4 ∨ r = 4) := by omega
      rw [n1, if_neg neither]
      omega
    · have n1 : (365 * 3 + 365 : Int) / 365 = 4 := rfl
      rw [n1, if_pos (.inl rfl)]
      omega

end SchwabGateway.Python.Date
