import Mathlib.Data.NNRat.Defs
import Mathlib.Data.List.Infix
import SchwabGateway.Python.Value

set_option autoImplicit false

namespace SchwabGateway.Python

-- An aware datetime is its distance from the epoch in microseconds, a date is
-- its proleptic Gregorian ordinal: 1 is 0001-01-01, a Monday.
abbrev Datetime := Int

abbrev Date := Int

def epochOrdinal : Date := 719163

def microsPerDay : Int := 86400000000

def totalSeconds (micros : Int) : ℚ := roundDouble (micros / 1000000)

inductive TimeError where
  | valueError
  | osError
  | overflowError
deriving DecidableEq

-- The first second after year 9999, after the last year gmtime can name and
-- after the last one a time_t can hold.
def datetimeLimit : Int := 253402300800
def gmtimeLimit : Int := 67768036191676800
def timestampLimit : Int := 9223372036854775808

-- What fromtimestamp makes of a double that is not negative: the fraction is
-- rounded to whole microseconds.
def microsOf (seconds : ℚ) : Int :=
  ⌊seconds⌋ * 1000000 + Library.roundHalfEven (roundDouble ((seconds - ⌊seconds⌋) * 1000000))

def fromTimestamp (seconds : ℚ) : Except TimeError Datetime :=
  if microsOf seconds < datetimeLimit * 1000000 then .ok (microsOf seconds)
  else if microsOf seconds < gmtimeLimit * 1000000 then .error .valueError
  else if microsOf seconds < timestampLimit * 1000000 then .error .osError
  else .error .overflowError

def fromMillis (millis : Int) : Except TimeError Datetime := fromTimestamp (roundDouble (millis / 1000))

structure Zone where
  utcoffset : Datetime → Int

namespace Zone

variable (zone : Zone)

def wall (at_ : Datetime) : Int := at_ + zone.utcoffset at_ * 1000000

def date (at_ : Datetime) : Date := epochOrdinal + (zone.wall at_) / microsPerDay

def time (at_ : Datetime) : Int := (zone.wall at_) % microsPerDay

end Zone

namespace Date

def weekday (date : Date) : Int := (date + 6) % 7

def isLeap (year : Int) : Bool := year % 4 = 0 && (year % 100 ≠ 0 || year % 400 = 0)

def daysBeforeYear (year : Int) : Int :=
  (year - 1) * 365 + (year - 1) / 4 - (year - 1) / 100 + (year - 1) / 400

def monthLengths (year : Int) : List Int :=
  [31, if isLeap year then 29 else 28, 31, 30, 31, 30, 31, 31, 30, 31, 30, 31]

def daysBeforeMonth (year : Int) (month : Nat) : Int := ((monthLengths year).take (month - 1)).sum

def ofCivil (year : Int) (month : Nat) (day : Int) : Date :=
  daysBeforeYear year + daysBeforeMonth year month + day

def year (date : Date) : Int :=
  let n := date - 1
  let n400 := n / 146097
  let n100 := n % 146097 / 36524
  let n4 := n % 146097 % 36524 / 1461
  let n1 := n % 146097 % 36524 % 1461 / 365
  let whole := n400 * 400 + n100 * 100 + n4 * 4 + n1
  if n1 = 4 ∨ n100 = 4 then whole else whole + 1

def monthDay : List Int → Int → Nat → Nat × Int
  | [], rest, month => (month, rest + 1)
  | length :: later, rest, month =>
      if rest < length then (month, rest + 1) else monthDay later (rest - length) (month + 1)

def civil (date : Date) : Int × Nat × Int :=
  let year := Date.year date
  let (month, day) := monthDay (monthLengths year) (date - 1 - daysBeforeYear year) 1
  (year, month, day)

def padded (width : Nat) (number : Int) : String :=
  let digits := toString number
  String.ofList (List.replicate (width - digits.length) '0') ++ digits

def isoformat (date : Date) : String :=
  let (year, month, day) := civil date
  padded 4 year ++ "-" ++ padded 2 month ++ "-" ++ padded 2 day

end Date

section Fractions

variable (seconds : ℚ)

theorem fraction_micros_bounds :
    0 ≤ Library.roundHalfEven (roundDouble ((seconds - ⌊seconds⌋) * 1000000)) ∧
      Library.roundHalfEven (roundDouble ((seconds - ⌊seconds⌋) * 1000000)) ≤ 1000000 := by
  have low : 0 ≤ (seconds - ⌊seconds⌋) * 1000000 :=
    mul_nonneg (sub_nonneg.mpr (Int.floor_le seconds)) (by norm_num)
  have high : (seconds - ⌊seconds⌋) * 1000000 ≤ 1000000 := by
    have below := Int.lt_floor_add_one seconds
    linarith
  have million : roundDouble 1000000 = 1000000 := natural_double 1000000 (by norm_num)
  have least : 0 ≤ roundDouble ((seconds - ⌊seconds⌋) * 1000000) := Library.round_to_nonneg 52 (-1074) _ low
  have most : roundDouble ((seconds - ⌊seconds⌋) * 1000000) ≤ 1000000 :=
    le_of_le_of_eq (round_double_mono _ _ low high) million
  have zero := Library.round_half_even_int (K := ℚ) 0
  have top := Library.round_half_even_int (K := ℚ) 1000000
  push_cast at zero top
  exact ⟨zero ▸ Library.round_half_even_mono _ _ least, top ▸ Library.round_half_even_mono _ _ most⟩

end Fractions

theorem total_seconds_mono (short long : Int) (nonneg : 0 ≤ short) (ordered : short ≤ long) :
    totalSeconds short ≤ totalSeconds long := by
  apply round_double_mono
  · positivity
  · exact div_le_div_of_nonneg_right (Int.cast_le.mpr ordered) (by norm_num)

theorem total_seconds_nonpos (micros : Int) (nonpos : micros ≤ 0) : totalSeconds micros ≤ 0 := by
  apply Library.round_to_nonpos
  exact div_nonpos_of_nonpos_of_nonneg (Int.cast_nonpos.mpr nonpos) (by norm_num)

section Millis

-- In different seconds the fraction of the earlier one is carried at most.
theorem micros_of_mono (x y : ℚ) (ordered : x ≤ y) : microsOf x ≤ microsOf y := by
  have floors := Int.floor_le_floor ordered
  rcases lt_or_eq_of_le floors with apart | same
  · have upper := (fraction_micros_bounds x).2
    have lower := (fraction_micros_bounds y).1
    unfold microsOf
    omega
  · have rest : (x - ⌊x⌋) * 1000000 ≤ (y - ⌊x⌋) * 1000000 :=
      mul_le_mul_of_nonneg_right (sub_le_sub_right ordered _) (by norm_num)
    have low : 0 ≤ (x - ⌊x⌋) * 1000000 := mul_nonneg (sub_nonneg.mpr (Int.floor_le x)) (by norm_num)
    unfold microsOf
    rw [← same]
    exact add_le_add_right (Library.round_half_even_mono _ _ (round_double_mono _ _ low rest)) _

theorem millis_micros_mono (a b : Int) (nonneg : 0 ≤ a) (ordered : a ≤ b) :
    microsOf (roundDouble (a / 1000)) ≤ microsOf (roundDouble (b / 1000)) := by
  apply micros_of_mono
  apply round_double_mono
  · positivity
  · exact div_le_div_of_nonneg_right (Int.cast_le.mpr ordered) (by norm_num)

theorem millis_micros_lt_iff (bound limit millis : Int) (positive : 0 < limit)
    (before : microsOf (roundDouble ((limit - 1 : Int) / 1000)) < bound)
    (after : bound ≤ microsOf (roundDouble (limit / 1000))) :
    microsOf (roundDouble (millis / 1000)) < bound ↔ millis < limit := by
  constructor
  · intro early
    by_contra reached
    have later := millis_micros_mono limit millis positive.le (not_lt.mp reached)
    omega
  · intro early
    have last : microsOf (roundDouble (millis / 1000)) ≤ microsOf (roundDouble ((limit - 1 : Int) / 1000)) := by
      rcases le_or_gt 0 millis with nonneg | negative
      · exact millis_micros_mono millis (limit - 1) nonneg (by omega)
      · have below : roundDouble (millis / 1000) ≤ roundDouble ((0 : Int) / 1000) := by
          rw [Int.cast_zero, zero_div, roundDouble, roundDouble, Library.round_to_zero]
          apply Library.round_to_nonpos
          exact div_nonpos_of_nonpos_of_nonneg (Int.cast_nonpos.mpr negative.le) (by norm_num)
        exact le_trans (micros_of_mono _ _ below) (millis_micros_mono 0 (limit - 1) le_rfl (by omega))
    exact lt_of_le_of_lt last before

-- The counts from which fromtimestamp raises ValueError and OSError. The second
-- is half a neighbour's distance below the year: the quotient rounds up to it.
def datetimeMillis : Int := 253402300800000
def gmtimeMillis : Int := 67768036191676796000

theorem millis_dated_iff (millis : Int) :
    microsOf (roundDouble (millis / 1000)) < datetimeLimit * 1000000 ↔ millis < datetimeMillis :=
  millis_micros_lt_iff _ datetimeMillis millis (by decide) (by decide +kernel) (by decide +kernel)

theorem millis_named_iff (millis : Int) :
    microsOf (roundDouble (millis / 1000)) < gmtimeLimit * 1000000 ↔ millis < gmtimeMillis :=
  millis_micros_lt_iff _ gmtimeMillis millis (by decide) (by decide +kernel) (by decide +kernel)

theorem from_millis_dated (millis : Int) (dated : millis < datetimeMillis) :
    fromMillis millis = .ok (microsOf (roundDouble (millis / 1000))) :=
  if_pos ((millis_dated_iff millis).mpr dated)

theorem from_millis_named (millis : Int) (undated : ¬ millis < datetimeMillis) (named : millis < gmtimeMillis) :
    fromMillis millis = .error .valueError := by
  rw [fromMillis, fromTimestamp, if_neg (mt (millis_dated_iff millis).mp undated),
    if_pos ((millis_named_iff millis).mpr named)]

theorem from_millis_unnamed (millis : Int) (unnamed : ¬ millis < gmtimeMillis) :
    fromMillis millis = .error .osError ∨ fromMillis millis = .error .overflowError := by
  have early : datetimeMillis < gmtimeMillis := by decide
  have undated : ¬ millis < datetimeMillis := fun dated => unnamed (lt_trans dated early)
  rw [fromMillis, fromTimestamp, if_neg (mt (millis_dated_iff millis).mp undated),
    if_neg (mt (millis_named_iff millis).mp unnamed)]
  split
  · exact .inl rfl
  · exact .inr rfl

end Millis

end SchwabGateway.Python
