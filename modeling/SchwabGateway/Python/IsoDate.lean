import Mathlib.Tactic.Linarith
import SchwabGateway.Python.Gregorian

set_option autoImplicit false

namespace SchwabGateway.Python

def isascii (text : String) : Bool := text.toList.all (fun c => c.toNat < 128)

namespace Date

-- date.max; date.min is 1.
def maxOrdinal : Date := 3652059

def Valid (date : Date) : Prop := 1 ≤ date ∧ date ≤ maxOrdinal

instance (date : Date) : Decidable (Valid date) := inferInstanceAs (Decidable (_ ∧ _))

def isoDigits (count : Nat) (text : List Char) : Option (Nat × List Char) :=
  let digits := text.take count
  if digits.length = count ∧ digits.all Char.isDigit = true then
    some (Nat.ofDigitChars 10 digits 0, text.drop count)
  else none

-- A text with a separator behind the year has one before the day.
def isoSeparator (separated : Bool) (text : List Char) : Option (List Char) :=
  if separated then (if text.head? = some '-' then some text.tail else none) else some text

def monthLength (year : Int) (month : Nat) : Int := ((monthLengths year)[month - 1]?).getD 0

def ofYmd (year : Int) (month : Nat) (day : Int) : Option Date :=
  if (1 ≤ year ∧ year ≤ 9999) ∧ (1 ≤ month ∧ month ≤ 12) ∧ 1 ≤ day ∧ day ≤ monthLength year month then
    some (ofCivil year month day)
  else none

-- The Monday of the week that has the first Thursday of the year.
def isoFirstMonday (year : Int) : Date :=
  let first := ofCivil year 1 1
  let monday := first - weekday first
  if 3 < weekday first then monday + 7 else monday

def isoWeeks (year : Int) : Nat :=
  let first := weekday (ofCivil year 1 1)
  if first = 3 ∨ (first = 2 ∧ isLeap year = true) then 53 else 52

def ofIsoCalendar (year : Int) (week day : Nat) : Option Date :=
  let date := isoFirstMonday year + (week - 1) * 7 + (day - 1)
  if 1 ≤ year ∧ (1 ≤ week ∧ week ≤ isoWeeks year) ∧ (1 ≤ day ∧ day ≤ 7) ∧ date ≤ maxOrdinal then some date
  else none

-- date.fromisoformat of a text of ten characters, none is its ValueError. What
-- stands behind a date without separators is not looked at.
def fromisoformat (text : String) : Option Date :=
  if isascii text then do
    let (year, rest) ← isoDigits 4 text.toList
    let separated := rest.head? = some '-'
    let rest := if separated then rest.tail else rest
    if rest.head? = some 'W' then do
      let (week, rest) ← isoDigits 2 rest.tail
      let rest ← isoSeparator separated rest
      let (day, _) ← isoDigits 1 rest
      ofIsoCalendar year week day
    else do
      let (month, rest) ← isoDigits 2 rest
      let rest ← isoSeparator separated rest
      let (day, _) ← isoDigits 2 rest
      ofYmd year month day
  else none

section Padding

variable (width number : Nat)

theorem padded_list : (padded width number).toList =
    List.replicate (width - (Nat.toDigits 10 number).length) '0' ++ Nat.toDigits 10 number := by
  have digits : toString (number : Int) = String.ofList (Nat.toDigits 10 number) := Nat.toString_eq_ofList_toDigits
  rw [padded, digits, String.toList_append, String.toList_ofList, String.toList_ofList, String.length_ofList]

theorem padded_digits : ∀ c ∈ (padded width number).toList, c.isDigit = true := by
  intro c member
  rw [padded_list, List.mem_append] at member
  cases member with
  | inl zero =>
      rw [(List.mem_replicate.mp zero).2]
      rfl
  | inr digit => exact Nat.isDigit_of_mem_toDigits (by omega) (by omega) digit

theorem padded_number : Nat.ofDigitChars 10 (padded width number).toList 0 = number := by
  rw [padded_list, Nat.ofDigitChars_append, Nat.ofDigitChars_replicate_zero, Nat.mul_zero,
    Nat.ofDigitChars_ten_toDigits]

theorem padded_length (some_ : 0 < width) (small : number < 10 ^ width) :
    (padded width number).toList.length = width := by
  have fits := (Nat.length_toDigits_le_iff (b := 10) (n := number) (by omega) some_).mpr small
  rw [padded_list, List.length_append, List.length_replicate]
  omega

theorem iso_digits_padded (rest : List Char) (some_ : 0 < width) (small : number < 10 ^ width) :
    isoDigits width ((padded width number).toList ++ rest) = some (number, rest) := by
  have length := padded_length width number some_ small
  have taken : ((padded width number).toList ++ rest).take width = (padded width number).toList :=
    List.take_left' length
  have left : ((padded width number).toList ++ rest).drop width = rest := List.drop_left' length
  rw [isoDigits, taken, left, if_pos ⟨length, List.all_eq_true.mpr (padded_digits width number)⟩,
    padded_number]

end Padding

theorem year_exists (date : Date) (low : 1 ≤ date) (years : Nat) (high : date ≤ daysBeforeYear (years + 1)) :
    ∃ year : Int, 1 ≤ year ∧ year ≤ years ∧ daysBeforeYear year < date ∧ date ≤ daysBeforeYear (year + 1) := by
  induction years with
  | zero =>
      have none : daysBeforeYear ((0 : Nat) + 1) = 0 := by decide
      rw [none] at high
      simp only [Date] at low high
      omega
  | succ count ih =>
      by_cases earlier : date ≤ daysBeforeYear (count + 1)
      · obtain ⟨year, first, last, found⟩ := ih earlier
        exact ⟨year, first, by omega, found⟩
      · refine ⟨count + 1, by omega, by omega, ?_, ?_⟩
        · exact not_le.mp earlier
        · exact_mod_cast high

theorem month_day_spec (lengths : List Int) (rest : Int) (month : Nat) (low : 0 ≤ rest) (high : rest < lengths.sum) :
    ∃ index length, lengths[index]? = some length ∧
      monthDay lengths rest month = (month + index, rest - (lengths.take index).sum + 1) ∧
      0 ≤ rest - (lengths.take index).sum ∧ rest - (lengths.take index).sum < length := by
  induction lengths generalizing rest month with
  | nil =>
      rw [List.sum_nil] at high
      omega
  | cons length later ih =>
      rw [monthDay]
      by_cases here : rest < length
      · refine ⟨0, length, rfl, ?_, ?_, ?_⟩
        · rw [if_pos here, List.take_zero, List.sum_nil, Nat.add_zero, sub_zero]
        · rwa [List.take_zero, List.sum_nil, sub_zero]
        · rwa [List.take_zero, List.sum_nil, sub_zero]
      · rw [List.sum_cons] at high
        obtain ⟨index, found, at_, value, below, above⟩ := ih (rest - length) (month + 1) (by omega) (by omega)
        refine ⟨index + 1, found, at_, ?_, ?_, ?_⟩
        · rw [if_neg here, value, List.take_succ_cons, List.sum_cons]
          exact Prod.ext (by dsimp only; omega) (by dsimp only; omega)
        · rw [List.take_succ_cons, List.sum_cons]
          omega
        · rw [List.take_succ_cons, List.sum_cons]
          omega

theorem year_length (year : Int) : (monthLengths year).sum = 365 + leapDay year := by
  rw [monthLengths, leapDay]
  by_cases leap : isLeap year = true
  · rw [if_pos leap, if_pos leap]
    rfl
  · rw [if_neg leap, if_neg leap]
    rfl

theorem month_length_bound (year : Int) : ∀ length ∈ monthLengths year, length ≤ 31 := by
  rw [monthLengths]
  by_cases leap : isLeap year = true
  · rw [if_pos leap]
    decide
  · rw [if_neg leap]
    decide

structure Civil (date : Date) (year month day : Nat) : Prop where
  same : civil date = ((year : Int), month, (day : Int))
  ofYmd : ofYmd year month day = some date
  yearBound : year ≤ 9999
  monthBound : month ≤ 12
  dayBound : day ≤ 31

theorem civil_of_valid (date : Date) (valid : Valid date) : ∃ year month day, Civil date year month day := by
  obtain ⟨number, first, last, after, before⟩ := year_exists date valid.1 9999 valid.2
  have year := year_of_day date number after before
  have next := days_before_next number
  simp only [Date] at after before next
  obtain ⟨index, length, found, value, low, high⟩ :=
    month_day_spec (monthLengths number) (date - 1 - daysBeforeYear number) 1 (by omega)
      (by rw [year_length]; simp only [Date]; omega)
  have short := month_length_bound number length (List.mem_of_getElem? found)
  have some_ : index < 12 := (List.getElem?_eq_some_iff.mp found).1
  obtain ⟨yearNumber, rfl⟩ := Int.eq_ofNat_of_zero_le (show 0 ≤ number by omega)
  obtain ⟨offset, written⟩ := Int.eq_ofNat_of_zero_le low
  rw [written] at value high
  refine ⟨yearNumber, 1 + index, offset + 1, ?_, ?_, by omega, by omega, by omega⟩
  · rw [civil, year, value]
    rfl
  · have months : daysBeforeMonth yearNumber (1 + index) = ((monthLengths yearNumber).take index).sum := by
      rw [daysBeforeMonth, Nat.add_sub_cancel_left]
    have within : ((offset + 1 : Nat) : Int) ≤ monthLength yearNumber (1 + index) := by
      rw [monthLength, Nat.add_sub_cancel_left, found, Option.getD_some]
      omega
    rw [Date.ofYmd, if_pos ⟨⟨first, last⟩, ⟨by omega, by omega⟩, by omega, within⟩, ofCivil, months]
    congr 1
    simp only [Date]
    omega

theorem isoformat_list (date : Date) (year month day : Nat) (parts : Civil date year month day) :
    (isoformat date).toList =
      (padded 4 year).toList ++ ('-' :: ((padded 2 month).toList ++ ('-' :: (padded 2 day).toList))) := by
  rw [isoformat, parts.same]
  simp only [String.toList_append, show "-".toList = ['-'] from rfl, List.append_assoc, List.cons_append,
    List.nil_append]

theorem isoformat_length (date : Date) (valid : Valid date) : (isoformat date).length = 10 := by
  obtain ⟨year, month, day, parts⟩ := civil_of_valid date valid
  have first := padded_length 4 year (by omega) (by have := parts.yearBound; omega)
  have second := padded_length 2 month (by omega) (by have := parts.monthBound; omega)
  have third := padded_length 2 day (by omega) (by have := parts.dayBound; omega)
  rw [← String.length_toList, isoformat_list date year month day parts]
  simp only [List.length_append, List.length_cons, first, second, third]

theorem isoformat_characters (date : Date) (valid : Valid date) :
    ∀ c ∈ (isoformat date).toList, c.isDigit = true ∨ c = '-' := by
  obtain ⟨year, month, day, parts⟩ := civil_of_valid date valid
  rw [isoformat_list date year month day parts]
  intro c member
  simp only [List.mem_append, List.mem_cons] at member
  rcases member with digit | dash | digit | dash | digit
  · exact .inl (padded_digits 4 year c digit)
  · exact .inr dash
  · exact .inl (padded_digits 2 month c digit)
  · exact .inr dash
  · exact .inl (padded_digits 2 day c digit)

theorem isoformat_ascii (date : Date) (valid : Valid date) : isascii (isoformat date) = true := by
  rw [isascii, List.all_eq_true]
  intro c member
  rw [decide_eq_true_eq]
  rcases isoformat_characters date valid c member with digit | dash
  · rw [Char.isDigit, Bool.and_eq_true, decide_eq_true_eq, decide_eq_true_eq] at digit
    have high : c.toNat ≤ 57 := digit.2
    omega
  · rw [dash]
    decide

theorem from_isoformat (date : Date) (valid : Valid date) : fromisoformat (isoformat date) = some date := by
  obtain ⟨year, month, day, parts⟩ := civil_of_valid date valid
  have fourDigits : year < 10 ^ 4 := by have := parts.yearBound; omega
  have twoDigits : month < 10 ^ 2 := by have := parts.monthBound; omega
  have lastDigits : day < 10 ^ 2 := by have := parts.dayBound; omega
  have third := iso_digits_padded 2 day [] (by omega) lastDigits
  rw [List.append_nil] at third
  have second := iso_digits_padded 2 month ('-' :: (padded 2 day).toList) (by omega) twoDigits
  have digit : ((padded 2 month).toList ++ '-' :: (padded 2 day).toList).head? ≠ some 'W' := by
    intro week
    cases text : (padded 2 month).toList with
    | nil =>
        rw [text] at week
        cases week
    | cons c rest =>
        rw [text] at week
        cases week
        have plain := padded_digits 2 month 'W' (by rw [text]; exact List.mem_cons_self)
        cases plain
  rw [fromisoformat, if_pos (isoformat_ascii date valid), isoformat_list date year month day parts,
    iso_digits_padded 4 year _ (by omega) fourDigits]
  simp only [Option.bind_eq_bind, Option.bind_some, List.head?_cons, List.tail_cons, decide_true, if_true,
    if_neg digit, second, isoSeparator, third]
  exact parts.ofYmd

end Date

end SchwabGateway.Python
