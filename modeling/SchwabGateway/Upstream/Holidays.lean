import SchwabGateway.Library.Except
import SchwabGateway.Python.Gregorian
import SchwabGateway.Upstream.Calendar

set_option autoImplicit false

namespace SchwabGateway.Upstream.Calendar

open SchwabGateway.Library
open SchwabGateway.Python

section Rules

variable (year : Int) (month : Nat) (weekday : Int)

theorem observed_holiday_spec (date : Date) :
    (0 ≤ (observedHoliday date).weekday ∧ (observedHoliday date).weekday ≤ 4) ∧
      date - 1 ≤ observedHoliday date ∧ observedHoliday date ≤ date + 1 := by
  rw [observedHoliday]
  by_cases saturday : date.weekday = 5
  · rw [if_pos saturday]
    simp only [Date.weekday, Date] at saturday ⊢
    omega
  · rw [if_neg saturday]
    by_cases sunday : date.weekday = 6
    · rw [if_pos sunday]
      simp only [Date.weekday, Date] at sunday ⊢
      omega
    · rw [if_neg sunday]
      simp only [Date.weekday, Date] at saturday sunday ⊢
      omega

theorem nth_weekday_spec (occurrence : Int) (named : 0 ≤ weekday ∧ weekday ≤ 6) :
    (nthWeekday year month weekday occurrence).weekday = weekday ∧
      Date.ofCivil year month 1 + (occurrence - 1) * 7 ≤ nthWeekday year month weekday occurrence ∧
      nthWeekday year month weekday occurrence ≤ Date.ofCivil year month 1 + (occurrence - 1) * 7 + 6 := by
  simp only [nthWeekday, Date.weekday, Date]
  omega

theorem last_weekday_spec (december : month ≠ 12) (named : 0 ≤ weekday ∧ weekday ≤ 6) :
    (lastWeekday year month weekday).weekday = weekday ∧
      Date.ofCivil year (month + 1) 1 - 7 ≤ lastWeekday year month weekday ∧
      lastWeekday year month weekday ≤ Date.ofCivil year (month + 1) 1 - 1 := by
  simp only [lastWeekday, if_neg december, Date.weekday, Date]
  omega

end Rules

section Easter

def easterMonthDay (year : Int) : Int × Int :=
  let a := year % 19
  let b := year / 100
  let c := year % 100
  let d := b / 4
  let e := b % 4
  let f := (b + 8) / 25
  let g := (b - f + 1) / 3
  let h := (19 * a + b - d - g + 15) % 30
  let i := c / 4
  let k := c % 4
  let line := (32 + 2 * e + 2 * i - h - k) % 7
  let m := (a + 11 * h + 22 * line) / 451
  ((h + line - 7 * m + 114) / 31, (h + line - 7 * m + 114) % 31 + 1)

theorem easter_sunday_of (year : Int) :
    easterSunday year = Date.ofCivil year (easterMonthDay year).1.toNat (easterMonthDay year).2 := rfl

-- The days after March 22, and how they sum up with the divisions of the year.
theorem easter_offset (year : Int) : ∃ offset : Int,
    easterMonthDay year = ((offset + 114) / 31, (offset + 114) % 31 + 1) ∧ 0 ≤ offset ∧ offset ≤ 34 ∧
      (offset - 32 - 2 * (year / 100 % 4) - 2 * (year % 100 / 4) + year % 100 % 4) % 7 = 0 := by
  simp only [easterMonthDay]
  generalize epact : (19 * (year % 19) + year / 100 - year / 100 / 4 -
    (year / 100 - (year / 100 + 8) / 25 + 1) / 3 + 15) % 30 = h
  have bounds : 0 ≤ h ∧ h ≤ 29 := by omega
  refine ⟨_, rfl, ?_, ?_, ?_⟩
  · omega
  · omega
  · omega

theorem of_civil_from (year : Int) (later : Nat) (start day : Int)
    (months : 59 + (([31, 30, 31, 30, 31, 31, 30, 31, 30, 31] : List Int).take later).sum = start) :
    Date.ofCivil year (later + 3) day = Date.daysBeforeYear year + (Date.leapDay year + start + day) := by
  rw [Date.ofCivil, Date.days_before_month, ← months]
  simp only [Date]
  omega

theorem easter_sunday_offset (year : Int) : ∃ offset : Int,
    (((easterMonthDay year).1 = 3 ∧ (easterMonthDay year).2 = 22 + offset ∧ offset ≤ 9) ∨
      ((easterMonthDay year).1 = 4 ∧ (easterMonthDay year).2 = offset - 9 ∧ 10 ≤ offset)) ∧
    0 ≤ offset ∧ offset ≤ 34 ∧
    easterSunday year = Date.daysBeforeYear year + Date.leapDay year + 81 + offset ∧
    (offset - 32 - 2 * (year / 100 % 4) - 2 * (year % 100 / 4) + year % 100 % 4) % 7 = 0 := by
  obtain ⟨offset, written, low, high, sum⟩ := easter_offset year
  refine ⟨offset, ?_, low, high, ?_, sum⟩
  · rw [written]
    dsimp only
    omega
  · rw [easter_sunday_of, written]
    dsimp only
    by_cases march : offset ≤ 9
    · have month : (offset + 114) / 31 = 3 := by omega
      rw [month, show Int.toNat 3 = 0 + 3 from rfl, of_civil_from year 0 59 _ rfl]
      simp only [Date]
      omega
    · have month : (offset + 114) / 31 = 4 := by omega
      rw [month, show Int.toNat 4 = 1 + 3 from rfl, of_civil_from year 1 90 _ rfl]
      simp only [Date]
      omega

-- The leap days that the divisions count make up for those in the offset.
theorem easter_weekday (year : Int) : (easterSunday year).weekday = 6 := by
  obtain ⟨offset, _, _, _, whole, sum⟩ := easter_sunday_offset year
  have days := Date.leap_day_count year
  rw [whole]
  obtain ⟨d, e, i, k, century, single, rfl⟩ : ∃ d e i k : Int, (0 ≤ e ∧ e ≤ 3) ∧ (0 ≤ 4 * i + k ∧ 4 * i + k ≤ 99 ∧
      0 ≤ k ∧ k ≤ 3) ∧ year = 100 * (4 * d + e) + (4 * i + k) :=
    ⟨year / 100 / 4, year / 100 % 4, year % 100 / 4, year % 100 % 4, by omega, by omega, by omega⟩
  have centuries : (100 * (4 * d + e) + (4 * i + k)) / 100 = 4 * d + e := by omega
  have rest : (100 * (4 * d + e) + (4 * i + k)) % 100 = 4 * i + k := by omega
  have leaps : (100 * (4 * d + e) + (4 * i + k)) / 4 = 100 * d + 25 * e + i := by omega
  have cycles : (100 * (4 * d + e) + (4 * i + k)) / 400 = d := by omega
  have last : (4 * d + e) % 4 = e := by omega
  have fours : (4 * i + k) / 4 = i := by omega
  have ones : (4 * i + k) % 4 = k := by omega
  rw [centuries, leaps, cycles] at days
  rw [centuries, rest, last, fours, ones] at sum
  simp only [Date.weekday, Date] at days ⊢
  omega

end Easter

section Windows

-- The days of a year, counted from its first, between which a rule puts its
-- holiday: July 4, December 25, the third Mondays of January and February, the
-- last of May, the first of September, the fourth Thursday of November, Good
-- Friday, January 1 and June 19.
def windows (leapDay : Int) : List (Int × Int) :=
  [(184 + leapDay, 186 + leapDay), (358 + leapDay, 360 + leapDay), (15, 21), (46, 52), (145 + leapDay, 151 + leapDay),
    (244 + leapDay, 250 + leapDay), (326 + leapDay, 332 + leapDay), (79 + leapDay, 113 + leapDay)] ++
  [(1, 2)] ++ [(169 + leapDay, 171 + leapDay)]

structure Within (year : Int) (day : Date) (window : Int × Int) : Prop where
  weekday : 0 ≤ day.weekday ∧ day.weekday ≤ 4
  after : Date.daysBeforeYear year + window.1 ≤ day
  before : day ≤ Date.daysBeforeYear year + window.2

def Apart (window other : Int × Int) : Prop := window.2 < other.1 ∨ other.2 < window.1

instance (window other : Int × Int) : Decidable (Apart window other) :=
  inferInstanceAs (Decidable (_ ∨ _))

theorem windows_apart (leapDay : Int) (bounds : 0 ≤ leapDay ∧ leapDay ≤ 1) : (windows leapDay).Pairwise Apart := by
  have value : leapDay = 0 ∨ leapDay = 1 := by omega
  rw [windows]
  rcases value with rfl | rfl
  · decide
  · decide

theorem windows_inside (leapDay : Int) (bounds : 0 ≤ leapDay ∧ leapDay ≤ 1) (window : Int × Int)
    (member : window ∈ windows leapDay) : 1 ≤ window.1 ∧ window.2 ≤ 360 + leapDay := by
  simp only [windows, List.cons_append, List.nil_append, List.mem_cons, List.not_mem_nil, or_false] at member
  rcases member with rfl | rfl | rfl | rfl | rfl | rfl | rfl | rfl | rfl | rfl
  all_goals constructor
  all_goals omega

variable (year : Int) (low high offset : Int)

theorem observed_within (date : Date) (written : date = Date.daysBeforeYear year + offset)
    (after : low ≤ offset - 1) (before : offset + 1 ≤ high) : Within year (observedHoliday date) (low, high) := by
  obtain ⟨week, early, late⟩ := observed_holiday_spec date
  simp only [Date] at written early late
  exact ⟨week, by dsimp only [Date]; omega, by dsimp only [Date]; omega⟩

theorem nth_weekday_within (month : Nat) (weekday occurrence : Int) (named : 0 ≤ weekday ∧ weekday ≤ 4)
    (first : Date.ofCivil year month 1 = Date.daysBeforeYear year + offset)
    (after : low ≤ offset + (occurrence - 1) * 7) (before : offset + (occurrence - 1) * 7 + 6 ≤ high) :
    Within year (nthWeekday year month weekday occurrence) (low, high) := by
  obtain ⟨same, early, late⟩ := nth_weekday_spec year month weekday occurrence ⟨named.1, by omega⟩
  simp only [Date] at first early late
  exact ⟨by rw [same]; exact named, by dsimp only [Date]; omega, by dsimp only [Date]; omega⟩

theorem last_weekday_within (month : Nat) (weekday : Int) (december : month ≠ 12)
    (named : 0 ≤ weekday ∧ weekday ≤ 4)
    (next : Date.ofCivil year (month + 1) 1 = Date.daysBeforeYear year + offset)
    (after : low ≤ offset - 7) (before : offset - 1 ≤ high) :
    Within year (lastWeekday year month weekday) (low, high) := by
  obtain ⟨same, early, late⟩ := last_weekday_spec year month weekday december ⟨named.1, by omega⟩
  simp only [Date] at next early late
  exact ⟨by rw [same]; exact named, by dsimp only [Date]; omega, by dsimp only [Date]; omega⟩

theorem good_friday_weekday : (easterSunday year - 2).weekday = 4 := by
  have sunday := easter_weekday year
  simp only [Date.weekday, Date] at sunday ⊢
  omega

theorem good_friday_within :
    Within year (easterSunday year - 2) (79 + Date.leapDay year, 113 + Date.leapDay year) := by
  obtain ⟨offset, _, low, high, whole, _⟩ := easter_sunday_offset year
  refine ⟨by rw [good_friday_weekday]; omega, ?_, ?_⟩
  · rw [whole]
    simp only [Date]
    omega
  · rw [whole]
    simp only [Date]
    omega

theorem january_first : Date.ofCivil year 1 1 = Date.daysBeforeYear year + 1 := by
  rw [Date.ofCivil, show Date.daysBeforeMonth year 1 = 0 from rfl, add_zero]

theorem february_first : Date.ofCivil year 2 1 = Date.daysBeforeYear year + 32 := by
  rw [Date.ofCivil, show Date.daysBeforeMonth year 2 = 31 from rfl]
  simp only [Date]
  omega

-- January 1 on a Sunday is observed on the Monday after it.
theorem new_year_within : ∃ used, used.Sublist [((1 : Int), (2 : Int))] ∧
    List.Forall₂ (Within year) (newYear year) used := by
  simp only [newYear]
  by_cases saturday : (Date.ofCivil year 1 1).weekday ≠ 5
  · rw [if_pos saturday]
    refine ⟨[(1, 2)], .refl _, .cons ?_ .nil⟩
    obtain ⟨week, _, late⟩ := observed_holiday_spec (Date.ofCivil year 1 1)
    have early : Date.ofCivil year 1 1 ≤ observedHoliday (Date.ofCivil year 1 1) := by
      rw [observedHoliday, if_neg saturday]
      split
      · exact Int.le_add_of_nonneg_right (by decide)
      · exact le_refl _
    rw [january_first] at early late week ⊢
    exact ⟨week, early, le_trans late (le_of_eq (add_assoc _ _ _))⟩
  · rw [if_neg saturday]
    exact ⟨[], List.nil_sublist _, .nil⟩

theorem juneteenth_within : ∃ used, used.Sublist [(169 + Date.leapDay year, 171 + Date.leapDay year)] ∧
    List.Forall₂ (Within year) (juneteenth year) used := by
  rw [juneteenth]
  by_cases observed : 2022 ≤ year
  · rw [if_pos observed]
    refine ⟨_, .refl _, .cons ?_ .nil⟩
    exact observed_within year _ _ _ _ (of_civil_from year 3 151 19 rfl) (by omega) (by omega)
  · rw [if_neg observed]
    exact ⟨[], List.nil_sublist _, .nil⟩

theorem holidays_within : ∃ used, used.Sublist (windows (Date.leapDay year)) ∧
    List.Forall₂ (Within year) (marketHolidays year) used := by
  obtain ⟨first, usedFirst, newYear⟩ := new_year_within year
  obtain ⟨second, usedSecond, juneteenth⟩ := juneteenth_within year
  have memorial : Date.ofCivil year (5 + 1) 1 = _ := of_civil_from year 3 151 1 rfl
  have fixed := List.Forall₂.cons
    (observed_within year (184 + Date.leapDay year) (186 + Date.leapDay year) _ _ (of_civil_from year 4 181 4 rfl)
      (by omega) (by omega)) <| .cons
    (observed_within year (358 + Date.leapDay year) (360 + Date.leapDay year) _ _ (of_civil_from year 9 334 25 rfl)
      (by omega) (by omega)) <| .cons
    (nth_weekday_within year 15 21 _ 1 0 3 (by omega) (january_first year) (by omega) (by omega)) <| .cons
    (nth_weekday_within year 46 52 _ 2 0 3 (by omega) (february_first year) (by omega) (by omega)) <| .cons
    (last_weekday_within year (145 + Date.leapDay year) (151 + Date.leapDay year) _ 5 0 (by decide) (by omega) memorial
      (by omega) (by omega)) <| .cons
    (nth_weekday_within year (244 + Date.leapDay year) (250 + Date.leapDay year) _ 9 0 1 (by omega)
      (of_civil_from year 6 243 1 rfl) (by omega) (by omega)) <| .cons
    (nth_weekday_within year (326 + Date.leapDay year) (332 + Date.leapDay year) _ 11 3 4 (by omega)
      (of_civil_from year 8 304 1 rfl) (by omega) (by omega)) <| .cons (good_friday_within year) .nil
  exact ⟨_, ((List.Sublist.refl _).append usedFirst).append usedSecond,
    List.rel_append (List.rel_append fixed newYear) juneteenth⟩

end Windows

section Year

variable (year : Int)

theorem within_year (day : Date) (window : Int × Int) (within : Within year day window)
    (inside : window ∈ windows (Date.leapDay year)) :
    (0 ≤ day.weekday ∧ day.weekday ≤ 4) ∧ Date.year day = year := by
  obtain ⟨after, before⟩ := windows_inside (Date.leapDay year) (Date.leap_day_bounds year) window inside
  refine ⟨within.weekday, ?_⟩
  apply Date.year_of_day
  · exact lt_of_lt_of_le (by omega) within.after
  · refine le_trans within.before ?_
    rw [Date.days_before_next]
    omega

theorem market_holidays_weekdays (day : Date) (member : day ∈ marketHolidays year) :
    (0 ≤ day.weekday ∧ day.weekday ≤ 4) ∧ Date.year day = year := by
  obtain ⟨used, sublist, each⟩ := holidays_within year
  obtain ⟨window, found, within⟩ := forall_two_partner each day member
  exact within_year year day window within (sublist.subset found)

theorem market_holidays_nodup : (marketHolidays year).Nodup := by
  obtain ⟨used, sublist, each⟩ := holidays_within year
  have apart := (windows_apart (Date.leapDay year) (Date.leap_day_bounds year)).sublist sublist
  apply forall_two_pairwise each apart
  rintro day other window another within beyond (before | before) rfl
  · exact absurd (le_trans beyond.after within.before) (by omega)
  · exact absurd (le_trans within.after beyond.before) (by omega)

theorem year_of_offset (day : Date) (offset : Int) (written : day = Date.daysBeforeYear year + offset)
    (after : 1 ≤ offset) (before : offset ≤ 365) : Date.year day = year := by
  have bounds := Date.leap_day_bounds year
  have next := Date.days_before_next year
  simp only [Date] at written next
  exact Date.year_of_day day year (by omega) (by omega)

theorem early_close_trading (day : Date) (member : day ∈ earlyCloseSessions year) :
    isTradingDay day = true ∧ Date.year day = year := by
  obtain ⟨candidate, trading⟩ := List.mem_filter.mp member
  refine ⟨trading, ?_⟩
  have bounds := Date.leap_day_bounds year
  simp only [List.mem_cons, List.not_mem_nil, or_false] at candidate
  rcases candidate with rfl | rfl | rfl
  · exact year_of_offset year _ _ (of_civil_from year 4 181 3 rfl) (by omega) (by omega)
  · have thanksgiving := nth_weekday_within year (326 + Date.leapDay year) (332 + Date.leapDay year) _ 11 3 4
      (by omega) (of_civil_from year 8 304 1 rfl) (by omega) (by omega)
    obtain ⟨_, early, late⟩ := thanksgiving
    simp only [Date] at early late
    refine year_of_offset year _ (nthWeekday year 11 3 4 + 1 - Date.daysBeforeYear year) ?_ ?_ ?_
    · exact (add_sub_cancel _ _).symm
    · dsimp only [Date]
      omega
    · dsimp only [Date]
      omega
  · exact year_of_offset year _ _ (of_civil_from year 9 334 24 rfl) (by omega) (by omega)

end Year

theorem holidays_well_formed (year : Int) :
    (∀ day ∈ marketHolidays year, (0 ≤ day.weekday ∧ day.weekday ≤ 4) ∧ Date.year day = year) ∧
    (marketHolidays year).Nodup ∧
    (easterSunday year = Date.ofCivil year (easterMonthDay year).1.toNat (easterMonthDay year).2 ∧
      ((easterMonthDay year).1 = 3 ∧ 22 ≤ (easterMonthDay year).2 ∧ (easterMonthDay year).2 ≤ 31 ∨
        (easterMonthDay year).1 = 4 ∧ 1 ≤ (easterMonthDay year).2 ∧ (easterMonthDay year).2 ≤ 25) ∧
      (easterSunday year).weekday = 6 ∧ (easterSunday year - 2).weekday = 4) ∧
    ∀ day ∈ earlyCloseSessions year, isTradingDay day = true ∧ Date.year day = year := by
  refine ⟨market_holidays_weekdays year, market_holidays_nodup year, ⟨easter_sunday_of year, ?_,
    easter_weekday year, good_friday_weekday year⟩, early_close_trading year⟩
  obtain ⟨offset, place, _, high, _⟩ := easter_sunday_offset year
  rcases place with ⟨month, day, march⟩ | ⟨month, day, april⟩
  · exact .inl ⟨month, by omega, by omega⟩
  · exact .inr ⟨month, by omega, by omega⟩

example : easterSunday 2026 - 2 = Date.ofCivil 2026 4 3 := by decide
example : earlyCloseSessions 2026 = [Date.ofCivil 2026 11 27, Date.ofCivil 2026 12 24] := by decide

end SchwabGateway.Upstream.Calendar
