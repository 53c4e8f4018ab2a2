import SchwabGateway.Python.Time

set_option autoImplicit false

namespace SchwabGateway.Upstream

open SchwabGateway.Python

def timeOfDay (hour minute : Int) : Int := (hour * 60 + minute) * 60000000

def regularSessionStart : Int := timeOfDay 9 30
def regularSessionEnd : Int := timeOfDay 16 0
def earlyCloseSessionEnd : Int := timeOfDay 13 0

namespace Calendar

def observedHoliday (date : Date) : Date :=
  if date.weekday = 5 then date - 1
  else if date.weekday = 6 then date + 1
  else date

def nthWeekday (year : Int) (month : Nat) (weekday occurrence : Int) : Date :=
  let first := Date.ofCivil year month 1
  first + ((weekday - first.weekday) % 7 + (occurrence - 1) * 7)

def lastWeekday (year : Int) (month : Nat) (weekday : Int) : Date :=
  let nextMonth := if month = 12 then Date.ofCivil (year + 1) 1 1 else Date.ofCivil year (month + 1) 1
  let last := nextMonth - 1
  last - (last.weekday - weekday) % 7

def easterSunday (year : Int) : Date :=
  let a := year % 19
  let b := year / 100
  let c := year % 100
  let d := b / 4
  let e := b % 4
  let f := (b + 8) / 25
  let g := (b - f + 1) / 3
  let h := (19 * a + b - d - g + 15) % 30
  let i := c / 4
  let k := c % 4
  let line := (32 + 2 * e + 2 * i - h - k) % 7
  let m := (a + 11 * h + 22 * line) / 451
  let month := (h + line - 7 * m + 114) / 31
  let day := (h + line - 7 * m + 114) % 31 + 1
  Date.ofCivil year month.toNat day

-- A Saturday January 1 is not observed on the Friday before it.
def newYear (year : Int) : List Date :=
  let first := Date.ofCivil year 1 1
  if first.weekday ≠ 5 then [observedHoliday first] else []

def juneteenth (year : Int) : List Date :=
  if 2022 ≤ year then [observedHoliday (Date.ofCivil year 6 19)] else []

def marketHolidays (year : Int) : List Date :=
  [ observedHoliday (Date.ofCivil year 7 4),
    observedHoliday (Date.ofCivil year 12 25),
    nthWeekday year 1 0 3,
    nthWeekday year 2 0 3,
    lastWeekday year 5 0,
    nthWeekday year 9 0 1,
    nthWeekday year 11 3 4,
    easterSunday year - 2 ] ++ newYear year ++ juneteenth year

def isTradingDay (date : Date) : Bool :=
  date.weekday < 5 && !(marketHolidays date.year).contains date

def earlyCloseSessions (year : Int) : List Date :=
  [Date.ofCivil year 7 3, nthWeekday year 11 3 4 + 1, Date.ofCivil year 12 24].filter isTradingDay

-- None on a day without a regular session.
def regularSessionEndOf (date : Date) : Option Int :=
  if !isTradingDay date then none
  else if (earlyCloseSessions date.year).contains date then some earlyCloseSessionEnd
  else some regularSessionEnd

end Calendar

end SchwabGateway.Upstream
