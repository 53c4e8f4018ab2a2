import Mathlib.Order.Bounds.Basic
import SchwabGateway.Upstream.History

set_option autoImplicit false

namespace SchwabGateway.Upstream

open SchwabGateway.Python

-- datetime.min, and the first microsecond after datetime.max.
def datetimeMin : Int := (1 - epochOrdinal) * microsPerDay

def datetimeEnd : Int := datetimeLimit * 1000000

-- An aware datetime as it is written: what its own clock reads, and by how
-- many microseconds that clock is ahead of UTC.
structure AwareDatetime where
  reading : Int
  utcoffset : Int
  written : datetimeMin ≤ reading ∧ reading < datetimeEnd
  withinDay : -microsPerDay < utcoffset ∧ utcoffset < microsPerDay

namespace AwareDatetime

def instant (at_ : AwareDatetime) : Datetime := at_.reading - at_.utcoffset

-- (self - self.utcoffset()), then fromutc: either can leave the datetimes.
def astimezone (at_ : AwareDatetime) (zone : Zone) : Result Datetime :=
  if at_.instant < datetimeMin ∨ datetimeEnd ≤ at_.instant then .error .overflowError
  else if zone.wall at_.instant < datetimeMin ∨ datetimeEnd ≤ zone.wall at_.instant then .error .overflowError
  else .ok at_.instant

end AwareDatetime

namespace Calendar

def latestCompletedSessionAt (eastern : Zone) (at_ : AwareDatetime) : Result Date := do
  let eastern_ ← at_.astimezone eastern
  latestCompletedSession eastern eastern_

def dayStart (day : Int) : Int := (day - epochOrdinal) * microsPerDay

def noon : Int := timeOfDay 12 0

-- What the time zone database says of New York: four to five hours behind UTC,
-- and no clock is changed between noon and midnight. The afternoon of the day
-- standard time came in begins at the second of its two noons.
structure EasternTime (zone : Zone) : Prop where
  bounds : ∀ instant, -18000 ≤ zone.utcoffset instant ∧ zone.utcoffset instant ≤ -14400
  afternoons : ∀ day, ∃ offset, ∀ instant : Int,
    dayStart day + noon ≤ instant + offset * 1000000 → instant + offset * 1000000 < dayStart (day + 1) →
      zone.utcoffset instant = offset

def closeOf (day : Date) : Int :=
  if (earlyCloseSessions day.year).contains day then timeOfDay 13 0 else timeOfDay 16 0

def closedSessions (eastern : Zone) (instant : Datetime) : Set Int :=
  {day | isTradingDay day = true ∧ ∃ close : Int, eastern.wall close = dayStart day + closeOf day ∧ close ≤ instant}

theorem close_of_bounds (day : Date) : noon + 3600000000 ≤ closeOf day ∧ closeOf day ≤ noon + 14400000000 := by
  unfold closeOf
  by_cases early : (earlyCloseSessions day.year).contains day = true
  · rw [if_pos early]
    decide
  · rw [if_neg early]
    decide

theorem regular_session_end_of (day : Date) :
    regularSessionEndOf day = if isTradingDay day then some (closeOf day) else none := by
  cases trading : isTradingDay day with
  | false => simp [regularSessionEndOf, trading]
  | true =>
      rw [regularSessionEndOf, trading, closeOf]
      by_cases early : (earlyCloseSessions day.year).contains day = true
      · rw [if_pos early, if_pos early]
        rfl
      · rw [if_neg early, if_neg early]
        rfl

theorem last_trading_day_greatest (ordinal : Nat) (day : Int) (found : lastTradingDay ordinal = .ok day) :
    IsGreatest {other : Int | isTradingDay other = true ∧ other ≤ ordinal} day := by
  induction ordinal with
  | zero => cases found
  | succ before ih =>
      rw [lastTradingDay] at found
      by_cases trading : isTradingDay (before + 1 : Nat) = true
      · rw [if_pos trading] at found
        cases found
        exact ⟨⟨trading, le_refl _⟩, fun other member => member.2⟩
      · rw [if_neg trading] at found
        obtain ⟨⟨open_, below⟩, greatest⟩ := ih found
        refine ⟨⟨open_, by omega⟩, ?_⟩
        rintro other ⟨otherOpen, otherBelow⟩
        have different : other ≠ (before + 1 : Nat) := by
          rintro rfl
          exact trading otherOpen
        exact greatest ⟨otherOpen, by omega⟩

section Closing

variable (eastern : Zone) (law : EasternTime eastern)

theorem wall_of_date (instant : Int) :
    eastern.wall instant = dayStart (eastern.date instant) + eastern.time instant := by
  have split := Int.mul_ediv_add_emod (eastern.wall instant) microsPerDay
  rw [dayStart, Zone.date, Zone.time, add_sub_cancel_left, mul_comm]
  exact split.symm

theorem time_bounds (instant : Int) : 0 ≤ eastern.time instant ∧ eastern.time instant < microsPerDay :=
  ⟨Int.emod_nonneg _ (by decide), Int.emod_lt_of_pos _ (by decide)⟩

theorem candidate_reaches (instant : Int) (day : Int) (trading : isTradingDay day = true) :
    dayStart day + closeOf day ≤ eastern.wall instant ↔ day ≤ latestCandidate eastern instant := by
  have bounds := time_bounds eastern instant
  have close := close_of_bounds day
  rw [show noon = 43200000000 from rfl] at close
  rw [show microsPerDay = 86400000000 from rfl] at bounds
  rw [wall_of_date eastern, latestCandidate, regular_session_end_of]
  simp only [dayStart, show microsPerDay = 86400000000 from rfl]
  generalize todayEq : eastern.date instant = today
  generalize eastern.time instant = time at bounds
  change Int at today
  by_cases same : day = today
  · rw [← same, trading, if_pos rfl]
    by_cases before : time < closeOf day
    · simp only [if_pos before]
      omega
    · simp only [if_neg before]
      omega
  · have passed : (day - epochOrdinal) * 86400000000 + closeOf day ≤
        (today - epochOrdinal) * 86400000000 + time ↔ day ≤ today - 1 := by omega
    have either : day ≤ today ↔ day ≤ today - 1 := by omega
    rw [passed]
    cases isTradingDay today with
    | false => exact Iff.rfl
    | true =>
        simp only [if_true]
        by_cases before : time < closeOf today
        · rw [if_pos before]
        · rw [if_neg before]
          exact either.symm

theorem closed_sessions_mono (first second : Int) (le : first ≤ second) :
    closedSessions eastern first ⊆ closedSessions eastern second := by
  rintro day ⟨trading, close, read, past⟩
  exact ⟨trading, close, read, past.trans le⟩

include law

-- The wall clock of New York reaches an afternoon reading once and stays past it.
theorem reading_reached (day reading : Int) (afternoon : noon + 3600000000 ≤ reading)
    (evening : reading ≤ noon + 14400000000) :
    ∃ close : Int, eastern.wall close = dayStart day + reading ∧
      ∀ instant : Int, dayStart day + reading ≤ eastern.wall instant ↔ close ≤ instant := by
  obtain ⟨offset, constant⟩ := law.afternoons day
  have next : dayStart (day + 1) = dayStart day + 86400000000 := by
    unfold dayStart microsPerDay
    ring
  rw [next, show noon = 43200000000 from rfl] at constant
  rw [show noon = 43200000000 from rfl] at afternoon evening
  have held := constant (dayStart day + reading - offset * 1000000) (by omega) (by omega)
  have offsetBounds := law.bounds (dayStart day + reading - offset * 1000000)
  rw [held] at offsetBounds
  refine ⟨dayStart day + reading - offset * 1000000, by rw [Zone.wall, held]; ring, ?_⟩
  intro instant
  have bounds := law.bounds instant
  have same := constant instant
  rw [Zone.wall]
  by_cases within : dayStart day + 43200000000 ≤ instant + offset * 1000000 ∧
      instant + offset * 1000000 < dayStart day + 86400000000
  · rw [same within.1 within.2]
    constructor <;> intro _ <;> omega
  · constructor <;> intro _ <;> omega

theorem closed_sessions_iff (instant day : Int) :
    day ∈ closedSessions eastern instant ↔
      isTradingDay day = true ∧ dayStart day + closeOf day ≤ eastern.wall instant := by
  obtain ⟨afternoon, evening⟩ := close_of_bounds day
  obtain ⟨close, read, reached⟩ := reading_reached eastern law day (closeOf day) afternoon evening
  constructor
  · rintro ⟨trading, other, otherRead, past⟩
    have later := (reached other).mp otherRead.ge
    exact ⟨trading, (reached instant).mpr (later.trans past)⟩
  · rintro ⟨trading, past⟩
    exact ⟨trading, close, read, (reached instant).mp past⟩

theorem closed_sessions_candidate (instant : Int) :
    closedSessions eastern instant =
      {day : Int | isTradingDay day = true ∧ day ≤ latestCandidate eastern instant} := by
  ext day
  rw [closed_sessions_iff eastern law]
  exact and_congr_right (candidate_reaches eastern instant day)

theorem reading_representable (instant : Int) (late : datetimeMin + 3 * microsPerDay ≤ instant)
    (early : instant < datetimeEnd) :
    datetimeMin ≤ eastern.wall instant ∧ eastern.wall instant < datetimeEnd ∧
      (3 : Int) ≤ eastern.date instant := by
  have bounds := law.bounds instant
  have least : datetimeMin = -62135596800000000 := by decide
  rw [least, show microsPerDay = 86400000000 from rfl] at late
  rw [Zone.date, Zone.wall, least, show epochOrdinal = 719163 from rfl,
    show microsPerDay = 86400000000 from rfl]
  refine ⟨by omega, by omega, ?_⟩
  change (3 : Int) ≤ 719163 + (instant + eastern.utcoffset instant * 1000000) / 86400000000
  omega

def Representable (at_ : AwareDatetime) : Prop :=
  datetimeMin + 3 * microsPerDay ≤ at_.instant ∧ at_.instant < datetimeEnd

theorem latest_completed_session_at (at_ : AwareDatetime) (representable : Representable at_) :
    latestCompletedSessionAt eastern at_ = lastTradingDay (latestCandidate eastern at_.instant).toNat ∧
      (2 : Int) ≤ latestCandidate eastern at_.instant := by
  obtain ⟨late, early⟩ := representable
  obtain ⟨least, last, third⟩ := reading_representable eastern law at_.instant late early
  have start : datetimeMin ≤ at_.instant := by
    rw [show microsPerDay = 86400000000 from rfl] at late
    omega
  constructor
  · rw [latestCompletedSessionAt, AwareDatetime.astimezone,
      if_neg (not_or.mpr ⟨not_lt.mpr start, not_le.mpr early⟩),
      if_neg (not_or.mpr ⟨not_lt.mpr least, not_le.mpr last⟩)]
    rfl
  · rw [latestCandidate]
    generalize eastern.date at_.instant = today at third
    change Int at today
    cases regularSessionEndOf today with
    | none =>
        change (2 : Int) ≤ today - 1
        omega
    | some sessionEnd =>
        change (2 : Int) ≤ if eastern.time at_.instant < sessionEnd then today - 1 else today
        by_cases before : eastern.time at_.instant < sessionEnd
        · rw [if_pos before]
          omega
        · rw [if_neg before]
          omega

theorem latest_completed_session_is_greatest (at_ : AwareDatetime) (representable : Representable at_) :
    ∃ day : Int, latestCompletedSessionAt eastern at_ = .ok day ∧
      IsGreatest (closedSessions eastern at_.instant) day := by
  obtain ⟨run, second⟩ := latest_completed_session_at eastern law at_ representable
  obtain ⟨day, found⟩ := (last_trading_day_ok_iff (latestCandidate eastern at_.instant).toNat).mpr (by omega)
  have greatest := last_trading_day_greatest _ day found
  rw [Int.toNat_of_nonneg (by omega)] at greatest
  refine ⟨day, run.trans found, ?_⟩
  rw [closed_sessions_candidate eastern law]
  exact greatest

theorem latest_completed_session_correct :
    (∀ at_, Representable at_ → ∃ day : Int, latestCompletedSessionAt eastern at_ = .ok day ∧
      IsGreatest (closedSessions eastern at_.instant) day) ∧
    (∀ first second, Representable first → Representable second → first.instant ≤ second.instant →
      ∃ before after : Int, latestCompletedSessionAt eastern first = .ok before ∧
        latestCompletedSessionAt eastern second = .ok after ∧ before ≤ after) := by
  refine ⟨latest_completed_session_is_greatest eastern law, ?_⟩
  intro first second firstRepresentable secondRepresentable le
  obtain ⟨before, beforeRun, beforeGreatest⟩ :=
    latest_completed_session_is_greatest eastern law first firstRepresentable
  obtain ⟨after, afterRun, afterGreatest⟩ :=
    latest_completed_session_is_greatest eastern law second secondRepresentable
  exact ⟨before, after, beforeRun, afterRun,
    afterGreatest.2 (closed_sessions_mono eastern _ _ le beforeGreatest.1)⟩

end Closing

-- New York in 2026, with its clocks put on at 07:00 UTC of March 8 and back at
-- 06:00 UTC of November 1, and standard time in every other year.
def newYork : Zone where
  utcoffset := fun (instant : Int) =>
    if 1772953200000000 ≤ instant ∧ instant < 1793512800000000 then -14400 else -18000

theorem new_york_eastern : EasternTime newYork where
  bounds := by
    intro instant
    dsimp only [newYork]
    split_ifs <;> decide
  afternoons := by
    intro day
    -- The ordinals of March 8 and of November 1.
    refine ⟨if 739683 ≤ day ∧ day < 739921 then -14400 else -18000, ?_⟩
    intro instant reached before
    have noons : noon = 43200000000 := rfl
    simp only [dayStart, epochOrdinal, microsPerDay, noons] at reached before
    dsimp only [newYork]
    split_ifs at reached before ⊢
    all_goals first
      | rfl
      | omega

-- 2026-07-03 is the observed holiday of a Saturday July 4: at its noon the
-- session of July 2 is the latest.
def fridayNoon : AwareDatetime where
  reading := dayStart (Date.ofCivil 2026 7 3) + timeOfDay 12 0
  utcoffset := -14400000000
  written := by decide +kernel
  withinDay := by decide

theorem latest_completed_session_friday :
    IsGreatest (closedSessions newYork fridayNoon.instant) (Date.ofCivil 2026 7 2) := by
  have representable : Representable fridayNoon := ⟨by decide +kernel, by decide +kernel⟩
  obtain ⟨day, found, greatest⟩ :=
    (latest_completed_session_correct newYork new_york_eastern).1 fridayNoon representable
  have thursday : latestCompletedSessionAt newYork fridayNoon = .ok (Date.ofCivil 2026 7 2) := by
    decide +kernel
  cases Except.ok.inj (found.symm.trans thursday)
  exact greatest

-- The last evening of the year 9999 five hours behind UTC is in the year 10000
-- of UTC: the conversion overflows before any day is looked at.
def lastEvening : AwareDatetime where
  reading := dayStart (Date.ofCivil 9999 12 31) + timeOfDay 20 0
  utcoffset := -18000000000
  written := by decide +kernel
  withinDay := by decide

theorem latest_completed_session_overflows :
    latestCompletedSessionAt newYork lastEvening = .error .overflowError ∧
      datetimeMin + 3 * microsPerDay ≤ lastEvening.instant := by
  decide +kernel

end Calendar

end SchwabGateway.Upstream
