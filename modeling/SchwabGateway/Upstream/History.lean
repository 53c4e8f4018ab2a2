import Mathlib.Data.List.DropRight
import SchwabGateway.Upstream.SessionSplit

set_option autoImplicit false

namespace SchwabGateway.Upstream

open SchwabGateway.Library SchwabGateway.Python

namespace Calendar

-- The days are walked down to the last trading day; below the first date the
-- subtraction overflows.
def lastTradingDay : Nat → Result Date
  | 0 => .error .overflowError
  | before + 1 =>
      if isTradingDay (before + 1 : Nat) then .ok (before + 1 : Nat) else lastTradingDay before

-- Today once its session is over, else the day before.
def latestCandidate (eastern : Zone) (at_ : Datetime) : Date :=
  let candidate := eastern.date at_
  match regularSessionEndOf candidate with
  | none => candidate - 1
  | some sessionEnd => if eastern.time at_ < sessionEnd then candidate - 1 else candidate

def latestCompletedSession (eastern : Zone) (at_ : Datetime) : Result Date :=
  lastTradingDay (latestCandidate eastern at_).toNat

-- 0001-01-02 is the first trading day there is.
theorem last_trading_day_ok_iff (ordinal : Nat) : (∃ day, lastTradingDay ordinal = .ok day) ↔ 2 ≤ ordinal := by
  induction ordinal with
  | zero => simp [lastTradingDay]
  | succ before ih =>
      rw [lastTradingDay]
      by_cases trading : isTradingDay (before + 1 : Nat) = true
      · rw [if_pos trading]
        have first : isTradingDay (1 : Nat) = false := by decide +kernel
        have later : before ≠ 0 := by
          rintro rfl
          rw [first] at trading
          cases trading
        simp
        omega
      · rw [if_neg trading, ih]
        have second : isTradingDay (2 : Nat) = true := by decide +kernel
        have other : before ≠ 1 := by
          rintro rfl
          exact trading second
        omega

end Calendar

inductive Frequency where
  | daily
  | minute
deriving DecidableEq

structure HistoryV1 extends Freshness where
  symbol : String
  frequency : Frequency
  bars : List PriceBarV1
  gatewayReceivedAt : Datetime
  source : String
deriving DecidableEq

section Normalizing

variable (literals : Literals) (eastern : Zone)

def collectBars : List PyValue → Result (List PriceBarV1)
  | [] => return []
  | candle :: rest => do
      let bar ← barFromCandle literals candle
      let bars ← collectBars rest
      return bar.toList ++ bars

def barDates (bars : List PriceBarV1) : List Date := bars.map fun bar => eastern.date bar.timestamp

-- max(available_dates, default=current_date).
def anchorDate (dates : List Date) (current : Date) : Date :=
  (dates.filter (· ≤ current)).max?.getD current

def withinDays (anchor : Date) (daysBack : Int) (bar : PriceBarV1) : Bool :=
  decide (anchor - (daysBack - 1) ≤ eastern.date bar.timestamp ∧ eastern.date bar.timestamp ≤ anchor)

-- The subtraction from the anchor overflows below the first date.
def minuteWindow (bars : List PriceBarV1) (receivedAt : Datetime) (daysBack : Int) :
    Result (List PriceBarV1) :=
  let anchor := anchorDate (barDates eastern bars) (eastern.date receivedAt)
  if anchor - (daysBack - 1) < 1 then .error .overflowError
  else .ok (bars.filter (withinDays eastern anchor daysBack))

def requestedBars (frequency : Frequency) (bars : List PriceBarV1) (receivedAt : Datetime) :
    Option Int → Result (List PriceBarV1)
  | none => .ok bars
  | some daysBack =>
      if bars.isEmpty || daysBack ≤ 0 then .ok bars
      else
        match frequency with
        | .daily => .ok (bars.rtake daysBack.toNat)
        | .minute => minuteWindow eastern bars receivedAt daysBack

def historyStale (frequency : Frequency) (eventTimestamp : Option Datetime) (receivedAt : Datetime)
    (staleAfterSeconds : PyFloat) : Result Bool :=
  match frequency, eventTimestamp with
  | .daily, some event => do
      let latest ← Calendar.latestCompletedSession eastern receivedAt
      return decide (eastern.date event < latest)
  | _, _ => return (freshness eventTimestamp receivedAt staleAfterSeconds).2

def normalizeHistory (symbol : String) (frequency : Frequency) (candles : PyValue) (receivedAt : Datetime)
    (staleAfterSeconds : PyFloat) (daysBack : Option Int) : Result HistoryV1 :=
  match candles with
  | .list items => do
      let bars ← collectBars literals items
      if bars.length ≠ items.length then
        throw (.valueError "price history contained malformed candles")
      else do
        let kept ← requestedBars eastern frequency bars receivedAt daysBack
        let eventTimestamp := kept.getLast?.map PriceBarV1.timestamp
        let stale ← historyStale eastern frequency eventTimestamp receivedAt staleAfterSeconds
        return {
          eventTimestamp := eventTimestamp
          ageSeconds := ageSeconds eventTimestamp receivedAt
          stale := stale
          dataQualityFlags := flagIf bars.isEmpty "no_bars_returned" ++ flagIf stale "stale"
          symbol := symbol
          frequency := frequency
          bars := kept
          gatewayReceivedAt := receivedAt
          source := "schwab_rest_price_history" }
  | _ => .error (.valueError "price history response was not a list of candles")

theorem collect_bars_reads (items : List PyValue) :
    Reads (items.any (extremeCandle literals)) (collectBars literals items) := by
  induction items with
  | nil => exact settles_ok _
  | cons candle rest ih =>
      rw [List.any_cons, collectBars, ← Bool.or_false (rest.any _)]
      apply settles_bind _ _ _ _ (bar_reads literals candle)
      intro bar _
      apply settles_bind _ _ _ _ ih
      intro bars _
      exact settles_ok _

theorem collect_bars_collected (items : List PyValue) (bars : List PriceBarV1)
    (collected : collectBars literals items = .ok bars) : bars = wellFormedBars literals items := by
  induction items generalizing bars with
  | nil =>
      cases collected
      rfl
  | cons candle rest ih =>
      rw [collectBars] at collected
      obtain ⟨bar, read, collected⟩ := (bind_ok_iff _ _ _).mp collected
      obtain ⟨later, collectedLater, collected⟩ := (bind_ok_iff _ _ _).mp collected
      cases collected
      have here := bar_of_ok literals candle bar read
      rw [ih later collectedLater]
      cases bar with
      | none => simp [wellFormedBars, here]
      | some bar => simp [wellFormedBars, here]

def WellFormed (items : List PyValue) : Prop :=
  ∀ candle ∈ items, ∃ bar, barFromCandle literals candle = .ok (some bar)

theorem bar_of_is_some_iff (candle : PyValue) :
    (barOf literals candle).isSome = true ↔ ∃ bar, barFromCandle literals candle = .ok (some bar) := by
  unfold barOf
  cases barFromCandle literals candle with
  | error error => simp [Except.toOption]
  | ok bar => simp [Except.toOption, Option.isSome_iff_exists]

theorem well_formed_iff (items : List PyValue) :
    WellFormed literals items ↔ ∀ candle ∈ items, (barOf literals candle).isSome = true :=
  forall₂_congr fun candle _ => (bar_of_is_some_iff literals candle).symm

instance (items : List PyValue) : Decidable (WellFormed literals items) :=
  decidable_of_iff _ (well_formed_iff literals items).symm

theorem well_formed_collected (items : List PyValue) (formed : WellFormed literals items) :
    collectBars literals items = .ok (wellFormedBars literals items) ∧
      (wellFormedBars literals items).length = items.length := by
  induction items with
  | nil => exact ⟨rfl, rfl⟩
  | cons candle rest ih =>
      obtain ⟨bar, read⟩ := formed candle (List.mem_cons_self ..)
      obtain ⟨collected, counted⟩ := ih (fun other member => formed other (List.mem_cons_of_mem _ member))
      have here := bar_of_ok literals candle (some bar) read
      rw [collectBars, read, collected]
      simp only [wellFormedBars, List.filterMap_cons, here, List.length_cons]
      exact ⟨rfl, by rw [← counted, wellFormedBars]⟩

theorem well_formed_of_counted (items : List PyValue) (bars : List PriceBarV1)
    (collected : collectBars literals items = .ok bars) (counted : bars.length = items.length) :
    WellFormed literals items := by
  rw [collect_bars_collected literals items bars collected, wellFormedBars,
    List.length_filterMap_eq_countP] at counted
  exact (well_formed_iff literals items).mpr (List.countP_eq_length.mp counted)

end Normalizing

end SchwabGateway.Upstream
