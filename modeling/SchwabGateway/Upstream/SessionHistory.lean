import SchwabGateway.Upstream.Calendar
import SchwabGateway.Upstream.Freshness
import SchwabGateway.Upstream.Numbers

set_option autoImplicit false

namespace SchwabGateway.Upstream

open SchwabGateway.Python

structure PriceBarV1 where
  timestamp : Datetime
  open_ : PyFloat
  high : PyFloat
  low : PyFloat
  close : PyFloat
  volume : Int
  volumeNonnegative : 0 ≤ volume
deriving DecidableEq

def PriceBarV1.validated (timestamp : Datetime) (open_ high low close : PyFloat) (volume : Int) :
    Result PriceBarV1 :=
  if nonnegative : 0 ≤ volume then .ok ⟨timestamp, open_, high, low, close, volume, nonnegative⟩
  else .error (.validation "volume" "bar volume must be nonnegative")

inductive Session where
  | regular
  | extended
deriving DecidableEq

structure SessionHistoryV1 extends Freshness where
  symbol : String
  date : Date
  session : Session
  candles : List PriceBarV1
  gatewayReceivedAt : Datetime
  source : String
deriving DecidableEq

-- except ValueError: return None.
def dropInvalid {α : Type} : Result α → Result (Option α)
  | .ok value => .ok (some value)
  | .error error => if error.isValueError then .ok none else .error error

section Bars

variable (literals : Literals)

-- _bar_from_candle: none is a malformed candle.
def barFromCandle : PyValue → Result (Option PriceBarV1)
  | .dict candle => do
      let timestampMs ← integer literals candle "datetime"
      let open_ ← number literals candle "open"
      let high ← number literals candle "high"
      let low ← number literals candle "low"
      let close ← number literals candle "close"
      let volume ← integer literals candle "volume"
      match timestampMs, open_, high, low, close, volume with
      | some millis, some open_, some high, some low, some close, some volume =>
          if millis ≤ 0 then return none
          else dropInvalid do
            let at_ ← timestamp millis
            PriceBarV1.validated at_ open_ high low close volume
      | _, _, _, _, _, _ => return none
  | _ => return none

variable (eastern : Zone)

-- The bars of the other session, of another day or of a holiday are passed over.
def belongs (date : Date) (session : Session) (bar : PriceBarV1) : Bool :=
  match Calendar.regularSessionEndOf date with
  | none => false
  | some sessionEnd =>
      let time := eastern.time bar.timestamp
      let isRegular := decide (regularSessionStart ≤ time ∧ time < sessionEnd)
      eastern.date bar.timestamp = date && isRegular == decide (session = .regular)

def sessionBars (date : Date) (session : Session) : List PyValue → Result (List PriceBarV1 × Nat)
  | [] => return ([], 0)
  | candle :: rest => do
      let bar ← barFromCandle literals candle
      let (bars, dropped) ← sessionBars date session rest
      match bar with
      | none => return (bars, dropped + 1)
      | some bar =>
          if belongs eastern date session bar then return (bar :: bars, dropped)
          else return (bars, dropped)

def calendarFlags (date : Date) : List String :=
  match Calendar.regularSessionEndOf date with
  | none => ["market_holiday"]
  | some sessionEnd => flagIf (sessionEnd = earlyCloseSessionEnd) "early_close"

def sessionFlags (date : Date) (bars : List PriceBarV1) (dropped : Nat) : List String :=
  calendarFlags date ++ flagIf (dropped ≠ 0) "malformed_bars_dropped" ++
    flagIf bars.isEmpty "no_bars_returned"

def sessionHistory (symbol : String) (date : Date) (session : Session) (bars : List PriceBarV1)
    (dropped : Nat) (receivedAt : Datetime) (staleAfterSeconds : PyFloat) : SessionHistoryV1 where
  toFreshness :=
    .evaluated (bars.getLast?.map PriceBarV1.timestamp) (sessionFlags date bars dropped) receivedAt
      staleAfterSeconds
  symbol := symbol
  date := date
  session := session
  candles := bars
  gatewayReceivedAt := receivedAt
  source := "schwab_rest_session_history"

def normalizeSessionHistory (symbol : String) (date : Date) (session : Session) (candles : PyValue)
    (receivedAt : Datetime) (staleAfterSeconds : PyFloat) : Result SessionHistoryV1 :=
  match candles with
  | .list items => do
      let (bars, dropped) ← sessionBars literals eastern date session items
      return sessionHistory symbol date session bars dropped receivedAt staleAfterSeconds
  | _ => .error (.valueError "session history response was not a list of candles")

end Bars

def SessionHistoryV1.refreshed (history : SessionHistoryV1) (evaluatedAt : Datetime)
    (staleAfterSeconds : PyFloat) : SessionHistoryV1 :=
  { history with toFreshness := history.toFreshness.refreshed evaluatedAt staleAfterSeconds }

def isCompletedSession (eastern : Zone) (history : SessionHistoryV1) (evaluatedAt : Datetime) : Bool :=
  history.date < eastern.date evaluatedAt && !history.candles.isEmpty &&
    !history.dataQualityFlags.contains "malformed_bars_dropped"

section Normalized

variable (literals : Literals) (eastern : Zone)

theorem calendar_flags_mem (date : Date) (flag : String) (member : flag ∈ calendarFlags date) :
    flag = "market_holiday" ∨ flag = "early_close" := by
  unfold calendarFlags at member
  cases ending : Calendar.regularSessionEndOf date with
  | none =>
      rw [ending] at member
      exact .inl (List.mem_singleton.mp member)
  | some sessionEnd =>
      rw [ending] at member
      exact .inr ((mem_flag_if _ _ _).mp member).2

theorem session_flags_mem (date : Date) (bars : List PriceBarV1) (dropped : Nat) (flag : String) :
    flag ∈ sessionFlags date bars dropped ↔
      flag ∈ calendarFlags date ∨ (dropped ≠ 0 ∧ flag = "malformed_bars_dropped") ∨
        (bars = [] ∧ flag = "no_bars_returned") := by
  simp only [sessionFlags, List.mem_append, mem_flag_if, decide_eq_true_eq, List.isEmpty_iff, or_assoc]

theorem session_flags_not_stale (date : Date) (bars : List PriceBarV1) (dropped : Nat) :
    "stale" ∉ sessionFlags date bars dropped := by
  rw [session_flags_mem]
  rintro (calendar | ⟨_, same⟩ | ⟨_, same⟩)
  · have named := calendar_flags_mem date "stale" calendar
    simp at named
  · simp at same
  · simp at same

theorem normalize_session_history_ok (symbol : String) (date : Date) (session : Session)
    (candles : PyValue) (receivedAt : Datetime) (threshold : PyFloat) (history : SessionHistoryV1)
    (accepted : normalizeSessionHistory literals eastern symbol date session candles receivedAt threshold =
      .ok history) :
    ∃ items bars dropped, candles = .list items ∧
      sessionBars literals eastern date session items = .ok (bars, dropped) ∧
      history = sessionHistory symbol date session bars dropped receivedAt threshold := by
  unfold normalizeSessionHistory at accepted
  split at accepted
  · rename_i items
    cases collected : sessionBars literals eastern date session items with
    | error error =>
        rw [collected] at accepted
        cases accepted
    | ok result =>
        obtain ⟨bars, dropped⟩ := result
        rw [collected] at accepted
        exact ⟨items, bars, dropped, rfl, collected, (Except.ok.inj accepted).symm⟩
  · cases accepted

end Normalized

def summer : Zone := ⟨fun _ => -14400⟩

def noLiterals : Literals := ⟨fun _ => none, fun _ => none⟩

def sampleCandle (open_ : PyFloat) : PyValue :=
  .dict [(.str "datetime", .int 1786543200000), (.str "open", .float open_),
    (.str "high", .float (.finite 12)), (.str "low", .float (.finite 10)),
    (.str "close", .float (.finite 11)), (.str "volume", .int 100)]

end SchwabGateway.Upstream
