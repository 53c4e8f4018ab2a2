import SchwabGateway.Upstream.Extremes

set_option autoImplicit false

namespace SchwabGateway.Upstream

open SchwabGateway.Library SchwabGateway.Python

-- 13:00 on an early-close day, 16:00 otherwise.
def closeOf (date : Date) : Int :=
  if (Calendar.earlyCloseSessions date.year).contains date then timeOfDay 13 0 else timeOfDay 16 0

theorem session_end_trading (date : Date) (trading : Calendar.isTradingDay date = true) :
    Calendar.regularSessionEndOf date = some (closeOf date) := by
  unfold Calendar.regularSessionEndOf closeOf earlyCloseSessionEnd regularSessionEnd
  rw [trading, if_neg (by simp)]
  split
  · rfl
  · rfl

theorem session_end_holiday (date : Date) (holiday : Calendar.isTradingDay date = false) :
    Calendar.regularSessionEndOf date = none := by
  unfold Calendar.regularSessionEndOf
  rw [holiday]
  rfl

variable (literals : Literals) (eastern : Zone)

def barOf (candle : PyValue) : Option PriceBarV1 := (barFromCandle literals candle).toOption.join

theorem bar_of_ok (candle : PyValue) (bar : Option PriceBarV1)
    (read : barFromCandle literals candle = .ok bar) : barOf literals candle = bar := by
  rw [barOf, read]
  rfl

def wellFormedBars (items : List PyValue) : List PriceBarV1 := items.filterMap (barOf literals)

def malformed (items : List PyValue) : Nat := items.countP fun candle => (barOf literals candle).isNone

section Loop

variable (date : Date) (session : Session)

theorem session_bars_reads (items : List PyValue) :
    Reads (items.any (extremeCandle literals)) (sessionBars literals eastern date session items) := by
  induction items with
  | nil => exact settles_ok _
  | cons candle rest ih =>
      rw [List.any_cons, sessionBars, ← Bool.or_false (rest.any _)]
      apply settles_bind _ _ _ _ (bar_reads literals candle)
      intro bar _
      apply settles_bind _ _ _ _ ih
      rintro ⟨bars, dropped⟩ _
      cases bar with
      | none => exact settles_ok _
      | some bar =>
          dsimp only
          split
          · exact settles_ok _
          · exact settles_ok _

theorem session_bars_collected (items : List PyValue) (bars : List PriceBarV1) (dropped : Nat)
    (collected : sessionBars literals eastern date session items = .ok (bars, dropped)) :
    bars = (wellFormedBars literals items).filter (belongs eastern date session) ∧
      dropped = malformed literals items := by
  induction items generalizing bars dropped with
  | nil =>
      cases collected
      exact ⟨rfl, rfl⟩
  | cons candle rest ih =>
      rw [sessionBars] at collected
      obtain ⟨bar, read, collected⟩ := (bind_ok_iff _ _ _).mp collected
      obtain ⟨⟨later, others⟩, collectedLater, collected⟩ := (bind_ok_iff _ _ _).mp collected
      obtain ⟨rfl, rfl⟩ := ih later others collectedLater
      have here := bar_of_ok literals candle bar read
      cases bar with
      | none =>
          cases collected
          simp [wellFormedBars, malformed, here]
      | some bar =>
          dsimp only at collected
          split at collected
          · rename_i kept
            cases collected
            simp [wellFormedBars, malformed, here, kept]
          · rename_i passed
            cases collected
            simp [wellFormedBars, malformed, here, passed]

end Loop

def barsOn (date : Date) (items : List PyValue) : List PriceBarV1 :=
  (wellFormedBars literals items).filter fun bar => eastern.date bar.timestamp = date

def during (date : Date) (bar : PriceBarV1) : Bool :=
  decide (timeOfDay 9 30 ≤ eastern.time bar.timestamp ∧ eastern.time bar.timestamp < closeOf date)

theorem filter_belongs_trading (date : Date) (session : Session) (items : List PyValue)
    (trading : Calendar.isTradingDay date = true) :
    (wellFormedBars literals items).filter (belongs eastern date session) =
      (barsOn literals eastern date items).filter
        (fun bar => during eastern date bar == decide (session = .regular)) := by
  rw [barsOn, List.filter_filter]
  congr 1
  funext bar
  simp only [belongs, session_end_trading date trading, during, regularSessionStart]
  exact Bool.and_comm _ _

theorem filter_belongs_holiday (date : Date) (session : Session) (items : List PyValue)
    (holiday : Calendar.isTradingDay date = false) :
    (wellFormedBars literals items).filter (belongs eastern date session) = [] := by
  apply List.filter_eq_nil_iff.mpr
  intro bar _
  simp only [belongs, session_end_holiday date holiday, Bool.false_eq_true, not_false_eq_true]

structure Flagged (date : Date) (items : List PyValue) (history : SessionHistoryV1) : Prop where
  holiday : Calendar.isTradingDay date = false → "market_holiday" ∈ history.dataQualityFlags
  dropped : "malformed_bars_dropped" ∈ history.dataQualityFlags ↔
    ∃ candle ∈ items, barFromCandle literals candle = .ok none
  empty : "no_bars_returned" ∈ history.dataQualityFlags ↔ history.candles = []

structure Split (date : Date) (items : List PyValue) (regular extended : SessionHistoryV1) : Prop where
  regularBars : Calendar.isTradingDay date = true →
    regular.candles = (barsOn literals eastern date items).filter (during eastern date)
  extendedBars : Calendar.isTradingDay date = true →
    extended.candles = (barsOn literals eastern date items).filter (fun bar => !during eastern date bar)
  holiday : Calendar.isTradingDay date = false → regular.candles = [] ∧ extended.candles = []
  regularFlags : Flagged literals date items regular
  extendedFlags : Flagged literals date items extended

variable (symbol : String) (date : Date) (items : List PyValue) (threshold : PyFloat)

theorem malformed_iff (plain : items.any (extremeCandle literals) = false) :
    malformed literals items ≠ 0 ↔ ∃ candle ∈ items, barFromCandle literals candle = .ok none := by
  rw [malformed, ← Nat.pos_iff_ne_zero, List.countP_pos_iff]
  apply exists_congr
  intro candle
  apply and_congr_right
  intro member
  have ordinary : extremeCandle literals candle = false :=
    Bool.eq_false_iff.mpr (fun extreme => by simp [List.any_eq_true.mpr ⟨candle, member, extreme⟩] at plain)
  obtain ⟨bar, read⟩ := (settles_ok_iff _ _ (bar_reads literals candle)).mpr ordinary
  rw [barOf, read]
  cases bar with
  | none => simp [Except.toOption]
  | some bar => simp [Except.toOption]

theorem session_history_returned (session : Session) (receivedAt : Datetime)
    (plain : items.any (extremeCandle literals) = false) :
    ∃ history, normalizeSessionHistory literals eastern symbol date session (.list items) receivedAt
        threshold = .ok history ∧
      history.candles = (wellFormedBars literals items).filter (belongs eastern date session) ∧
      Flagged literals date items history := by
  obtain ⟨⟨bars, dropped⟩, collected⟩ :=
    (settles_ok_iff _ _ (session_bars_reads literals eastern date session items)).mpr plain
  obtain ⟨sameBars, sameDropped⟩ :=
    session_bars_collected literals eastern date session items bars dropped collected
  refine ⟨sessionHistory symbol date session bars dropped receivedAt threshold, ?_, sameBars, ?_⟩
  · unfold normalizeSessionHistory
    dsimp only
    rw [collected]
    rfl
  · have flags : ∀ flag, flag ≠ "stale" →
        (flag ∈ (sessionHistory symbol date session bars dropped receivedAt threshold).dataQualityFlags ↔
          flag ∈ sessionFlags date bars dropped) := by
      intro flag other
      simp [sessionHistory, Freshness.evaluated, mem_flag_if, other]
    constructor
    · intro holiday
      rw [flags _ (by decide), session_flags_mem, calendarFlags, session_end_holiday date holiday]
      exact .inl (List.mem_singleton.mpr rfl)
    · rw [flags _ (by decide), session_flags_mem, ← malformed_iff literals items plain, sameDropped]
      constructor
      · rintro (calendar | ⟨some_, _⟩ | ⟨_, same⟩)
        · exact absurd (calendar_flags_mem date _ calendar) (by simp)
        · exact some_
        · exact absurd same (by simp)
      · exact fun some_ => .inr (.inl ⟨some_, rfl⟩)
    · rw [flags _ (by decide), session_flags_mem]
      constructor
      · rintro (calendar | ⟨_, same⟩ | ⟨none_, _⟩)
        · exact absurd (calendar_flags_mem date _ calendar) (by simp)
        · exact absurd same (by simp)
        · exact none_
      · exact fun none_ => .inr (.inr ⟨none_, rfl⟩)

def SplitReturned (regularAt extendedAt : Datetime) : Prop :=
  ∃ regular extended,
    normalizeSessionHistory literals eastern symbol date .regular (.list items) regularAt threshold =
      .ok regular ∧
    normalizeSessionHistory literals eastern symbol date .extended (.list items) extendedAt threshold =
      .ok extended ∧
    Split literals eastern date items regular extended

theorem split_returned_plain (regularAt extendedAt : Datetime)
    (returned : SplitReturned literals eastern symbol date items threshold regularAt extendedAt) :
    items.any (extremeCandle literals) = false := by
  obtain ⟨regular, _, accepted, _⟩ := returned
  obtain ⟨collected, bars, dropped, same, read, _⟩ :=
    normalize_session_history_ok literals eastern symbol date .regular _ regularAt threshold regular accepted
  cases same
  exact (settles_ok_iff _ _ (session_bars_reads literals eastern date .regular items)).mp ⟨_, read⟩

-- The split is as it is to be exactly if nothing escapes from reading a candle.
theorem session_split_iff (regularAt extendedAt : Datetime) :
    SplitReturned literals eastern symbol date items threshold regularAt extendedAt ↔
      items.any (extremeCandle literals) = false := by
  constructor
  · exact split_returned_plain literals eastern symbol date items threshold regularAt extendedAt
  · intro plain
    obtain ⟨regular, first, regularBars, regularFlags⟩ := session_history_returned literals eastern symbol
      date items threshold .regular regularAt plain
    obtain ⟨extended, second, extendedBars, extendedFlags⟩ := session_history_returned literals eastern symbol
      date items threshold .extended extendedAt plain
    refine ⟨regular, extended, first, second, ?_, ?_, ?_, regularFlags, extendedFlags⟩
    · intro trading
      rw [regularBars, filter_belongs_trading literals eastern date .regular items trading]
      simp
    · intro trading
      rw [extendedBars, filter_belongs_trading literals eastern date .extended items trading]
      simp
    · intro holiday
      rw [regularBars, extendedBars, filter_belongs_holiday literals eastern date .regular items holiday,
        filter_belongs_holiday literals eastern date .extended items holiday]
      exact ⟨rfl, rfl⟩

def endlessCandle : PyValue :=
  .dict [(.str "datetime", .float .infinity), (.str "open", .int 1), (.str "high", .int 1),
    (.str "low", .int 1), (.str "close", .int 1), (.str "volume", .int 1)]

-- One such candle fails the whole day, where it was to be dropped.
theorem endless_candle_fails_day :
    ¬ SplitReturned noLiterals summer "AAPL" (Date.ofCivil 2026 8 12)
      [sampleCandle (.finite 11), endlessCandle] (.finite 300) 1786543200000000 1786543200000000 := by
  intro returned
  have plain := split_returned_plain _ _ _ _ _ _ _ _ returned
  have extreme : [sampleCandle (.finite 11), endlessCandle].any (extremeCandle noLiterals) = true := by decide
  rw [extreme] at plain
  cases plain

end SchwabGateway.Upstream
