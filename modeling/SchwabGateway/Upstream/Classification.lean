import SchwabGateway.Upstream.ChainCourses
import SchwabGateway.Upstream.HistoryWindow

set_option autoImplicit false

namespace SchwabGateway.Upstream

open SchwabGateway.Library SchwabGateway.Python

variable (literals : Literals) (eastern : Zone)

section History

variable (frequency : Frequency) (bars : List PriceBarV1) (receivedAt : Datetime) (threshold : PyFloat)
  (daysBack : Int)

def offCalendar : Bool :=
  !bars.isEmpty &&
    match frequency with
    | .daily => decide (Calendar.latestCandidate eastern receivedAt < 2)
    | .minute =>
        decide (0 < daysBack ∧ anchorDate (barDates eastern bars) (eastern.date receivedAt) < daysBack)

theorem last_trading_day_reads (ordinal : Nat) :
    Reads (decide (ordinal < 2)) (Calendar.lastTradingDay ordinal) := by
  by_cases early : ordinal < 2
  · have missing := mt (Calendar.last_trading_day_ok_iff ordinal).mp (not_le.mpr early)
    cases outcome : Calendar.lastTradingDay ordinal with
    | ok day => exact absurd ⟨day, outcome⟩ missing
    | error error =>
        have overflow : error = .overflowError := by
          clear early missing
          induction ordinal with
          | zero =>
              cases outcome
              rfl
          | succ before ih =>
              rw [Calendar.lastTradingDay] at outcome
              split at outcome
              · cases outcome
              · exact ih outcome
        rw [overflow]
        exact overflow_escapes _ (decide_eq_true early)
  · obtain ⟨day, read⟩ := (Calendar.last_trading_day_ok_iff ordinal).mpr (not_lt.mp early)
    rw [read]
    exact reads_ok _ (decide_eq_false early) day

theorem latest_session_reads :
    Reads (decide (Calendar.latestCandidate eastern receivedAt < 2))
      (Calendar.latestCompletedSession eastern receivedAt) := by
  have walk := last_trading_day_reads (Calendar.latestCandidate eastern receivedAt).toNat
  have same : decide ((Calendar.latestCandidate eastern receivedAt).toNat < 2) =
      decide (Calendar.latestCandidate eastern receivedAt < 2) := by
    rw [decide_eq_decide, ← not_le, ← not_le]
    exact not_congr (two_le_to_nat _)
  rwa [same] at walk

theorem stale_reads (eventTimestamp : Option Datetime) :
    Reads (match frequency with
      | .daily => eventTimestamp.isSome && decide (Calendar.latestCandidate eastern receivedAt < 2)
      | .minute => false) (historyStale eastern frequency eventTimestamp receivedAt threshold) := by
  cases frequency with
  | minute => exact settles_ok _
  | daily =>
      cases eventTimestamp with
      | none => exact settles_ok _
      | some event => exact settles_then_ok _ _ _ (latest_session_reads eastern receivedAt) (fun _ => ⟨_, rfl⟩)

theorem requested_minute_reads (some_ : bars ≠ []) :
    Reads (decide (0 < daysBack ∧ anchorDate (barDates eastern bars) (eastern.date receivedAt) < daysBack))
      (requestedBars eastern .minute bars receivedAt (some daysBack)) := by
  by_cases positive : 1 ≤ daysBack
  · rw [requested_minute eastern receivedAt daysBack bars some_ positive, minuteWindow]
    by_cases before : anchorDate (barDates eastern bars) (eastern.date receivedAt) < daysBack
    · rw [if_pos ((before_calendar_iff _ daysBack).mpr (not_le.mpr before))]
      exact overflow_escapes _ (decide_eq_true ⟨positive, before⟩)
    · rw [if_neg (mt (before_calendar_iff _ daysBack).mp (not_not.mpr (not_lt.mp before)))]
      exact reads_ok _ (decide_eq_false (fun both => before both.2)) _
  · have all : requestedBars eastern .minute bars receivedAt (some daysBack) = .ok bars := by
      unfold requestedBars
      dsimp only
      rw [if_pos]
      simp only [Bool.or_eq_true, decide_eq_true_eq]
      exact .inr (by omega)
    rw [all]
    exact reads_ok _ (decide_eq_false (fun both => positive both.1)) bars

theorem requested_daily_some (some_ : bars ≠ []) :
    ∃ kept, requestedBars eastern .daily bars receivedAt (some daysBack) = .ok kept ∧ kept ≠ [] := by
  by_cases positive : 1 ≤ daysBack
  · exact ⟨_, requested_daily eastern receivedAt daysBack bars positive,
      rtake_nonempty daysBack bars some_ positive⟩
  · refine ⟨bars, ?_, some_⟩
    unfold requestedBars
    dsimp only
    rw [if_pos]
    simp only [Bool.or_eq_true, decide_eq_true_eq]
    exact .inr (by omega)

theorem window_reads (finish : List PriceBarV1 → Bool → HistoryV1) :
    Reads (offCalendar eastern frequency bars receivedAt daysBack) (do
      let kept ← requestedBars eastern frequency bars receivedAt (some daysBack)
      let stale ← historyStale eastern frequency (kept.getLast?.map PriceBarV1.timestamp) receivedAt threshold
      return finish kept stale) := by
  have finished : ∀ kept fault,
      Reads fault (historyStale eastern frequency (kept.getLast?.map PriceBarV1.timestamp) receivedAt threshold) →
      Reads fault (do
        let stale ← historyStale eastern frequency (kept.getLast?.map PriceBarV1.timestamp) receivedAt threshold
        return finish kept stale) :=
    fun kept fault stale => settles_then_ok fault _ _ stale (fun _ => ⟨_, rfl⟩)
  unfold offCalendar
  cases bars with
  | nil =>
      apply finished [] false
      cases frequency with
      | daily => exact settles_ok _
      | minute => exact settles_ok _
  | cons bar rest =>
      have some_ : bar :: rest ≠ [] := List.cons_ne_nil bar rest
      rw [List.isEmpty_cons, Bool.not_false, Bool.true_and]
      cases frequency with
      | daily =>
          obtain ⟨kept, requested, nonempty⟩ :=
            requested_daily_some eastern (bar :: rest) receivedAt daysBack some_
          have stale := stale_reads eastern .daily receivedAt threshold (kept.getLast?.map PriceBarV1.timestamp)
          have dated : (kept.getLast?.map PriceBarV1.timestamp).isSome = true := by
            rw [List.getLast?_eq_getLast_of_ne_nil nonempty]
            rfl
          rw [dated] at stale
          rw [requested]
          exact finished kept _ stale
      | minute =>
          dsimp only
          rw [← Bool.or_false (decide _)]
          apply settles_bind _ _ _ _ (requested_minute_reads eastern (bar :: rest) receivedAt daysBack some_)
          intro kept _
          exact finished kept false (settles_ok _)

theorem history_escapes_iff (symbol : String) (items : List PyValue) :
    Escapes (normalizeHistory literals eastern symbol frequency (.list items) receivedAt threshold
        (some daysBack)) ↔
      items.any (extremeCandle literals) = true ∨
        (WellFormed literals items ∧
          offCalendar eastern frequency (wellFormedBars literals items) receivedAt daysBack = true) := by
  unfold normalizeHistory
  dsimp only
  unfold Escapes
  rw [uncaught_bind_iff, settles_uncaught_iff _ _ (collect_bars_reads literals items)]
  apply or_congr Iff.rfl
  constructor
  · rintro ⟨bars, collected, raised⟩
    obtain rfl := collect_bars_collected literals items bars collected
    by_cases counted : (wellFormedBars literals items).length = items.length
    · rw [if_neg (not_not.mpr counted)] at raised
      exact ⟨well_formed_of_counted literals items _ collected counted,
        (settles_uncaught_iff _ _ (window_reads eastern frequency _ receivedAt threshold daysBack _)).mp raised⟩
    · rw [if_pos counted] at raised
      simp [Uncaught, throw, throwThe, MonadExceptOf.throw, Raised.isValueError] at raised
  · rintro ⟨formed, off⟩
    obtain ⟨collected, counted⟩ := well_formed_collected literals items formed
    refine ⟨_, collected, ?_⟩
    rw [if_neg (not_not.mpr counted)]
    exact (settles_uncaught_iff _ _ (window_reads eastern frequency _ receivedAt threshold daysBack _)).mpr off

end History

theorem session_escapes_iff (symbol : String) (date : Date) (session : Session) (items : List PyValue)
    (receivedAt : Datetime) (threshold : PyFloat) :
    Escapes (normalizeSessionHistory literals eastern symbol date session (.list items) receivedAt threshold) ↔
      items.any (extremeCandle literals) = true :=
  settles_uncaught_iff _ _ (settles_then_ok _ _ _ (session_bars_reads literals eastern date session items)
    (fun _ => ⟨_, rfl⟩))

theorem movers_escape_iff (index : MoverIndex) (direction : Direction) (items : List PyValue)
    (receivedAt : Datetime) :
    Escapes (normalizeMovers literals index direction (.list items) receivedAt) ↔
      items.any (extremeMover literals) = true :=
  settles_uncaught_iff _ _ (settles_then_ok _ _ _ (collect_movers_reads literals items) (fun _ => ⟨_, rfl⟩))

theorem metadata_escapes_iff (symbol : String) (payload : Payload) (expiration : Date)
    (receivedAt : Datetime) (threshold : PyFloat) (decoded : Decoded (.dict payload)) :
    Escapes (normalizeChainMetadata literals symbol (.dict payload) expiration receivedAt threshold) ↔
      extremeMetadata literals payload = true :=
  (courses_then_ok _ _ _ _ (metadata_takes literals payload expiration decoded) (fun _ => ⟨_, rfl⟩)).uncaught

section Spot

theorem spot_times_classified (quote : Payload) (names : List String) :
    Classified (spotTimes literals quote names) := by
  induction names with
  | nil => simp [Classified, spotTimes, pure, Except.pure]
  | cons name rest ih =>
      intro error raised
      rw [spotTimes] at raised
      cases first : spotTime literals (PyValue.get quote name) with
      | error other =>
          rw [first] at raised
          cases raised
          unfold spotTime at first
          repeat' split at first
          all_goals cases first
      | ok time =>
          rw [first] at raised
          cases later : spotTimes literals quote rest with
          | error other =>
              rw [later] at raised
              cases raised
              exact ih error later
          | ok times =>
              rw [later] at raised
              cases raised

theorem extract_spot_classified (payload : PyValue) (symbol : String) :
    Classified (extractSpot literals payload symbol) := by
  intro error raised
  unfold extractSpot at raised
  cases found : spotQuote payload symbol with
  | error other =>
      rw [found] at raised
      cases raised
      unfold spotQuote at found
      dsimp only at found
      repeat' split at found
      all_goals cases found
  | ok quote =>
      rw [found] at raised
      dsimp only [bind, Except.bind] at raised
      split at raised
      · cases raised
      · cases timed : spotTimes literals quote ["quoteTime", "tradeTime", "quoteTimeInLong", "tradeTimeInLong"] with
        | error other =>
            rw [timed] at raised
            cases raised
            exact spot_times_classified literals quote _ error timed
        | ok times =>
            rw [timed] at raised
            dsimp only at raised
            split at raised
            · rename_i other priced
              cases raised
              unfold spotPrice at priced
              repeat' split at priced
              all_goals cases priced
            · cases raised

end Spot

section Reads

variable (receivedAt : Datetime) (threshold : PyFloat)

theorem quotes_classified_iff (symbols : List String) (responses : List PyValue) :
    Classified (getQuotes literals symbols responses receivedAt threshold) ↔
      extremeQuotes literals (quotable (mergedQuotes responses) symbols) = false := by
  rw [getQuotes, classified_escaped_iff, Escapes, (quotes_take literals receivedAt threshold _).uncaught,
    Bool.not_eq_true]

theorem spot_classified (symbol : String) (response : PyValue) :
    Classified (getSpot literals symbol response receivedAt) := by
  intro error raised
  unfold getSpot at raised
  cases extracted : extractSpot literals response symbol with
  | error other =>
      rw [extracted] at raised
      cases raised
      exact extract_spot_classified literals response symbol error extracted
  | ok pair =>
      rw [extracted] at raised
      cases raised

theorem chain_metadata_classified_iff (symbol : String) (expiration : Date) (response : PyValue)
    (decoded : Decoded response) :
    Classified (getChainMetadata literals symbol expiration response receivedAt threshold) ↔
      ∀ payload, response = .dict payload → extremeMetadata literals payload = false := by
  cases response with
  | dict payload =>
      rw [getChainMetadata, chainInvalid, classified_read_error_iff,
        metadata_escapes_iff literals symbol payload expiration receivedAt threshold decoded]
      simp
  | _ => exact iff_of_true (unavailable_classified _) (by simp)

theorem option_chain_classified_iff (symbol : String) (expiration : Date) (response : PyValue)
    (decoded : Decoded response) :
    Classified (getOptionChain literals symbol expiration response receivedAt threshold) ↔
      ∀ payload, response = .dict payload →
        ¬ ExtremeChain literals expiration receivedAt threshold payload := by
  cases response with
  | dict payload =>
      rw [getOptionChain, chainInvalid, classified_read_error_iff,
        chain_escapes_iff literals expiration receivedAt threshold symbol payload decoded]
      simp
  | _ => exact iff_of_true (unavailable_classified _) (by simp)

theorem history_classified_iff (symbol : String) (frequency : Frequency) (daysBack : Int)
    (response : PyValue) :
    Classified (getHistory literals eastern symbol response receivedAt threshold frequency daysBack) ↔
      ∀ candles, candlesOf response = some candles →
        candles.any (extremeCandle literals) = false ∧
        (WellFormed literals candles →
          offCalendar eastern frequency (wellFormedBars literals candles) receivedAt daysBack = false) := by
  rw [getHistory]
  cases candlesOf response with
  | none => exact iff_of_true (unavailable_classified _) (by simp)
  | some candles =>
      rw [classified_read_error_iff, history_escapes_iff, not_or, not_and]
      simp

theorem session_history_classified_iff (symbol : String) (date : Date) (session : Session)
    (response : PyValue) :
    Classified (getSessionHistory literals eastern symbol response receivedAt threshold date session) ↔
      ∀ candles, candlesOf response = some candles → candles.any (extremeCandle literals) = false := by
  rw [getSessionHistory]
  cases candlesOf response with
  | none => exact iff_of_true (unavailable_classified _) (by simp)
  | some candles =>
      rw [classified_read_error_iff, session_escapes_iff]
      simp

theorem movers_classified_iff (index : MoverIndex) (direction : Direction) (response : PyValue) :
    Classified (getMovers literals response index direction receivedAt) ↔
      ∀ items, moversOf response = some (.list items) → items.any (extremeMover literals) = false := by
  rw [getMovers]
  cases found : moversOf response with
  | none => exact iff_of_true (unavailable_classified _) (by simp)
  | some items =>
      dsimp only
      rw [classified_read_error_iff]
      cases items with
      | list items =>
          rw [movers_escape_iff]
          simp
      | _ => exact iff_of_true (by simp [normalizeMovers, Uncaught, Raised.isValueError]) (by simp)

end Reads

-- Each read ends with a model or an error that the API has an answer for,
-- exactly if no extreme number is the first thing to go wrong in it.
theorem direct_reads_classified_iff (receivedAt : Datetime) (threshold : PyFloat) :
    (∀ symbols responses,
      Classified (getQuotes literals symbols responses receivedAt threshold) ↔
        extremeQuotes literals (quotable (mergedQuotes responses) symbols) = false) ∧
    (∀ symbol response, Classified (getSpot literals symbol response receivedAt)) ∧
    (∀ symbol expiration response, Decoded response →
      (Classified (getChainMetadata literals symbol expiration response receivedAt threshold) ↔
        ∀ payload, response = .dict payload → extremeMetadata literals payload = false)) ∧
    (∀ symbol expiration response, Decoded response →
      (Classified (getOptionChain literals symbol expiration response receivedAt threshold) ↔
        ∀ payload, response = .dict payload →
          ¬ ExtremeChain literals expiration receivedAt threshold payload)) ∧
    (∀ symbol frequency daysBack response,
      Classified (getHistory literals eastern symbol response receivedAt threshold frequency daysBack) ↔
        ∀ candles, candlesOf response = some candles →
          candles.any (extremeCandle literals) = false ∧
          (WellFormed literals candles →
            offCalendar eastern frequency (wellFormedBars literals candles) receivedAt daysBack = false)) ∧
    (∀ symbol date session response,
      Classified (getSessionHistory literals eastern symbol response receivedAt threshold date session) ↔
        ∀ candles, candlesOf response = some candles → candles.any (extremeCandle literals) = false) ∧
    (∀ index direction response,
      Classified (getMovers literals response index direction receivedAt) ↔
        ∀ items, moversOf response = some (.list items) → items.any (extremeMover literals) = false) :=
  ⟨quotes_classified_iff literals receivedAt threshold,
    spot_classified literals receivedAt,
    chain_metadata_classified_iff literals receivedAt threshold,
    option_chain_classified_iff literals receivedAt threshold,
    history_classified_iff literals eastern receivedAt threshold,
    session_history_classified_iff literals eastern receivedAt threshold,
    movers_classified_iff literals receivedAt⟩

def pricedChain (quoteTime : PyFloat) : Payload :=
  [(.str "underlyingPrice", .float (.finite 100)),
    (.str "underlying", .dict [(.str "quoteTime", .float quoteTime)])]

theorem priced_chain_decoded (quoteTime : PyFloat) : Decoded (.dict (pricedChain quoteTime)) := by
  have underlying : Decoded (.dict [(.str "quoteTime", .float quoteTime)]) :=
    .dict _ (by simp) (by simp [Decoded.float])
  exact .dict _ (by simp [pricedChain]) (by simp [pricedChain, Decoded.float, underlying])

theorem direct_reads_classified_iff_sample :
    Classified (getChainMetadata noLiterals "AAPL" (Date.ofCivil 2026 8 21)
      (.dict (pricedChain (.finite 1786543200000))) 1786543200000000 (.finite 90)) := by
  apply ((direct_reads_classified_iff noLiterals summer 1786543200000000 (.finite 90)).2.2.1 "AAPL"
    (Date.ofCivil 2026 8 21) _ (priced_chain_decoded (.finite 1786543200000))).mpr
  rintro payload same
  cases same
  decide

-- A time of 1e400 ends in an OverflowError that nothing answers.
theorem endless_time_unclassified :
    ¬ Classified (getChainMetadata noLiterals "AAPL" (Date.ofCivil 2026 8 21)
      (.dict (pricedChain .infinity)) 1786543200000000 (.finite 90)) := by
  rw [chain_metadata_classified_iff noLiterals 1786543200000000 (.finite 90) "AAPL" (Date.ofCivil 2026 8 21) _
    (priced_chain_decoded .infinity)]
  intro plain
  have extreme : extremeMetadata noLiterals (pricedChain .infinity) = true := by decide
  rw [plain _ rfl] at extreme
  cases extreme

end SchwabGateway.Upstream
