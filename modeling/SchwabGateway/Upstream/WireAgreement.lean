import SchwabGateway.Upstream.WireFinite

set_option autoImplicit false

namespace SchwabGateway.Upstream

open SchwabGateway.Library SchwabGateway.Python

-- One accepted payload of a quote response: quotes of one response may have
-- been read at different times.
structure QuoteSource where
  symbol : String
  payload : Payload
  receivedAt : Datetime
  staleAfterSeconds : PyFloat

def QuoteSource.Gives (literals : Literals) (source : QuoteSource) (quote : QuoteV1) : Prop :=
  normalizeQuote literals source.symbol source.payload source.receivedAt source.staleAfterSeconds = .ok quote

section Responses

def QuotesAgree (quotes : List QuoteV1) : Prop :=
  RoundTrips "quotes" (fun quotes => .array (quotes.map QuoteV1.modelDump)) (Json.readArray QuoteV1.modelValidate)
    quotes

def PartialAgrees (response : PartialQuoteResponseV1) : Prop :=
  PartialQuoteResponseV1.modelValidate response.modelDump = .ok response

def SpotAgrees (spot : SpotV1) : Prop := RoundTrips "spot" SpotV1.modelDump SpotV1.modelValidate spot

def MetadataAgrees (chain : ChainMetadataV1) : Prop :=
  RoundTrips "chain" ChainMetadataV1.modelDump ChainMetadataV1.modelValidate chain

def OptionChainAgrees (chain : OptionChainV1) : Prop :=
  RoundTrips "option_chain" OptionChainV1.modelDump OptionChainV1.modelValidate chain

def HistoryAgrees (history : HistoryV1) : Prop :=
  RoundTrips "history" HistoryV1.modelDump HistoryV1.modelValidate history

def SessionHistoryAgrees (history : SessionHistoryV1) : Prop :=
  RoundTrips "session_history" SessionHistoryV1.modelDump (fun _ => SessionHistoryV1.modelValidate) history

def MoversAgree (movers : MoversV1) : Prop := RoundTrips "movers" MoversV1.modelDump MoversV1.modelValidate movers

theorem quotes_agree_iff (quotes : List QuoteV1) : QuotesAgree quotes ↔ ∀ quote ∈ quotes, quote.Finite := by
  have items : Json.readArray QuoteV1.modelValidate "quotes" (.array (quotes.map QuoteV1.modelDump)) =
      .ok (quotes.map QuoteV1.spelled) :=
    Json.read_items_changed _ _ _ _ _ (fun quote _ => QuoteV1.validate_dump "quotes" quote)
  rw [QuotesAgree, round_trips_iff _ _ _ _ (by decide), items, Except.ok.injEq, unchanged_iff]
  simp only [QuoteV1.spelled_iff]

theorem spot_agrees_iff (spot : SpotV1) : SpotAgrees spot ↔ Spellable spot.price := by
  rw [SpotAgrees, round_trips_iff _ _ _ _ (by decide), SpotV1.validate_dump, Except.ok.injEq, SpotV1.spelled_iff]

theorem metadata_agrees_iff (chain : ChainMetadataV1) :
    MetadataAgrees chain ↔ Spellable chain.underlyingPrice := by
  rw [MetadataAgrees, round_trips_iff _ _ _ _ (by decide), ChainMetadataV1.validate_dump, Except.ok.injEq,
    ChainMetadataV1.spelled_iff]

theorem option_chain_agrees (chain : OptionChainV1) : OptionChainAgrees chain := by
  rw [OptionChainAgrees, round_trips_iff _ _ _ _ (by decide)]
  exact chain_round_trip "option_chain" chain

theorem history_agrees_iff (history : HistoryV1) :
    HistoryAgrees history ↔ ∀ bar ∈ history.bars, bar.Finite := by
  rw [HistoryAgrees, round_trips_iff _ _ _ _ (by decide)]
  exact HistoryV1.round_trip_iff "history" history

theorem session_history_agrees_iff (history : SessionHistoryV1) :
    SessionHistoryAgrees history ↔ ∀ bar ∈ history.candles, bar.Finite := by
  rw [SessionHistoryAgrees, round_trips_iff _ _ _ _ (by decide)]
  exact history_round_trip_iff history

theorem movers_agree_iff (movers : MoversV1) : MoversAgree movers ↔ ∀ mover ∈ movers.movers, mover.Finite := by
  rw [MoversAgree, round_trips_iff _ _ _ _ (by decide), MoversV1.validate_dump, Except.ok.injEq,
    MoversV1.spelled_iff]

end Responses

-- A response is read back as it was built exactly if no number that was read
-- for an optional field or a bar is infinite or NaN. An option chain has none.
theorem wire_agrees_iff (literals : Literals) (eastern : Zone) :
    (∀ sources quotes, List.Forall₂ (QuoteSource.Gives literals) sources quotes →
      (QuotesAgree quotes ↔ ∀ source ∈ sources, FiniteQuote literals source.symbol source.payload) ∧
      ∀ response : PartialQuoteResponseV1, response.quotes = quotes →
        (PartialAgrees response ↔ ∀ source ∈ sources, FiniteQuote literals source.symbol source.payload)) ∧
    (∀ symbol response price event receivedAt threshold,
      extractSpot literals response symbol = .ok (price, event) →
        (SpotAgrees (normalizeSpot symbol (some price) receivedAt event threshold) ↔
          FiniteSpot literals symbol response)) ∧
    (∀ symbol response expiration receivedAt threshold chain,
      normalizeChainMetadata literals symbol response expiration receivedAt threshold = .ok chain →
        (MetadataAgrees chain ↔ FiniteUnderlying literals response)) ∧
    (∀ expiration receivedAt threshold symbol response chain,
      normalizeOptionChain literals expiration receivedAt threshold symbol response = .ok chain →
        OptionChainAgrees chain) ∧
    (∀ symbol frequency candles receivedAt threshold daysBack history,
      normalizeHistory literals eastern symbol frequency candles receivedAt threshold daysBack = .ok history →
        (HistoryAgrees history ↔ FiniteWindow literals eastern frequency candles receivedAt daysBack)) ∧
    (∀ symbol date session candles receivedAt threshold history,
      normalizeSessionHistory literals eastern symbol date session candles receivedAt threshold = .ok history →
        (SessionHistoryAgrees history ↔ FiniteSession literals eastern date session candles)) ∧
    (∀ index direction response receivedAt movers,
      normalizeMovers literals index direction response receivedAt = .ok movers →
        (MoversAgree movers ↔ FiniteMovers literals response)) := by
  refine ⟨?_, ?_, ?_, ?_, ?_, ?_, ?_⟩
  · intro sources quotes given
    have finite : (∀ quote ∈ quotes, quote.Finite) ↔
        ∀ source ∈ sources, FiniteQuote literals source.symbol source.payload :=
      forall_results_iff given (fun source quote accepted =>
        quote_finite_iff literals source.symbol source.payload source.receivedAt source.staleAfterSeconds quote accepted)
    constructor
    · rw [quotes_agree_iff, finite]
    · rintro response rfl
      rw [PartialAgrees, PartialQuoteResponseV1.round_trip_iff, finite]
  · intro symbol response price event receivedAt threshold accepted
    rw [spot_agrees_iff, ← spot_finite_iff literals symbol response price event accepted]
    simp [normalizeSpot, Spellable]
  · intro symbol response expiration receivedAt threshold chain accepted
    rw [metadata_agrees_iff,
      metadata_finite_iff literals symbol response expiration receivedAt threshold chain accepted]
  · intro expiration receivedAt threshold symbol response chain _
    exact option_chain_agrees chain
  · intro symbol frequency candles receivedAt threshold daysBack history accepted
    rw [history_agrees_iff, window_finite_iff literals eastern symbol frequency candles receivedAt threshold
      daysBack history accepted]
  · intro symbol date session candles receivedAt threshold history accepted
    rw [session_history_agrees_iff,
      session_finite_iff literals eastern symbol date session candles receivedAt threshold history accepted]
  · intro index direction response receivedAt movers accepted
    rw [movers_agree_iff, movers_finite_iff literals index direction response receivedAt movers accepted]

def quotedBid (bid : PyFloat) : Payload := [(.str "quote", .dict [(.str "bidPrice", .float bid)])]

def quotedSample (bid : PyFloat) : QuoteV1 where
  toFreshness := .evaluated none (quoteFlags (some bid) none none) 1786543200000000 (.finite 90)
  symbol := "AAPL"
  gatewayReceivedAt := 1786543200000000
  source := "schwab_rest_quote"
  session := some "regular"
  bid := some bid
  ask := none
  bidSize := none
  askSize := none
  last := none
  lastSize := none
  mark := none
  volume := none
  close := none
  netPercentChange := none

theorem quoted_sample_given (bid : PyFloat) (accepted : normalizeQuote noLiterals "AAPL" (quotedBid bid)
    1786543200000000 (.finite 90) = .ok (quotedSample bid)) (finite : bid.isfinite) :
    FiniteQuote noLiterals "AAPL" (quotedBid bid) := by
  apply (quote_finite_iff noLiterals "AAPL" (quotedBid bid) _ _ (quotedSample bid) accepted).mp
  exact ⟨fun price same => Option.some.inj same ▸ finite, nofun, nofun, nofun, nofun, nofun⟩

theorem wire_agrees_iff_sample : QuotesAgree [quotedSample (.finite 10)] := by
  have accepted : normalizeQuote noLiterals "AAPL" (quotedBid (.finite 10)) 1786543200000000 (.finite 90) =
      .ok (quotedSample (.finite 10)) := by decide +kernel
  have law := (wire_agrees_iff noLiterals summer).1
    [⟨"AAPL", quotedBid (.finite 10), 1786543200000000, .finite 90⟩] [quotedSample (.finite 10)]
    (.cons accepted .nil)
  apply law.1.mpr
  intro source member
  rw [List.mem_singleton.mp member]
  exact quoted_sample_given (.finite 10) accepted rfl

def infiniteHistory : HistoryV1 where
  eventTimestamp := some sampleBar.timestamp
  ageSeconds := some 0
  stale := false
  dataQualityFlags := []
  symbol := "AAPL"
  frequency := .minute
  bars := [{ sampleBar with open_ := .infinity }]
  gatewayReceivedAt := 1786543200000000
  source := "schwab_rest_price_history"

-- A bid of NaN is gone when it arrives; an infinite open price makes the whole
-- history unreadable.
theorem nonfinite_lost :
    normalizeQuote noLiterals "AAPL" (quotedBid .nan) 1786543200000000 (.finite 90) = .ok (quotedSample .nan) ∧
      ¬ QuotesAgree [quotedSample .nan] ∧
      normalizeHistory noLiterals summer "AAPL" .minute (.list [sampleCandle .infinity]) 1786543200000000
        (.finite 900) (some 1) = .ok infiniteHistory ∧
      HistoryV1.modelValidate "history" infiniteHistory.modelDump =
        .error (.validation "open" "Input should be a valid number") := by
  refine ⟨by decide +kernel, ?_, by decide +kernel, by decide +kernel⟩
  rw [quotes_agree_iff]
  intro finite
  have bid := (finite (quotedSample .nan) (List.mem_singleton.mpr rfl)).bid .nan rfl
  cases bid

end SchwabGateway.Upstream
