import SchwabGateway.Upstream.OptionContract
import SchwabGateway.Upstream.SessionHistory

set_option autoImplicit false

namespace SchwabGateway.Upstream

open SchwabGateway.Library SchwabGateway.Python

section Symbols

def rootCharacter (c : Char) : Bool := c.isUpper || c.isDigit || c = '.'

-- OPTION_SYMBOL_PATTERN on 21 characters: fifteen of them are the date, the
-- side and the strike, which leaves six for the root and its padding.
def optionSymbolPattern (symbol : List Char) : Bool :=
  let (padded, contract) := symbol.splitAt 6
  let root := padded.takeWhile rootCharacter
  !root.isEmpty && (padded.drop root.length).all (· = ' ') &&
    (contract.take 6).all Char.isDigit &&
    ((contract.drop 6).take 1 = ['C'] || (contract.drop 6).take 1 = ['P']) &&
    (contract.drop 7).all Char.isDigit

def decimal (digits : List Char) : Int :=
  digits.foldl (fun number digit => 10 * number + (digit.toNat - 48)) 0

def isDate (year month day : Int) : Bool :=
  1 ≤ month && month ≤ 12 && 1 ≤ day && day ≤ (Date.monthLengths year).getD (month.toNat - 1) 0

def isOptionSymbol (symbol : String) : Bool :=
  let characters := symbol.toList
  let field := fun start => decimal ((characters.drop start).take 2)
  characters.length = 21 && optionSymbolPattern characters && isDate (2000 + field 6) (field 8) (field 10)

end Symbols

structure QuoteV1 extends Freshness where
  symbol : String
  gatewayReceivedAt : Datetime
  source : String
  session : Option String
  bid : Option PyFloat
  ask : Option PyFloat
  bidSize : Option Int
  askSize : Option Int
  last : Option PyFloat
  lastSize : Option Int
  mark : Option PyFloat
  volume : Option Int
  close : Option PyFloat
  netPercentChange : Option PyFloat
deriving DecidableEq

-- payload.get(name) if it is an object, else {}.
def block (payload : Payload) (name : String) : Payload :=
  match PyValue.get payload name with
  | .dict entries => entries
  | _ => []

def above : Option PyFloat → Option PyFloat → Bool
  | some bid, some ask => PyFloat.lt ask bid
  | _, _ => false

def quoteFlags (bid ask : Option PyFloat) (eventTimestamp : Option Datetime) : List String :=
  flagIf bid.isNone "missing_bid" ++ flagIf ask.isNone "missing_ask" ++
    flagIf (above bid ask) "crossed_market" ++
    flagIf eventTimestamp.isNone "missing_event_timestamp"

-- The extended block has an event time, and the regular one none or an older.
def newer : Option Datetime → Option Datetime → Bool
  | none, _ => false
  | some _, none => true
  | some extended, some regular => decide (regular < extended)

section Reading

variable (literals : Literals)

def quoteTimes (regular : Payload) : Payload :=
  ["quoteTime", "quoteTimeInLong"].map fun name => (.str name, PyValue.get regular name)

def regularEventTime (symbol : String) (regular : Payload) : Result (Option Datetime) :=
  if isOptionSymbol symbol then eventTime literals (quoteTimes regular) else eventTime literals regular

def normalizeQuote (symbol : String) (payload : Payload) (receivedAt : Datetime)
    (staleAfterSeconds : PyFloat) : Result QuoteV1 := do
  let regular := block payload "quote"
  let extended := block payload "extended"
  let regularTime ← regularEventTime literals symbol regular
  let extendedTime ← eventTime literals extended
  let chosen := !isOptionSymbol symbol && newer extendedTime regularTime
  let current := if chosen then extended else regular
  let eventTimestamp := if chosen then extendedTime else regularTime
  let session :=
    if chosen then some "extended" else if regular.isEmpty then none else some "regular"
  let bid ← number literals current "bidPrice"
  let ask ← number literals current "askPrice"
  let bidSize ← integer literals current "bidSize"
  let askSize ← integer literals current "askSize"
  let last ← number literals current "lastPrice"
  let lastSize ← integer literals current "lastSize"
  let mark ← number literals current "mark"
  let volume ← integer literals current "totalVolume"
  let close ← number literals regular "closePrice"
  let netPercentChange ← number literals regular "netPercentChange"
  return {
    toFreshness :=
      .evaluated eventTimestamp (quoteFlags bid ask eventTimestamp) receivedAt staleAfterSeconds
    symbol := symbol
    gatewayReceivedAt := receivedAt
    source := "schwab_rest_quote"
    session, bid, ask, bidSize, askSize, last, lastSize, mark, volume, close, netPercentChange }

-- A quote whose fields and age were all read from one block.
structure QuotedFrom (current : Payload) (event : Option Datetime) (receivedAt : Datetime)
    (threshold : PyFloat) (quote : QuoteV1) : Prop where
  bid : number literals current "bidPrice" = .ok quote.bid
  ask : number literals current "askPrice" = .ok quote.ask
  bidSize : integer literals current "bidSize" = .ok quote.bidSize
  askSize : integer literals current "askSize" = .ok quote.askSize
  last : number literals current "lastPrice" = .ok quote.last
  lastSize : integer literals current "lastSize" = .ok quote.lastSize
  mark : number literals current "mark" = .ok quote.mark
  volume : integer literals current "totalVolume" = .ok quote.volume
  freshness : quote.toFreshness =
    .evaluated event (quoteFlags quote.bid quote.ask event) receivedAt threshold

variable (symbol : String) (payload : Payload) (receivedAt : Datetime) (threshold : PyFloat)

theorem normalize_quote_ok (quote : QuoteV1)
    (accepted : normalizeQuote literals symbol payload receivedAt threshold = .ok quote) :
    ∃ regularTime extendedTime,
      regularEventTime literals symbol (block payload "quote") = .ok regularTime ∧
      eventTime literals (block payload "extended") = .ok extendedTime ∧
      quote.session =
        (if !isOptionSymbol symbol && newer extendedTime regularTime then some "extended"
          else if (block payload "quote").isEmpty then none else some "regular") ∧
      QuotedFrom literals
        (if !isOptionSymbol symbol && newer extendedTime regularTime then block payload "extended"
          else block payload "quote")
        (if !isOptionSymbol symbol && newer extendedTime regularTime then extendedTime else regularTime)
        receivedAt threshold quote ∧
      number literals (block payload "quote") "closePrice" = .ok quote.close ∧
      number literals (block payload "quote") "netPercentChange" = .ok quote.netPercentChange := by
  unfold normalizeQuote at accepted
  dsimp only at accepted
  obtain ⟨regularTime, regularRead, accepted⟩ := (bind_ok_iff _ _ _).mp accepted
  obtain ⟨extendedTime, extendedRead, accepted⟩ := (bind_ok_iff _ _ _).mp accepted
  obtain ⟨bid, bidRead, accepted⟩ := (bind_ok_iff _ _ _).mp accepted
  obtain ⟨ask, askRead, accepted⟩ := (bind_ok_iff _ _ _).mp accepted
  obtain ⟨bidSize, bidSizeRead, accepted⟩ := (bind_ok_iff _ _ _).mp accepted
  obtain ⟨askSize, askSizeRead, accepted⟩ := (bind_ok_iff _ _ _).mp accepted
  obtain ⟨last, lastRead, accepted⟩ := (bind_ok_iff _ _ _).mp accepted
  obtain ⟨lastSize, lastSizeRead, accepted⟩ := (bind_ok_iff _ _ _).mp accepted
  obtain ⟨mark, markRead, accepted⟩ := (bind_ok_iff _ _ _).mp accepted
  obtain ⟨volume, volumeRead, accepted⟩ := (bind_ok_iff _ _ _).mp accepted
  obtain ⟨close, closeRead, accepted⟩ := (bind_ok_iff _ _ _).mp accepted
  obtain ⟨netPercentChange, netRead, accepted⟩ := (bind_ok_iff _ _ _).mp accepted
  cases accepted
  refine ⟨regularTime, extendedTime, regularRead, extendedRead, rfl, ?_, closeRead, netRead⟩
  exact ⟨bidRead, askRead, bidSizeRead, askSizeRead, lastRead, lastSizeRead, markRead, volumeRead, rfl⟩

def ExtendedChosen (regularTime extendedTime : Option Datetime) : Prop :=
  isOptionSymbol symbol = false ∧ ∃ time, extendedTime = some time ∧
    ∀ regular, regularTime = some regular → regular < time

theorem extended_chosen_iff (regularTime extendedTime : Option Datetime) :
    (!isOptionSymbol symbol && newer extendedTime regularTime) = true ↔
      ExtendedChosen symbol regularTime extendedTime := by
  rw [Bool.and_eq_true, Bool.not_eq_true', ExtendedChosen]
  apply and_congr Iff.rfl
  cases extendedTime with
  | none => simp [newer]
  | some extended =>
      cases regularTime with
      | none => simp [newer]
      | some regular => simp [newer]

def Stale (quote : QuoteV1) : Prop :=
  quote.ageSeconds = none ∨
    ∃ age, quote.ageSeconds = some age ∧ PyFloat.lt threshold (.finite age) = true

theorem too_old_iff (age : Option ℚ≥0) :
    tooOld threshold age = true ↔
      age = none ∨ ∃ seconds, age = some seconds ∧ PyFloat.lt threshold (.finite seconds) = true := by
  cases age with
  | none => simp [tooOld]
  | some seconds => simp [tooOld]

def SameRegular (other : Payload) : Prop :=
  ∀ name, name ≠ "tradeTime" → name ≠ "tradeTimeInLong" →
    PyValue.get (block payload "quote") name = PyValue.get (block other "quote") name

theorem number_congr (first second : Payload) (name : String)
    (same : PyValue.get first name = PyValue.get second name) :
    number literals first name = number literals second name := by
  unfold number
  rw [same]

theorem quote_times_congr (other : Payload) (same : SameRegular payload other) :
    quoteTimes (block payload "quote") = quoteTimes (block other "quote") := by
  have quoteTime := same "quoteTime" (by decide) (by decide)
  have inLong := same "quoteTimeInLong" (by decide) (by decide)
  simp only [quoteTimes, List.map_cons, List.map_nil, quoteTime, inLong]

theorem option_quote_ok (quote : QuoteV1) (option : isOptionSymbol symbol = true)
    (accepted : normalizeQuote literals symbol payload receivedAt threshold = .ok quote) :
    ∃ time, eventTime literals (quoteTimes (block payload "quote")) = .ok time ∧
      QuotedFrom literals (block payload "quote") time receivedAt threshold quote := by
  obtain ⟨regularTime, extendedTime, regularRead, _, _, quoted, _⟩ :=
    normalize_quote_ok literals symbol payload receivedAt threshold quote accepted
  rw [regularEventTime, if_pos option] at regularRead
  simp only [option, Bool.not_true, Bool.false_and, Bool.false_eq_true, if_false] at quoted
  exact ⟨regularTime, regularRead, quoted⟩

-- What an option quote says does not depend on the extended block or on the
-- times of the last trade.
theorem option_quote_unmoved (other : Payload) (quote moved : QuoteV1)
    (option : isOptionSymbol symbol = true) (same : SameRegular payload other)
    (accepted : normalizeQuote literals symbol payload receivedAt threshold = .ok quote)
    (again : normalizeQuote literals symbol other receivedAt threshold = .ok moved) :
    moved.bid = quote.bid ∧ moved.ask = quote.ask ∧ moved.toFreshness = quote.toFreshness := by
  obtain ⟨time, timed, quoted⟩ := option_quote_ok literals symbol payload receivedAt threshold quote option accepted
  obtain ⟨late, timedLate, quotedLate⟩ := option_quote_ok literals symbol other receivedAt threshold moved option again
  rw [← quote_times_congr payload other same, timed] at timedLate
  cases timedLate
  have bidRead := number_congr literals _ _ _ (same "bidPrice" (by decide) (by decide))
  have askRead := number_congr literals _ _ _ (same "askPrice" (by decide) (by decide))
  have bid : moved.bid = quote.bid :=
    (Except.ok.inj ((quoted.bid.symm.trans bidRead).trans quotedLate.bid)).symm
  have ask : moved.ask = quote.ask :=
    (Except.ok.inj ((quoted.ask.symm.trans askRead).trans quotedLate.ask)).symm
  refine ⟨bid, ask, ?_⟩
  rw [quotedLate.freshness, quoted.freshness, bid, ask]

end Reading

variable (literals : Literals)

-- Every field of a quote is read from the block that its time is from, and an
-- option is quoted by its quote times alone.
theorem quote_one_session (symbol : String) (payload : Payload) (receivedAt : Datetime)
    (threshold : PyFloat) (quote : QuoteV1)
    (accepted : normalizeQuote literals symbol payload receivedAt threshold = .ok quote) :
    (∃ regularTime extendedTime,
      regularEventTime literals symbol (block payload "quote") = .ok regularTime ∧
      eventTime literals (block payload "extended") = .ok extendedTime ∧
      (ExtendedChosen symbol regularTime extendedTime → quote.session = some "extended" ∧
        QuotedFrom literals (block payload "extended") extendedTime receivedAt threshold quote) ∧
      (¬ ExtendedChosen symbol regularTime extendedTime → quote.session ≠ some "extended" ∧
        QuotedFrom literals (block payload "quote") regularTime receivedAt threshold quote)) ∧
    (quote.stale = true ↔ Stale threshold quote) ∧
    (isOptionSymbol symbol = true → ∀ other moved, SameRegular payload other →
      normalizeQuote literals symbol other receivedAt threshold = .ok moved →
      moved.bid = quote.bid ∧ moved.ask = quote.ask ∧ moved.eventTimestamp = quote.eventTimestamp ∧
        moved.ageSeconds = quote.ageSeconds ∧ moved.stale = quote.stale ∧
        moved.dataQualityFlags = quote.dataQualityFlags) := by
  obtain ⟨regularTime, extendedTime, regularRead, extendedRead, session, quoted, _⟩ :=
    normalize_quote_ok literals symbol payload receivedAt threshold quote accepted
  refine ⟨⟨regularTime, extendedTime, regularRead, extendedRead, ?_, ?_⟩, ?_, ?_⟩
  · intro chosen
    have taken := (extended_chosen_iff symbol regularTime extendedTime).mpr chosen
    rw [if_pos taken] at session
    rw [if_pos taken, if_pos taken] at quoted
    exact ⟨session, quoted⟩
  · intro other
    have left := mt (extended_chosen_iff symbol regularTime extendedTime).mp other
    rw [if_neg left] at session
    rw [if_neg left, if_neg left] at quoted
    refine ⟨?_, quoted⟩
    rw [session]
    split
    · simp
    · simp
  · rw [Stale, quoted.freshness]
    exact too_old_iff threshold _
  · intro option other moved same again
    obtain ⟨bid, ask, fresh⟩ :=
      option_quote_unmoved literals symbol payload receivedAt threshold other quote moved option same accepted again
    rw [fresh]
    exact ⟨bid, ask, rfl, rfl, rfl, rfl⟩

def sampleBlock (bid ask : ℚ) (quoteTime : Int) : PyValue :=
  .dict [(.str "bidPrice", .float (.finite bid)), (.str "askPrice", .float (.finite ask)),
    (.str "quoteTime", .int quoteTime)]

def sampleQuote : Payload :=
  [(.str "quote", sampleBlock 10 11 1786543200000), (.str "extended", sampleBlock 12 13 1786543300000)]

def quotedAt (symbol : String) (payload : Payload) : Result QuoteV1 :=
  normalizeQuote noLiterals symbol payload 1786543400000000 (.finite 300)

theorem quote_one_session_sample :
    (∃ quote, quotedAt "AAPL" sampleQuote = .ok quote ∧ quote.bid = some (.finite 12) ∧
      (quote.stale = true ↔ Stale (.finite 300) quote)) ∧
    ∃ quote moved, quotedAt "XSP   261007P00767000" sampleQuote = .ok quote ∧
      quotedAt "XSP   261007P00767000" (sampleQuote.take 1) = .ok moved ∧
      quote.bid = some (.finite 10) ∧ moved.bid = quote.bid := by
  constructor
  · obtain ⟨quote, accepted, bid⟩ := ok_of_part (quotedAt "AAPL" sampleQuote)
      (fun quote => quote.bid) (some (.finite 12)) (by decide +kernel)
    exact ⟨quote, accepted, bid, (quote_one_session noLiterals "AAPL" sampleQuote 1786543400000000
      (.finite 300) quote accepted).2.1⟩
  · obtain ⟨quote, accepted, bid⟩ := ok_of_part (quotedAt "XSP   261007P00767000" sampleQuote)
      (fun quote => quote.bid) (some (.finite 10)) (by decide +kernel)
    obtain ⟨moved, again, _⟩ := ok_of_part (quotedAt "XSP   261007P00767000" (sampleQuote.take 1))
      (fun quote => quote.bid) (some (.finite 10)) (by decide +kernel)
    obtain ⟨_, _, unmoved⟩ := quote_one_session noLiterals "XSP   261007P00767000" sampleQuote
      1786543400000000 (.finite 300) quote accepted
    exact ⟨quote, moved, accepted, again, bid, (unmoved (by decide +kernel) (sampleQuote.take 1) moved
      (fun _ _ _ => rfl) again).1⟩

end SchwabGateway.Upstream
