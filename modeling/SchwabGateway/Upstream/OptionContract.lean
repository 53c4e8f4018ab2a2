import SchwabGateway.Library.Except
import SchwabGateway.Upstream.Freshness
import SchwabGateway.Upstream.Numbers

set_option autoImplicit false

namespace SchwabGateway.Upstream

open SchwabGateway.Library SchwabGateway.Python

inductive OptionType where
  | call
  | put
deriving DecidableEq

def isSpace (c : Char) : Bool :=
  let code := c.toNat
  (9 ≤ code && code ≤ 13) || (28 ≤ code && code ≤ 32) || code = 133 || code = 160 || code = 5760 ||
    (8192 ≤ code && code ≤ 8202) || code = 8232 || code = 8233 || code = 8239 || code = 8287 ||
    code = 12288

def blank (text : String) : Bool := text.toList.all isSpace

-- The model after its validators: a price is a nonnegative rational, a count a
-- natural number, a strike positive, so no invalid contract can be written down.
structure OptionContractV1 extends Freshness where
  symbol : String
  optionType : OptionType
  expiration : Date
  strike : {strike : ℚ // 0 < strike}
  bid : ℚ≥0
  ask : ℚ≥0
  mark : ℚ≥0
  last : Option ℚ≥0
  totalVolume : Option Nat
  openInterest : Option Nat
  volatility : Option ℚ
  delta : Option ℚ
  gamma : Option ℚ
  theta : Option ℚ
  vega : Option ℚ
  bidSize : Option Nat
  askSize : Option Nat
  rho : Option ℚ
  intrinsicValue : Option ℚ≥0
  timeValue : Option ℚ≥0
  inTheMoney : Option Bool
  daysToExpiration : Option Nat
  multiplier : Option ℚ
  theoreticalOptionValue : Option ℚ
  symbolNotEmpty : blank symbol = false
  bidAtMostAsk : bid ≤ ask
deriving DecidableEq

section Validators

variable (field : String)

def finiteNumber (message : String) : PyFloat → Result ℚ
  | .finite number => .ok number
  | _ => .error (.validation field message)

def nonnegative (message : String) : PyFloat → Result ℚ≥0
  | .finite number =>
      if 0 ≤ number then .ok number.toNNRat else .error (.validation field message)
  | _ => .error (.validation field message)

def positive (message : String) : PyFloat → Result {number : ℚ // 0 < number}
  | .finite number =>
      if above : 0 < number then .ok ⟨number, above⟩ else .error (.validation field message)
  | _ => .error (.validation field message)

def count (message : String) (number : Int) : Result Nat :=
  if 0 ≤ number then .ok number.toNat else .error (.validation field message)

def nullable {α β : Type} (validate : α → Result β) : Option α → Result (Option β)
  | none => .ok none
  | some value => (validate value).map some

def present {α β : Type} (validate : α → Result β) : Option α → Result β
  | none => .error (.validation field "Input should be a valid number")
  | some value => validate value

def contractSymbol : PyValue → Result {symbol : String // blank symbol = false}
  | .str symbol =>
      if named : blank symbol = false then .ok ⟨symbol, named⟩
      else .error (.validation field "option contract symbol must not be empty")
  | _ => .error (.validation field "Input should be a valid string")

def trueTexts : List String := ["1", "on", "t", "true", "y", "yes"]
def falseTexts : List String := ["0", "off", "f", "false", "n", "no"]

def boolean : PyValue → Result (Option Bool)
  | .none => .ok none
  | .bool flag => .ok (some flag)
  | .int 0 => .ok (some false)
  | .int 1 => .ok (some true)
  | .float number =>
      if number = .finite 0 then .ok (some false)
      else if number = .finite 1 then .ok (some true)
      else .error (.validation field "Input should be a valid boolean")
  | .str value =>
      if trueTexts.contains value.toLower then .ok (some true)
      else if falseTexts.contains value.toLower then .ok (some false)
      else .error (.validation field "Input should be a valid boolean")
  | _ => .error (.validation field "Input should be a valid boolean")

end Validators

-- The keyword arguments of the constructor call, before any validator has run.
structure ContractArguments where
  symbol : PyValue
  optionType : OptionType
  expiration : Date
  strike : PyFloat
  bid : Option PyFloat
  ask : Option PyFloat
  mark : Option PyFloat
  last : Option PyFloat
  totalVolume : Option Int
  openInterest : Option Int
  volatility : Option PyFloat
  delta : Option PyFloat
  gamma : Option PyFloat
  theta : Option PyFloat
  vega : Option PyFloat
  bidSize : Option Int
  askSize : Option Int
  rho : Option PyFloat
  intrinsicValue : Option PyFloat
  timeValue : Option PyFloat
  inTheMoney : PyValue
  daysToExpiration : Option Int
  multiplier : Option PyFloat
  theoreticalOptionValue : Option PyFloat

def countsMessage : String := "option contract counts must be nonnegative"
def strikeMessage : String := "option contract strike must be finite and positive"
def pricesMessage : String := "option contract prices must be finite and nonnegative"
def numericMessage : String := "option contract numeric fields must be finite"
def intrinsicMessage : String := "option contract intrinsic value must be finite and nonnegative"
def timeValueMessage : String := "option contract time value must be finite and nonnegative"

def OptionContractV1.validated (arguments : ContractArguments) (freshness : Freshness) :
    Result OptionContractV1 := do
  let symbol ← contractSymbol "symbol" arguments.symbol
  let strike ← positive "strike" strikeMessage arguments.strike
  let bid ← present "bid" (nonnegative "bid" pricesMessage) arguments.bid
  let ask ← present "ask" (nonnegative "ask" pricesMessage) arguments.ask
  let mark ← present "mark" (nonnegative "mark" pricesMessage) arguments.mark
  let last ← nullable (nonnegative "last" pricesMessage) arguments.last
  let totalVolume ← nullable (count "total_volume" countsMessage) arguments.totalVolume
  let openInterest ← nullable (count "open_interest" countsMessage) arguments.openInterest
  let volatility ← nullable (finiteNumber "volatility" numericMessage) arguments.volatility
  let delta ← nullable (finiteNumber "delta" numericMessage) arguments.delta
  let gamma ← nullable (finiteNumber "gamma" numericMessage) arguments.gamma
  let theta ← nullable (finiteNumber "theta" numericMessage) arguments.theta
  let vega ← nullable (finiteNumber "vega" numericMessage) arguments.vega
  let bidSize ← nullable (count "bid_size" countsMessage) arguments.bidSize
  let askSize ← nullable (count "ask_size" countsMessage) arguments.askSize
  let rho ← nullable (finiteNumber "rho" numericMessage) arguments.rho
  let intrinsicValue ←
    nullable (nonnegative "intrinsic_value" intrinsicMessage) arguments.intrinsicValue
  let timeValue ← nullable (nonnegative "time_value" timeValueMessage) arguments.timeValue
  let inTheMoney ← boolean "in_the_money" arguments.inTheMoney
  let daysToExpiration ← nullable (count "days_to_expiration" countsMessage) arguments.daysToExpiration
  let multiplier ← nullable (finiteNumber "multiplier" numericMessage) arguments.multiplier
  let theoreticalOptionValue ←
    nullable (finiteNumber "theoretical_option_value" numericMessage) arguments.theoreticalOptionValue
  if ordered : bid ≤ ask then
    return {
      toFreshness := freshness
      symbol := symbol
      optionType := arguments.optionType
      expiration := arguments.expiration
      symbolNotEmpty := symbol.2
      bidAtMostAsk := ordered
      strike, bid, ask, mark, last, totalVolume, openInterest, volatility, delta, gamma, theta, vega,
      bidSize, askSize, rho, intrinsicValue, timeValue, inTheMoney, daysToExpiration, multiplier,
      theoreticalOptionValue }
  else throw (.validation "" "option contract bid must not exceed ask")

section Reading

variable (literals : Literals)

def missingSentinel : PyFloat := .finite (-999)

def zero : PyFloat := .finite 0

def analyticNumber (payload : Payload) (name : String) : Result (Option PyFloat) := do
  let value ← number literals payload name
  return value.filter (· ≠ missingSentinel)

-- _optional_time_value and _optional_theoretical_value: a negative one is None.
def nonnegativeAnalytic (payload : Payload) (name : String) : Result (Option PyFloat) := do
  let value ← analyticNumber literals payload name
  return value.filter (fun value => !PyFloat.lt value zero)

def optionalTimeValue (payload : Payload) : Result (Option PyFloat) :=
  nonnegativeAnalytic literals payload "timeValue"

def optionalTheoreticalValue (payload : Payload) : Result (Option PyFloat) :=
  nonnegativeAnalytic literals payload "theoreticalOptionValue"

def clampedIntrinsic (value : PyFloat) : Result (Option PyFloat) :=
  if value.isfinite then .ok (some (if PyFloat.lt value zero then zero else value))
  else .error (.valueError "option-chain intrinsicValue was not finite")

def optionalIntrinsicValue (payload : Payload) : Result (Option PyFloat) :=
  match PyValue.get payload "intrinsicValue" with
  | .none => .ok none
  | .int value =>
      match floatOfInt value with
      | .ok value => clampedIntrinsic value
      | .error _ => .error .overflowError
  | .float value => clampedIntrinsic value
  | _ => .error (.valueError "option-chain intrinsicValue was not numeric")

def crossedMarket : Option PyFloat → Option PyFloat → Bool
  | some bid, some ask =>
      bid.isfinite && ask.isfinite && PyFloat.le zero bid && PyFloat.le zero ask && PyFloat.lt ask bid
  | _, _ => false

-- _normalized_bid_ask: the last part says whether the pair was swapped.
def normalizedBidAsk (payload : Payload) : Result (Option PyFloat × Option PyFloat × Bool) := do
  let bid ← number literals payload "bid"
  let ask ← number literals payload "ask"
  if crossedMarket bid ask then return (ask, bid, true)
  else return (bid, ask, false)

def eventNames : List String := ["quoteTime", "tradeTime", "quoteTimeInLong", "tradeTimeInLong"]

def eventTime (payload : Payload) : Result (Option Datetime) := do
  let values ← eventNames.mapM (integer literals payload)
  match (values.filterMap (Option.filter (0 < ·))).max? with
  | none => return none
  | some millis => return some (← timestamp millis)

def contractFlags (crossed : Bool) (eventTimestamp : Option Datetime) : List String :=
  flagIf crossed "crossed_market_normalized" ++ flagIf eventTimestamp.isNone "missing_event_timestamp"

def normalizeContract (option : Payload) (optionType : OptionType) (expiration : Date) (strike : PyFloat)
    (receivedAt : Datetime) (staleAfterSeconds : PyFloat) : Result OptionContractV1 := do
  let eventTimestamp ← eventTime literals option
  let (bid, ask, crossed) ← normalizedBidAsk literals option
  let mark ← number literals option "mark"
  let last ← number literals option "last"
  let totalVolume ← integer literals option "totalVolume"
  let openInterest ← integer literals option "openInterest"
  let volatility ← analyticNumber literals option "volatility"
  let delta ← analyticNumber literals option "delta"
  let gamma ← analyticNumber literals option "gamma"
  let theta ← analyticNumber literals option "theta"
  let vega ← analyticNumber literals option "vega"
  let bidSize ← integer literals option "bidSize"
  let askSize ← integer literals option "askSize"
  let rho ← analyticNumber literals option "rho"
  let intrinsicValue ← optionalIntrinsicValue option
  let timeValue ← optionalTimeValue literals option
  let daysToExpiration ← integer literals option "daysToExpiration"
  let multiplier ← number literals option "multiplier"
  let theoreticalOptionValue ← optionalTheoreticalValue literals option
  OptionContractV1.validated
    { symbol := PyValue.get option "symbol"
      inTheMoney := PyValue.get option "inTheMoney"
      optionType, expiration, strike, bid, ask, mark, last, totalVolume, openInterest, volatility,
      delta, gamma, theta, vega, bidSize, askSize, rho, intrinsicValue, timeValue,
      daysToExpiration, multiplier, theoreticalOptionValue }
    (.evaluated eventTimestamp (contractFlags crossed eventTimestamp) receivedAt staleAfterSeconds)

end Reading

def OptionContractV1.refreshed (contract : OptionContractV1) (evaluatedAt : Datetime)
    (staleAfterSeconds : PyFloat) : OptionContractV1 :=
  { contract with toFreshness := contract.toFreshness.refreshed evaluatedAt staleAfterSeconds }

theorem contract_flags_not_stale (crossed : Bool) (eventTimestamp : Option Datetime) :
    "stale" ∉ contractFlags crossed eventTimestamp := by
  simp [contractFlags, mem_flag_if]

theorem validated_refreshed (arguments : ContractArguments) (freshness : Freshness)
    (evaluatedAt : Datetime) (threshold : PyFloat) :
    OptionContractV1.validated arguments (freshness.refreshed evaluatedAt threshold) =
      (fun contract => contract.refreshed evaluatedAt threshold) <$>
        OptionContractV1.validated arguments freshness := by
  unfold OptionContractV1.validated
  simp only [map_bind]
  repeat (apply bind_congr; intro _)
  split
  · rfl
  · rfl

theorem normalize_contract_refreshed (literals : Literals) (option : Payload) (optionType : OptionType)
    (expiration : Date) (strike : PyFloat) (first second : Datetime) (threshold : PyFloat) :
    normalizeContract literals option optionType expiration strike second threshold =
      (fun contract => contract.refreshed second threshold) <$>
        normalizeContract literals option optionType expiration strike first threshold := by
  unfold normalizeContract
  simp only [map_bind, ← validated_refreshed]
  simp only [evaluated_refreshed _ _ first second threshold (contract_flags_not_stale _ _)]

theorem validated_freshness (arguments : ContractArguments) (freshness : Freshness)
    (contract : OptionContractV1) (valid : OptionContractV1.validated arguments freshness = .ok contract) :
    contract.toFreshness = freshness ∧ contract.optionType = arguments.optionType := by
  unfold OptionContractV1.validated at valid
  iterate 22 obtain ⟨_, _, valid⟩ := (bind_ok_iff _ _ _).mp valid
  split at valid
  · cases valid
    exact ⟨rfl, rfl⟩
  · cases valid

theorem positive_ok (field message : String) (number : PyFloat) (result : {number : ℚ // 0 < number})
    (valid : positive field message number = .ok result) : number = .finite result := by
  unfold positive at valid
  split at valid
  · split at valid
    · cases valid
      rfl
    · cases valid
  · cases valid

theorem nonnegative_ok (field message : String) (number : PyFloat) (result : ℚ≥0)
    (valid : nonnegative field message number = .ok result) : number = .finite result := by
  unfold nonnegative at valid
  split at valid
  · rename_i number
    by_cases above : 0 ≤ number
    · rw [if_pos above] at valid
      cases valid
      rw [Rat.coe_toNNRat number above]
    · rw [if_neg above] at valid
      cases valid
  · cases valid

theorem present_ok {α β : Type} (field : String) (validate : α → Result β) (value : Option α) (result : β)
    (valid : present field validate value = .ok result) :
    ∃ given, value = some given ∧ validate given = .ok result := by
  cases value with
  | none => cases valid
  | some given => exact ⟨given, rfl, valid⟩

theorem contract_symbol_ok (field : String) (value : PyValue) (result : {symbol : String // blank symbol = false})
    (valid : contractSymbol field value = .ok result) : value = .str result := by
  unfold contractSymbol at valid
  split at valid
  · split at valid
    · cases valid
      rfl
    · cases valid
  · cases valid

structure Validates (arguments : ContractArguments) (contract : OptionContractV1) : Prop where
  symbol : arguments.symbol = .str contract.symbol
  expiration : contract.expiration = arguments.expiration
  strike : arguments.strike = .finite contract.strike
  bid : arguments.bid = some (.finite contract.bid)
  ask : arguments.ask = some (.finite contract.ask)
  mark : arguments.mark = some (.finite contract.mark)

theorem validated_reads (arguments : ContractArguments) (freshness : Freshness)
    (contract : OptionContractV1) (valid : OptionContractV1.validated arguments freshness = .ok contract) :
    Validates arguments contract := by
  unfold OptionContractV1.validated at valid
  obtain ⟨symbol, symbolRead, valid⟩ := (bind_ok_iff _ _ _).mp valid
  obtain ⟨strike, strikeRead, valid⟩ := (bind_ok_iff _ _ _).mp valid
  obtain ⟨bid, bidRead, valid⟩ := (bind_ok_iff _ _ _).mp valid
  obtain ⟨ask, askRead, valid⟩ := (bind_ok_iff _ _ _).mp valid
  obtain ⟨mark, markRead, valid⟩ := (bind_ok_iff _ _ _).mp valid
  iterate 17 obtain ⟨_, _, valid⟩ := (bind_ok_iff _ _ _).mp valid
  obtain ⟨bidGiven, bidHere, bidNumber⟩ := present_ok _ _ _ _ bidRead
  obtain ⟨askGiven, askHere, askNumber⟩ := present_ok _ _ _ _ askRead
  obtain ⟨markGiven, markHere, markNumber⟩ := present_ok _ _ _ _ markRead
  split at valid
  · cases valid
    exact
      { symbol := contract_symbol_ok _ _ _ symbolRead
        expiration := rfl
        strike := positive_ok _ _ _ _ strikeRead
        bid := bidHere.trans (congrArg some (nonnegative_ok _ _ _ _ bidNumber))
        ask := askHere.trans (congrArg some (nonnegative_ok _ _ _ _ askNumber))
        mark := markHere.trans (congrArg some (nonnegative_ok _ _ _ _ markNumber)) }
  · cases valid

theorem normalize_contract_freshness (literals : Literals) (option : Payload) (optionType : OptionType)
    (expiration : Date) (strike : PyFloat) (receivedAt : Datetime) (threshold : PyFloat)
    (contract : OptionContractV1)
    (accepted : normalizeContract literals option optionType expiration strike receivedAt threshold =
      .ok contract) :
    ∃ event flags, "stale" ∉ flags ∧ contract.toFreshness = .evaluated event flags receivedAt threshold := by
  unfold normalizeContract at accepted
  obtain ⟨event, _, accepted⟩ := (bind_ok_iff _ _ _).mp accepted
  obtain ⟨⟨bid, ask, crossed⟩, _, accepted⟩ := (bind_ok_iff _ _ _).mp accepted
  iterate 17 obtain ⟨_, _, accepted⟩ := (bind_ok_iff _ _ _).mp accepted
  have freshness := (validated_freshness _ _ contract accepted).1
  exact ⟨event, contractFlags crossed event, contract_flags_not_stale crossed event, freshness⟩

structure ReadFrom (literals : Literals) (option : Payload) (optionType : OptionType) (expiration : Date)
    (strike : PyFloat) (contract : OptionContractV1) : Prop where
  symbol : PyValue.get option "symbol" = .str contract.symbol
  optionType : contract.optionType = optionType
  expiration : contract.expiration = expiration
  strike : strike = .finite contract.strike
  prices : ∃ bid ask, number literals option "bid" = .ok bid ∧ number literals option "ask" = .ok ask ∧
    ((crossedMarket bid ask = true ∧ ask = some (.finite contract.bid) ∧ bid = some (.finite contract.ask)) ∨
      (crossedMarket bid ask = false ∧ bid = some (.finite contract.bid) ∧
        ask = some (.finite contract.ask))) ∧
    ("crossed_market_normalized" ∈ contract.dataQualityFlags ↔ crossedMarket bid ask = true)
  mark : number literals option "mark" = .ok (some (.finite contract.mark))

theorem contract_flags_crossed (crossed : Bool) (eventTimestamp : Option Datetime) (receivedAt : Datetime)
    (threshold : PyFloat) :
    "crossed_market_normalized" ∈
        (Freshness.evaluated eventTimestamp (contractFlags crossed eventTimestamp) receivedAt
          threshold).dataQualityFlags ↔ crossed = true := by
  simp [Freshness.evaluated, contractFlags, mem_flag_if]

theorem normalize_contract_reads (literals : Literals) (option : Payload) (optionType : OptionType)
    (expiration : Date) (strike : PyFloat) (receivedAt : Datetime) (threshold : PyFloat)
    (contract : OptionContractV1)
    (accepted : normalizeContract literals option optionType expiration strike receivedAt threshold =
      .ok contract) : ReadFrom literals option optionType expiration strike contract := by
  unfold normalizeContract at accepted
  obtain ⟨event, _, accepted⟩ := (bind_ok_iff _ _ _).mp accepted
  obtain ⟨⟨low, high, crossed⟩, pair, accepted⟩ := (bind_ok_iff _ _ _).mp accepted
  obtain ⟨mark, markRead, accepted⟩ := (bind_ok_iff _ _ _).mp accepted
  iterate 16 obtain ⟨_, _, accepted⟩ := (bind_ok_iff _ _ _).mp accepted
  obtain ⟨freshness, side⟩ := validated_freshness _ _ contract accepted
  obtain ⟨symbol, dated, struck, bidRead, askRead, marked⟩ := validated_reads _ _ contract accepted
  dsimp only at symbol dated struck bidRead askRead marked side
  have flagged := contract_flags_crossed crossed event receivedAt threshold
  rw [← freshness] at flagged
  refine ⟨symbol, side, dated, struck, ?_, markRead.trans (congrArg _ marked)⟩
  unfold normalizedBidAsk at pair
  obtain ⟨bid, bidNumber, pair⟩ := (bind_ok_iff _ _ _).mp pair
  obtain ⟨ask, askNumber, pair⟩ := (bind_ok_iff _ _ _).mp pair
  refine ⟨bid, ask, bidNumber, askNumber, ?_⟩
  cases swapped : crossedMarket bid ask with
  | true =>
      rw [if_pos swapped] at pair
      cases pair
      exact ⟨.inl ⟨rfl, bidRead, askRead⟩, flagged⟩
  | false =>
      rw [if_neg (by simp [swapped])] at pair
      cases pair
      exact ⟨.inr ⟨rfl, bidRead, askRead⟩, flagged⟩

end SchwabGateway.Upstream
