import SchwabGateway.Upstream.ModelWire

set_option autoImplicit false

namespace SchwabGateway.Upstream

open SchwabGateway.Library SchwabGateway.Python

def OptionType.text : OptionType → String
  | .call => "CALL"
  | .put => "PUT"

def OptionType.read : Json.Reader OptionType
  | _, .text "CALL" => .ok .call
  | _, .text "PUT" => .ok .put
  | field, _ => .error (.validation field "Input should be 'CALL' or 'PUT'")

-- _require_finite_nonnegative_age: a number that JSON spells is finite.
def readFiniteAge : Json.Reader ℚ≥0
  | field, .float age =>
      if 0 ≤ age then .ok age.toNNRat
      else .error (.validation field "age_seconds must be finite and nonnegative")
  | field, .int age =>
      if 0 ≤ age then .ok (roundDouble age).toNNRat
      else .error (.validation field "age_seconds must be finite and nonnegative")
  | field, _ => .error (.validation field "Input should be a valid number")

def optionalFiniteAge (fields : List (String × Json)) : Result (Option ℚ≥0) :=
  Json.defaulted fields "age_seconds" none (Json.readNullable readFiniteAge)

def rationalOrNull : Option ℚ → Json := Json.ofOption Json.float
def priceOrNull : Option ℚ≥0 → Json := Json.ofOption fun price => .float price
def countOrNull : Option Nat → Json := Json.ofOption fun number => .int number

namespace OptionContractV1

def entries (contract : OptionContractV1) : List (String × Json) :=
  [("symbol", .text contract.symbol),
    ("option_type", .text contract.optionType.text),
    ("expiration", .date contract.expiration),
    ("strike", .float contract.strike),
    ("bid", .float contract.bid),
    ("ask", .float contract.ask),
    ("mark", .float contract.mark),
    ("last", priceOrNull contract.last),
    ("total_volume", countOrNull contract.totalVolume),
    ("open_interest", countOrNull contract.openInterest),
    ("volatility", rationalOrNull contract.volatility),
    ("delta", rationalOrNull contract.delta),
    ("gamma", rationalOrNull contract.gamma),
    ("theta", rationalOrNull contract.theta),
    ("vega", rationalOrNull contract.vega),
    ("bid_size", countOrNull contract.bidSize),
    ("ask_size", countOrNull contract.askSize),
    ("rho", rationalOrNull contract.rho),
    ("intrinsic_value", priceOrNull contract.intrinsicValue),
    ("time_value", priceOrNull contract.timeValue),
    ("in_the_money", .ofOption .bool contract.inTheMoney),
    ("days_to_expiration", countOrNull contract.daysToExpiration),
    ("multiplier", rationalOrNull contract.multiplier),
    ("theoretical_option_value", rationalOrNull contract.theoreticalOptionValue),
    ("event_timestamp", timeOrNull contract.eventTimestamp),
    ("stale", .bool contract.stale),
    ("age_seconds", ageOrNull contract.ageSeconds),
    ("data_quality_flags", flagsArray contract.dataQualityFlags)]

def modelDump (contract : OptionContractV1) : Json := .object contract.entries

def fieldNames : List String :=
  ["symbol", "option_type", "expiration", "strike", "bid", "ask", "mark", "last", "total_volume",
    "open_interest", "volatility", "delta", "gamma", "theta", "vega", "bid_size", "ask_size", "rho",
    "intrinsic_value", "time_value", "in_the_money", "days_to_expiration", "multiplier",
    "theoretical_option_value", "event_timestamp", "stale", "age_seconds", "data_quality_flags"]

def flagValue : Option Bool → PyValue
  | none => .none
  | some flag => .bool flag

def modelValidate : Json.Reader OptionContractV1
  | _, .object fields => do
      let symbol ← Json.required fields "symbol" Json.readText
      let optionType ← Json.required fields "option_type" OptionType.read
      let expiration ← Json.required fields "expiration" Json.readDate
      let strike ← Json.required fields "strike" Json.readFloat
      let bid ← Json.required fields "bid" Json.readFloat
      let ask ← Json.required fields "ask" Json.readFloat
      let mark ← Json.required fields "mark" Json.readFloat
      let last ← optionalFloat fields "last"
      let totalVolume ← optionalInt fields "total_volume"
      let openInterest ← optionalInt fields "open_interest"
      let volatility ← optionalFloat fields "volatility"
      let delta ← optionalFloat fields "delta"
      let gamma ← optionalFloat fields "gamma"
      let theta ← optionalFloat fields "theta"
      let vega ← optionalFloat fields "vega"
      let bidSize ← optionalInt fields "bid_size"
      let askSize ← optionalInt fields "ask_size"
      let rho ← optionalFloat fields "rho"
      let intrinsicValue ← optionalFloat fields "intrinsic_value"
      let timeValue ← optionalFloat fields "time_value"
      let inTheMoney ← Json.defaulted fields "in_the_money" none (Json.readNullable Json.readBool)
      let daysToExpiration ← optionalInt fields "days_to_expiration"
      let multiplier ← optionalFloat fields "multiplier"
      let theoreticalOptionValue ← optionalFloat fields "theoretical_option_value"
      let eventTimestamp ← optionalTime fields
      let stale ← Json.required fields "stale" Json.readBool
      let ageSeconds ← optionalFiniteAge fields
      let dataQualityFlags ← qualityFlags fields
      Json.onlyFields fieldNames fields
      validated
        { symbol := .str symbol
          inTheMoney := flagValue inTheMoney
          bid := some bid
          ask := some ask
          mark := some mark
          optionType, expiration, strike, last, totalVolume, openInterest, volatility, delta, gamma,
          theta, vega, bidSize, askSize, rho, intrinsicValue, timeValue, daysToExpiration, multiplier,
          theoreticalOptionValue }
        { eventTimestamp, ageSeconds, stale, dataQualityFlags }
  | field, _ => .error (notObject field)

def arguments (contract : OptionContractV1) : ContractArguments where
  symbol := .str contract.symbol
  optionType := contract.optionType
  expiration := contract.expiration
  strike := .finite contract.strike
  bid := some (.finite contract.bid)
  ask := some (.finite contract.ask)
  mark := some (.finite contract.mark)
  last := contract.last.map fun price : ℚ≥0 => .finite price
  totalVolume := contract.totalVolume.map Int.ofNat
  openInterest := contract.openInterest.map Int.ofNat
  volatility := contract.volatility.map .finite
  delta := contract.delta.map .finite
  gamma := contract.gamma.map .finite
  theta := contract.theta.map .finite
  vega := contract.vega.map .finite
  bidSize := contract.bidSize.map Int.ofNat
  askSize := contract.askSize.map Int.ofNat
  rho := contract.rho.map .finite
  intrinsicValue := contract.intrinsicValue.map fun price : ℚ≥0 => .finite price
  timeValue := contract.timeValue.map fun price : ℚ≥0 => .finite price
  inTheMoney := flagValue contract.inTheMoney
  daysToExpiration := contract.daysToExpiration.map Int.ofNat
  multiplier := contract.multiplier.map .finite
  theoreticalOptionValue := contract.theoreticalOptionValue.map .finite

end OptionContractV1

section Readers

variable (field : String)

theorem read_rational (value : Option ℚ) :
    Json.readNullable Json.readFloat field (rationalOrNull value) = .ok (value.map .finite) := by
  cases value with
  | none => rfl
  | some number => rfl

theorem read_price (value : Option ℚ≥0) :
    Json.readNullable Json.readFloat field (priceOrNull value) =
      .ok (value.map fun price : ℚ≥0 => .finite price) := by
  cases value with
  | none => rfl
  | some price => rfl

theorem read_count (value : Option Nat) :
    Json.readNullable Json.readInt field (countOrNull value) = .ok (value.map Int.ofNat) := by
  cases value with
  | none => rfl
  | some number => rfl

theorem read_flag (value : Option Bool) :
    Json.readNullable Json.readBool field (Json.ofOption .bool value) = .ok value := by
  cases value with
  | none => rfl
  | some flag => rfl

theorem read_time (value : Option Datetime) :
    Json.readNullable Json.readDatetime field (timeOrNull value) = .ok value := by
  cases value with
  | none => rfl
  | some at_ => rfl

theorem read_optional_age (value : Option ℚ≥0) :
    Json.readNullable readAge field (ageOrNull value) = .ok value :=
  nullable_option readAge (fun age : ℚ≥0 => .float age) field value (fun _ same => Json.noConfusion same)
    (read_age field)

theorem read_finite_age (age : ℚ≥0) : readFiniteAge field (.float age) = .ok age := by
  rw [readFiniteAge, if_pos (NNRat.coe_nonneg age), NNRat.toNNRat_coe]

theorem read_optional_finite_age (value : Option ℚ≥0) :
    Json.readNullable readFiniteAge field (ageOrNull value) = .ok value :=
  nullable_option readFiniteAge (fun age : ℚ≥0 => .float age) field value
    (fun _ same => Json.noConfusion same) (read_finite_age field)

theorem read_flags (flags : List String) :
    Json.readArray Json.readText field (flagsArray flags) = .ok flags :=
  Json.read_items_map Json.readText .text field flags (fun _ _ => rfl)

theorem read_option_type (optionType : OptionType) :
    OptionType.read field (.text optionType.text) = .ok optionType := by
  cases optionType with
  | call => rfl
  | put => rfl

end Readers

section Validators

variable (field message : String)

theorem nonnegative_finite (price : ℚ≥0) : nonnegative field message (.finite price) = .ok price := by
  rw [nonnegative, if_pos (NNRat.coe_nonneg price), NNRat.toNNRat_coe]

theorem positive_finite (price : {price : ℚ // 0 < price}) :
    positive field message (.finite price) = .ok price := by
  rw [positive, dif_pos price.2]

theorem nullable_nonnegative (value : Option ℚ≥0) :
    nullable (nonnegative field message) (value.map fun price : ℚ≥0 => .finite price) = .ok value := by
  cases value with
  | none => rfl
  | some price => rw [Option.map_some, nullable, nonnegative_finite]; rfl

theorem nullable_finite (value : Option ℚ) :
    nullable (finiteNumber field message) (value.map .finite) = .ok value := by
  cases value with
  | none => rfl
  | some number => rfl

theorem count_written (number : Nat) : count field message (number : Int) = .ok number := by
  rw [count, if_pos (Int.natCast_nonneg number), Int.toNat_natCast]

theorem nullable_count (value : Option Nat) :
    nullable (count field message) (value.map Int.ofNat) = .ok value := by
  cases value with
  | none => rfl
  | some number => rfl

theorem boolean_flag (value : Option Bool) : boolean field (OptionContractV1.flagValue value) = .ok value := by
  cases value with
  | none => rfl
  | some flag => rfl

theorem contract_symbol_text (symbol : String) (named : blank symbol = false) :
    contractSymbol field (.str symbol) = .ok ⟨symbol, named⟩ := by
  rw [contractSymbol, dif_pos named]

end Validators

theorem contract_revalidated (contract : OptionContractV1) :
    OptionContractV1.validated contract.arguments contract.toFreshness = .ok contract := by
  unfold OptionContractV1.validated OptionContractV1.arguments
  simp only [contract_symbol_text _ _ contract.symbolNotEmpty, positive_finite, present, nonnegative_finite,
    nullable_nonnegative, nullable_count, nullable_finite, boolean_flag, bind, Except.bind]
  rw [dif_pos contract.bidAtMostAsk]
  rfl

theorem contract_round_trip (field : String) (contract : OptionContractV1) :
    OptionContractV1.modelValidate field contract.modelDump = .ok contract := by
  obtain ⟨fields, whole⟩ : ∃ fields, contract.entries = fields := ⟨_, rfl⟩
  obtain ⟨found, known⟩ :=
    Json.whole_object OptionContractV1.fieldNames (by decide +kernel) contract.entries fields whole rfl
  simp only [OptionContractV1.entries, List.forall_mem_cons] at found
  unfold OptionContractV1.modelValidate OptionContractV1.modelDump
  rw [whole]
  simp only [Json.required, Json.defaulted, optionalFloat, optionalInt, optionalTime, optionalFiniteAge,
    qualityFlags, found, known, Json.readText, Json.readDate, Json.readFloat, Json.readBool, read_option_type,
    read_rational, read_price, read_count, read_flag, read_time, read_optional_finite_age, read_flags,
    bind, Except.bind]
  exact contract_revalidated contract

namespace OptionChainV1

def entries (chain : OptionChainV1) : List (String × Json) :=
  [("symbol", .text chain.symbol),
    ("expiration", .date chain.expiration),
    ("underlying_price", .ofOption (fun price : {price : ℚ // 0 < price} => .float price) chain.underlyingPrice),
    ("call_contract_count", .int chain.callContractCount),
    ("put_contract_count", .int chain.putContractCount),
    ("strike_count", .int chain.strikeCount),
    ("contracts", .array (chain.contracts.map OptionContractV1.modelDump)),
    ("event_timestamp", timeOrNull chain.eventTimestamp),
    ("gateway_received_at", .datetime chain.gatewayReceivedAt),
    ("source", .text chain.source),
    ("stale", .bool chain.stale),
    ("age_seconds", ageOrNull chain.ageSeconds),
    ("data_quality_flags", flagsArray chain.dataQualityFlags)]

def modelDump (chain : OptionChainV1) : Json := .object chain.entries

def fieldNames : List String :=
  ["symbol", "expiration", "underlying_price", "call_contract_count", "put_contract_count",
    "strike_count", "contracts", "event_timestamp", "gateway_received_at", "source", "stale",
    "age_seconds", "data_quality_flags"]

def countsMessage : String := "option chain counts must be nonnegative"

def modelValidate : Json.Reader OptionChainV1
  | _, .object fields => do
      let symbol ← Json.required fields "symbol" Json.readText
      let expiration ← Json.required fields "expiration" Json.readDate
      let underlyingPrice ← optionalFloat fields "underlying_price"
      let callContractCount ← requiredCount fields countsMessage "call_contract_count"
      let putContractCount ← requiredCount fields countsMessage "put_contract_count"
      let strikeCount ← requiredCount fields countsMessage "strike_count"
      let contracts ← Json.required fields "contracts" (Json.readArray OptionContractV1.modelValidate)
      let eventTimestamp ← optionalTime fields
      let gatewayReceivedAt ← Json.required fields "gateway_received_at" Json.readDatetime
      let source ← Json.required fields "source" Json.readText
      let stale ← Json.required fields "stale" Json.readBool
      let ageSeconds ← optionalFiniteAge fields
      let dataQualityFlags ← qualityFlags fields
      Json.onlyFields fieldNames fields
      validated
        { symbol, expiration, underlyingPrice, callContractCount, putContractCount, strikeCount,
          contracts, gatewayReceivedAt, source }
        { eventTimestamp, ageSeconds, stale, dataQualityFlags }
  | field, _ => .error (notObject field)

def arguments (chain : OptionChainV1) : ChainArguments where
  symbol := chain.symbol
  expiration := chain.expiration
  underlyingPrice := chain.underlyingPrice.map fun price : {price : ℚ // 0 < price} => .finite price
  callContractCount := chain.callContractCount
  putContractCount := chain.putContractCount
  strikeCount := chain.strikeCount
  contracts := chain.contracts
  gatewayReceivedAt := chain.gatewayReceivedAt
  source := chain.source

end OptionChainV1

theorem read_positive (field : String) (value : Option {price : ℚ // 0 < price}) :
    Json.readNullable Json.readFloat field
        (.ofOption (fun price : {price : ℚ // 0 < price} => .float price) value) =
      .ok (value.map fun price : {price : ℚ // 0 < price} => .finite price) := by
  cases value with
  | none => rfl
  | some price => rfl

theorem underlying_price_finite (chain : OptionChainV1) :
    underlyingPrice chain.arguments = .ok chain.underlyingPrice := by
  unfold underlyingPrice OptionChainV1.arguments
  cases chain.underlyingPrice with
  | none => rfl
  | some price =>
      dsimp only [Option.map_some, nullable]
      rw [positive_finite]
      rfl

theorem chain_revalidated (chain : OptionChainV1) :
    OptionChainV1.validated chain.arguments chain.toFreshness = .ok chain :=
  chain_validated_complete chain.arguments chain.toFreshness chain.underlyingPrice
    (underlying_price_finite chain) chain.complete

theorem chain_round_trip (field : String) (chain : OptionChainV1) :
    OptionChainV1.modelValidate field chain.modelDump = .ok chain := by
  obtain ⟨fields, whole⟩ : ∃ fields, chain.entries = fields := ⟨_, rfl⟩
  obtain ⟨found, known⟩ :=
    Json.whole_object OptionChainV1.fieldNames (by decide +kernel) chain.entries fields whole rfl
  have contracts : Json.readArray OptionContractV1.modelValidate "contracts"
      (.array (chain.contracts.map OptionContractV1.modelDump)) = .ok chain.contracts :=
    Json.read_items_map _ _ _ _ (fun contract _ => contract_round_trip "contracts" contract)
  simp only [OptionChainV1.entries, List.forall_mem_cons] at found
  unfold OptionChainV1.modelValidate OptionChainV1.modelDump
  rw [whole]
  simp only [Json.required, Json.defaulted, optionalFloat, requiredCount, optionalTime, optionalFiniteAge,
    qualityFlags, found, known, Json.readText, Json.readDate, Json.readInt, Json.readDatetime, Json.readBool,
    contracts, read_positive, count_written, read_time, read_optional_finite_age, read_flags,
    bind, Except.bind]
  exact chain_revalidated chain

end SchwabGateway.Upstream
