import SchwabGateway.Upstream.ChainMetadata
import SchwabGateway.Upstream.OptionContract

set_option autoImplicit false

namespace SchwabGateway.Upstream

open SchwabGateway.Library SchwabGateway.Python

def maxOptionChainContracts : Nat := 5000

def countOf (optionType : OptionType) (contracts : List OptionContractV1) : Nat :=
  contracts.countP (fun contract => contract.optionType = optionType)

def strikeCount (contracts : List OptionContractV1) : Nat :=
  (contracts.map fun contract => contract.strike).dedup.length

-- contracts_must_be_bounded and counts_must_match_delivered_contracts.
structure Complete (contracts : List OptionContractV1) (calls puts strikes : Nat) : Prop where
  nonempty : contracts ≠ []
  bounded : contracts.length ≤ maxOptionChainContracts
  bothSides : 1 ≤ countOf .call contracts ∧ 1 ≤ countOf .put contracts
  callsCounted : calls = countOf .call contracts
  putsCounted : puts = countOf .put contracts
  strikesCounted : strikes = strikeCount contracts
  unique : (contracts.map fun contract => contract.symbol).Nodup

structure OptionChainV1 extends Freshness where
  symbol : String
  expiration : Date
  underlyingPrice : Option {price : ℚ // 0 < price}
  callContractCount : Nat
  putContractCount : Nat
  strikeCount : Nat
  contracts : List OptionContractV1
  gatewayReceivedAt : Datetime
  source : String
  complete : Complete contracts callContractCount putContractCount strikeCount

-- The rest of the constructor call once the contracts are there.
structure ChainArguments where
  symbol : String
  expiration : Date
  underlyingPrice : Option PyFloat
  callContractCount : Nat
  putContractCount : Nat
  strikeCount : Nat
  contracts : List OptionContractV1
  gatewayReceivedAt : Datetime
  source : String

abbrev ChainArguments.Complete (arguments : ChainArguments) : Prop :=
  Upstream.Complete arguments.contracts arguments.callContractCount arguments.putContractCount
    arguments.strikeCount

def OptionChainV1.build (arguments : ChainArguments) (freshness : Freshness)
    (underlyingPrice : Option {price : ℚ // 0 < price}) (complete : arguments.Complete) : OptionChainV1 where
  toFreshness := freshness
  symbol := arguments.symbol
  expiration := arguments.expiration
  underlyingPrice := underlyingPrice
  callContractCount := arguments.callContractCount
  putContractCount := arguments.putContractCount
  strikeCount := arguments.strikeCount
  contracts := arguments.contracts
  gatewayReceivedAt := arguments.gatewayReceivedAt
  source := arguments.source
  complete := complete

def underlyingPrice (arguments : ChainArguments) : Result (Option {price : ℚ // 0 < price}) :=
  nullable (positive "underlying_price" "underlying price must be finite and positive")
    arguments.underlyingPrice

def OptionChainV1.validated (arguments : ChainArguments) (freshness : Freshness) :
    Result OptionChainV1 := do
  let price ← Upstream.underlyingPrice arguments
  let contracts := arguments.contracts
  if nonempty : contracts ≠ [] then
    if bounded : contracts.length ≤ maxOptionChainContracts then
      if bothSides : 1 ≤ countOf .call contracts ∧ 1 ≤ countOf .put contracts then
        if counted : arguments.callContractCount = countOf .call contracts ∧
            arguments.putContractCount = countOf .put contracts ∧
            arguments.strikeCount = Upstream.strikeCount contracts then
          if unique : (contracts.map fun contract => contract.symbol).Nodup then
            return build arguments freshness price
              ⟨nonempty, bounded, bothSides, counted.1, counted.2.1, counted.2.2, unique⟩
          else throw (.validation "" "option chain contract symbols must be unique")
        else throw (.validation "" "option chain counts must match delivered contracts")
      else throw (.validation "contracts" "option chain must contain both call and put contracts")
    else throw (.validation "contracts" "option chain must contain at most 5000 contracts")
  else throw (.validation "contracts" "option chain must contain contracts")

theorem chain_validated_ok (arguments : ChainArguments) (freshness : Freshness) (chain : OptionChainV1)
    (valid : OptionChainV1.validated arguments freshness = .ok chain) :
    ∃ price, underlyingPrice arguments = .ok price ∧
      ∃ complete, chain = .build arguments freshness price complete := by
  unfold OptionChainV1.validated at valid
  obtain ⟨price, priced, valid⟩ := (bind_ok_iff _ _ _).mp valid
  refine ⟨price, priced, ?_⟩
  dsimp only at valid
  split at valid
  · split at valid
    · split at valid
      · split at valid
        · split at valid
          · cases valid
            exact ⟨_, rfl⟩
          · cases valid
        · cases valid
      · cases valid
    · cases valid
  · cases valid

theorem chain_validated_complete (arguments : ChainArguments) (freshness : Freshness)
    (price : Option {price : ℚ // 0 < price}) (priced : underlyingPrice arguments = .ok price)
    (complete : arguments.Complete) :
    OptionChainV1.validated arguments freshness = .ok (.build arguments freshness price complete) := by
  have counted := And.intro complete.callsCounted (And.intro complete.putsCounted complete.strikesCounted)
  unfold OptionChainV1.validated
  rw [priced]
  dsimp only [bind, Except.bind]
  rw [dif_pos complete.nonempty, dif_pos complete.bounded, dif_pos complete.bothSides, dif_pos counted,
    dif_pos complete.unique]
  rfl

section Reading

variable (literals : Literals)

-- What iterating _expiration_options meets, one after the other: a contract
-- with its strike, or the error at which the generator ends.
abbrev Yield := Result (PyFloat × Payload)

def yieldOption (strike : PyFloat) : PyValue → Yield
  | .dict option => .ok (strike, option)
  | _ => .error (.valueError "option-chain contract was not an object")

def yieldStrike (strikeText options : PyValue) : List Yield :=
  match toFloat literals strikeText with
  | .ok strike =>
      match options with
      | .list options => options.map (yieldOption strike)
      | _ => [.error (.valueError "option-chain contracts were not a list")]
  | .error .overflowError => [.error .overflowError]
  | .error _ => [.error (.valueError "option-chain strike was not numeric")]

def yieldExpiration (expirationText : String) (key strikeMap : PyValue) : List Yield :=
  match key with
  | .str key =>
      if mentions key expirationText then
        match strikeMap with
        | .dict strikes => strikes.flatMap fun (strikeText, options) => yieldStrike literals strikeText options
        | _ => [.error (.valueError "option-chain strike map was not an object")]
      else []
  | _ => [.error (.valueError "option-chain expiration key was not a string")]

def expirationOptions (payload : Payload) (mapKey expirationText : String) : List Yield :=
  match PyValue.get payload mapKey with
  | .none => []
  | .dict expirations =>
      expirations.flatMap fun (key, strikeMap) => yieldExpiration literals expirationText key strikeMap
  | _ => [.error (.valueError (mapKey ++ " was not an object"))]

variable (expiration : Date) (receivedAt : Datetime) (staleAfterSeconds : PyFloat)

def appendContracts (optionType : OptionType) :
    List Yield → List OptionContractV1 → Result (List OptionContractV1)
  | [], contracts => return contracts
  | next :: rest, contracts => do
      let (strike, option) ← next
      if maxOptionChainContracts ≤ contracts.length then
        throw (.valueError "option chain exceeded the maximum contract count")
      else do
        let contract ←
          normalizeContract literals option optionType expiration strike receivedAt staleAfterSeconds
        appendContracts optionType rest (contracts ++ [contract])

def timestamps (contracts : List OptionContractV1) : List Datetime :=
  contracts.filterMap fun contract => contract.eventTimestamp

def staleCount (contracts : List OptionContractV1) : Nat :=
  contracts.countP fun contract => contract.stale

def allStale (contracts : List OptionContractV1) : Bool :=
  contracts.isEmpty || staleCount contracts = contracts.length

def staleFlags (contracts : List OptionContractV1) : List String :=
  let stale := allStale contracts
  flagIf (staleCount contracts ≠ 0 && !stale) "stale_contracts_present" ++ flagIf stale "stale"

def chainFlags (fields : ChainMetadataFields) (contracts : List OptionContractV1) : List String :=
  let allTimestamped := !contracts.isEmpty && (timestamps contracts).length = contracts.length
  let crossed := contracts.any fun contract =>
    contract.dataQualityFlags.contains "crossed_market_normalized"
  fields.dataQualityFlags.filter (· ≠ "missing_event_timestamp") ++
    flagIf (!allTimestamped) "missing_contract_event_timestamp" ++
    flagIf crossed "crossed_markets_normalized"

def chainFreshness (fields : ChainMetadataFields) (contracts : List OptionContractV1) : Freshness :=
  let eventTimestamp := (timestamps contracts).max?
  { eventTimestamp := eventTimestamp
    ageSeconds := ageSeconds eventTimestamp receivedAt
    stale := allStale contracts
    dataQualityFlags := chainFlags fields contracts ++ staleFlags contracts }

def chainArguments (symbol : String) (fields : ChainMetadataFields) (contracts : List OptionContractV1) :
    ChainArguments where
  symbol := symbol
  expiration := expiration
  underlyingPrice := fields.underlyingPrice
  callContractCount := countOf .call contracts
  putContractCount := countOf .put contracts
  strikeCount := strikeCount contracts
  contracts := contracts
  gatewayReceivedAt := receivedAt
  source := "schwab_rest_option_chain"

def normalizeOptionChain (symbol : String) (payload : PyValue) : Result OptionChainV1 := do
  let fields ← extractChainMetadata literals payload expiration
  match payload with
  | .dict payload => do
      let text := expiration.isoformat
      let calls ←
        appendContracts literals expiration receivedAt staleAfterSeconds .call
          (expirationOptions literals payload "callExpDateMap" text) []
      let contracts ←
        appendContracts literals expiration receivedAt staleAfterSeconds .put
          (expirationOptions literals payload "putExpDateMap" text) calls
      OptionChainV1.validated (chainArguments expiration receivedAt symbol fields contracts)
        (chainFreshness receivedAt fields contracts)
  | _ => throw (.valueError "option chain payload must be an object")

end Reading

end SchwabGateway.Upstream
