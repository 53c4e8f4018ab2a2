import Mathlib.Data.List.Dedup
import SchwabGateway.Library.Except
import SchwabGateway.Upstream.Freshness
import SchwabGateway.Upstream.Numbers

set_option autoImplicit false

namespace SchwabGateway.Upstream

open SchwabGateway.Library SchwabGateway.Python

structure ChainMetadataFields where
  underlyingPrice : Option PyFloat
  callContractCount : Nat
  putContractCount : Nat
  strikeCount : Nat
  eventTimestamp : Option Datetime
  dataQualityFlags : List String
deriving DecidableEq

section Extraction

variable (literals : Literals)

-- _epoch_millis: unlike _event_time it lets the errors of fromtimestamp out.
def epochMillis (payload : Payload) (name : String) : Result (Option Datetime) := do
  match ← optional (toInt literals (PyValue.get payload name)) with
  | none => return none
  | some millis => if millis ≤ 0 then return none else return some (← timestamp millis)

def underlyingEventTime (payload : Payload) : Result (Option Datetime) :=
  match PyValue.get payload "underlying" with
  | .dict underlying => do
      let quote ← epochMillis literals underlying "quoteTime"
      let trade ← epochMillis literals underlying "tradeTime"
      match quote, trade with
      | some quote, some trade => return some (max quote trade)
      | some quote, none => return some quote
      | none, trade => return trade
  | _ => return none

-- expiration_text in exp_key.
def mentions (key expirationText : String) : Bool := expirationText.toList <:+: key.toList

-- One strike of one expiration: its option list counts if the key is a number.
def countStrike (strikeText options : PyValue) : Result (Option (PyFloat × Nat)) :=
  match options with
  | .list options => do
      match ← optional (toFloat literals strikeText) with
      | none => return none
      | some strike => if options.isEmpty then return none else return some (strike, options.length)
  | _ => return none

def countStrikes : Payload → Result (Nat × List PyFloat)
  | [] => return (0, [])
  | (strikeText, options) :: rest => do
      let first ← countStrike literals strikeText options
      let (contracts, strikes) ← countStrikes rest
      match first with
      | none => return (contracts, strikes)
      | some (strike, here) => return (here + contracts, strike :: strikes)

def countExpirations (expirationText : String) : Payload → Result (Nat × List PyFloat)
  | [] => return (0, [])
  | (.str key, .dict strikeMap) :: rest => do
      let (here, hereStrikes) ←
        (if mentions key expirationText then countStrikes literals strikeMap else .ok (0, []))
      let (contracts, strikes) ← countExpirations expirationText rest
      return (here + contracts, hereStrikes ++ strikes)
  | _ :: rest => countExpirations expirationText rest

def countExpiration (expirationMap : PyValue) (expiration : Date) : Result (Nat × List PyFloat) :=
  match expirationMap with
  | .dict expirations => countExpirations literals expiration.isoformat expirations
  | _ => return (0, [])

def metadataFlags (underlyingPrice : Option PyFloat) (calls puts : Nat) (event : Option Datetime) :
    List String :=
  flagIf underlyingPrice.isNone "missing_underlying_price" ++
    flagIf (calls = 0) "missing_call_contracts" ++
    flagIf (puts = 0) "missing_put_contracts" ++
    flagIf event.isNone "missing_event_timestamp"

-- len of a set of floats: no two NaN are equal.
def distinctFloats (strikes : List PyFloat) : Nat :=
  (strikes.filter (· ≠ .nan)).dedup.length + strikes.count .nan

def extractChainMetadata (payload : PyValue) (expiration : Date) : Result ChainMetadataFields :=
  match payload with
  | .dict payload => do
      let (calls, callStrikes) ←
        countExpiration literals (PyValue.get payload "callExpDateMap") expiration
      let (puts, putStrikes) ←
        countExpiration literals (PyValue.get payload "putExpDateMap") expiration
      let underlyingPrice ← number literals payload "underlyingPrice"
      let eventTimestamp ← underlyingEventTime literals payload
      return {
        underlyingPrice := underlyingPrice
        callContractCount := calls
        putContractCount := puts
        strikeCount := distinctFloats (callStrikes ++ putStrikes)
        eventTimestamp := eventTimestamp
        dataQualityFlags := metadataFlags underlyingPrice calls puts eventTimestamp }
  | _ => .error (.valueError "option chain payload must be an object")

structure ChainMetadataV1 extends Freshness where
  symbol : String
  expiration : Date
  underlyingPrice : Option PyFloat
  callContractCount : Nat
  putContractCount : Nat
  strikeCount : Nat
  gatewayReceivedAt : Datetime
  source : String
deriving DecidableEq

def chainMetadata (symbol : String) (fields : ChainMetadataFields) (expiration : Date)
    (receivedAt : Datetime) (staleAfterSeconds : PyFloat) : ChainMetadataV1 where
  toFreshness :=
    .evaluated fields.eventTimestamp fields.dataQualityFlags receivedAt staleAfterSeconds
  symbol := symbol
  expiration := expiration
  underlyingPrice := fields.underlyingPrice
  callContractCount := fields.callContractCount
  putContractCount := fields.putContractCount
  strikeCount := fields.strikeCount
  gatewayReceivedAt := receivedAt
  source := "schwab_rest_chain"

def normalizeChainMetadata (symbol : String) (payload : PyValue) (expiration : Date)
    (receivedAt : Datetime) (staleAfterSeconds : PyFloat) : Result ChainMetadataV1 := do
  let fields ← extractChainMetadata literals payload expiration
  return chainMetadata symbol fields expiration receivedAt staleAfterSeconds

end Extraction

theorem metadata_flags_mem (underlyingPrice : Option PyFloat) (calls puts : Nat)
    (event : Option Datetime) (flag : String)
    (member : flag ∈ metadataFlags underlyingPrice calls puts event) :
    flag = "missing_underlying_price" ∨ flag = "missing_call_contracts" ∨
      flag = "missing_put_contracts" ∨ flag = "missing_event_timestamp" := by
  simp only [metadataFlags, List.mem_append, mem_flag_if] at member
  obtain ((⟨_, same⟩ | ⟨_, same⟩) | ⟨_, same⟩) | ⟨_, same⟩ := member
  · exact .inl same
  · exact .inr (.inl same)
  · exact .inr (.inr (.inl same))
  · exact .inr (.inr (.inr same))

theorem extracted_flags_mem (literals : Literals) (payload : PyValue) (expiration : Date)
    (fields : ChainMetadataFields) (extracted : extractChainMetadata literals payload expiration = .ok fields)
    (flag : String) (member : flag ∈ fields.dataQualityFlags) :
    flag = "missing_underlying_price" ∨ flag = "missing_call_contracts" ∨
      flag = "missing_put_contracts" ∨ flag = "missing_event_timestamp" := by
  unfold extractChainMetadata at extracted
  split at extracted
  · obtain ⟨⟨calls, _⟩, _, extracted⟩ := (bind_ok_iff _ _ _).mp extracted
    obtain ⟨⟨puts, _⟩, _, extracted⟩ := (bind_ok_iff _ _ _).mp extracted
    obtain ⟨price, _, extracted⟩ := (bind_ok_iff _ _ _).mp extracted
    obtain ⟨event, _, extracted⟩ := (bind_ok_iff _ _ _).mp extracted
    cases extracted
    exact metadata_flags_mem price calls puts event flag member
  · cases extracted

end SchwabGateway.Upstream
