import SchwabGateway.Upstream.Freshness
import SchwabGateway.Upstream.Numbers

set_option autoImplicit false

namespace SchwabGateway.Upstream

open SchwabGateway.Python

structure SpotV1 extends Freshness where
  symbol : String
  price : Option PyFloat
  gatewayReceivedAt : Datetime
  source : String
deriving DecidableEq

-- What is stored under a key, told apart from a key that is not there.
def entry : Payload → String → Option PyValue
  | [], _ => none
  | (.str key, value) :: rest, name => if key = name then some value else entry rest name
  | _ :: rest, name => entry rest name

def truthy : PyValue → Bool
  | .none => false
  | .bool flag => flag
  | .int number => number ≠ 0
  | .float number => number ≠ .finite 0
  | .str text => text ≠ ""
  | .list items => !items.isEmpty
  | .dict entries => !entries.isEmpty
  | .object => true

def orElse (first second : PyValue) : PyValue := if truthy first then first else second

def spotInvalid : ReadError := .malformed "Schwab spot response was invalid"
def spotFailed : ReadError := .unavailable "Schwab spot request failed"

section Extraction

variable (literals : Literals)

-- One time field of a spot response. get_spot makes UpstreamMalformedError of a
-- ValueError and UpstreamUnavailableError of every other exception.
def spotTime (value : PyValue) : Except ReadError (Option Datetime) :=
  match toInt literals value with
  | .error .overflowError => .error spotFailed
  | .error _ => .ok none
  | .ok millis =>
      if millis ≤ 0 then .ok none
      else
        match fromMillis millis with
        | .ok at_ => .ok (some at_)
        | .error .valueError => .error spotInvalid
        | .error _ => .error spotFailed

def spotTimes (quote : Payload) : List String → Except ReadError (List Datetime)
  | [] => return []
  | name :: rest => do
      let time ← spotTime literals (PyValue.get quote name)
      let times ← spotTimes quote rest
      return time.toList ++ times

def spotPrice (price : PyValue) : Except ReadError PyFloat :=
  match toFloat literals price with
  | .ok price => .ok price
  | .error .valueError => .error spotInvalid
  | .error _ => .error spotFailed

def spotQuote (payload : PyValue) (symbol : String) : Except ReadError Payload :=
  match payload with
  | .dict entries =>
      let unprefixed := String.ofList (symbol.toList.dropWhile (· = '$'))
      match (entry entries symbol).getD ((entry entries unprefixed).getD (.dict [])) with
      | .dict quote =>
          match (entry quote "quote").getD (.dict quote) with
          | .dict quote => .ok quote
          | _ => .error spotInvalid
      | _ => .error spotInvalid
  | _ => .error spotInvalid

def extractSpot (payload : PyValue) (symbol : String) : Except ReadError (PyFloat × Option Datetime) := do
  let quote ← spotQuote payload symbol
  let price := orElse (orElse (PyValue.get quote "lastPrice") (PyValue.get quote "mark"))
    (PyValue.get quote "closePrice")
  if !truthy price then throw spotInvalid
  else do
    let times ← spotTimes literals quote ["quoteTime", "tradeTime", "quoteTimeInLong", "tradeTimeInLong"]
    let price ← spotPrice literals price
    return (price, times.max?)

def normalizeSpot (symbol : String) (price : Option PyFloat) (receivedAt : Datetime)
    (eventTimestamp : Option Datetime) (staleAfterSeconds : PyFloat) : SpotV1 where
  toFreshness :=
    .evaluated eventTimestamp
      (flagIf price.isNone "missing_price" ++ flagIf eventTimestamp.isNone "missing_event_timestamp")
      receivedAt staleAfterSeconds
  symbol := symbol
  price := price
  gatewayReceivedAt := receivedAt
  source := "schwab_rest_spot"

def spotStaleAfterSeconds : PyFloat := .finite 15

-- DirectSchwabSpotUpstream.get_spot, from the response on.
def getSpot (symbol : String) (response : PyValue) (receivedAt : Datetime) : Except ReadError SpotV1 := do
  let (price, eventTimestamp) ← extractSpot literals response symbol
  return normalizeSpot symbol (some price) receivedAt eventTimestamp spotStaleAfterSeconds

end Extraction

end SchwabGateway.Upstream
