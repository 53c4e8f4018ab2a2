import SchwabGateway.Upstream.DirectReads
import SchwabGateway.Upstream.SessionWire

set_option autoImplicit false

namespace SchwabGateway.Upstream

open SchwabGateway.Library SchwabGateway.Python

def floatOrNull : Option PyFloat → Json := Json.ofOption Json.ofFloat
def intOrNull : Option Int → Json := Json.ofOption Json.int
def ageOrNull : Option ℚ≥0 → Json := Json.ofOption fun age => .float age
def timeOrNull : Option Datetime → Json := Json.ofOption Json.datetime
def flagsArray (flags : List String) : Json := .array (flags.map .text)

section Readers

variable (fields : List (String × Json))

def optionalFloat (name : String) : Result (Option PyFloat) :=
  Json.defaulted fields name none (Json.readNullable Json.readFloat)

def optionalInt (name : String) : Result (Option Int) :=
  Json.defaulted fields name none (Json.readNullable Json.readInt)

def optionalAge : Result (Option ℚ≥0) :=
  Json.defaulted fields "age_seconds" none (Json.readNullable readAge)

def optionalTime : Result (Option Datetime) :=
  Json.defaulted fields "event_timestamp" none (Json.readNullable Json.readDatetime)

def qualityFlags : Result (List String) :=
  Json.defaulted fields "data_quality_flags" [] (Json.readArray Json.readText)

def requiredCount (message name : String) : Result Nat := do
  let number ← Json.required fields name Json.readInt
  count name message number

end Readers

def notObject (field : String) : Raised := .validation field "Input should be an object"

namespace QuoteV1

def entries (quote : QuoteV1) : List (String × Json) :=
  [("symbol", .text quote.symbol),
    ("event_timestamp", timeOrNull quote.eventTimestamp),
    ("gateway_received_at", .datetime quote.gatewayReceivedAt),
    ("source", .text quote.source),
    ("session", .ofOption .text quote.session),
    ("bid", floatOrNull quote.bid),
    ("ask", floatOrNull quote.ask),
    ("bid_size", intOrNull quote.bidSize),
    ("ask_size", intOrNull quote.askSize),
    ("last", floatOrNull quote.last),
    ("last_size", intOrNull quote.lastSize),
    ("mark", floatOrNull quote.mark),
    ("volume", intOrNull quote.volume),
    ("close", floatOrNull quote.close),
    ("net_percent_change", floatOrNull quote.netPercentChange),
    ("stale", .bool quote.stale),
    ("age_seconds", ageOrNull quote.ageSeconds),
    ("data_quality_flags", flagsArray quote.dataQualityFlags)]

def modelDump (quote : QuoteV1) : Json := .object quote.entries

def fieldNames : List String :=
  ["symbol", "event_timestamp", "gateway_received_at", "source", "session", "bid", "ask", "bid_size",
    "ask_size", "last", "last_size", "mark", "volume", "close", "net_percent_change", "stale",
    "age_seconds", "data_quality_flags"]

def modelValidate : Json.Reader QuoteV1
  | _, .object fields => do
      let symbol ← Json.required fields "symbol" Json.readText
      let eventTimestamp ← optionalTime fields
      let gatewayReceivedAt ← Json.required fields "gateway_received_at" Json.readDatetime
      let source ← Json.required fields "source" Json.readText
      let session ← Json.defaulted fields "session" none (Json.readNullable Json.readText)
      let bid ← optionalFloat fields "bid"
      let ask ← optionalFloat fields "ask"
      let bidSize ← optionalInt fields "bid_size"
      let askSize ← optionalInt fields "ask_size"
      let last ← optionalFloat fields "last"
      let lastSize ← optionalInt fields "last_size"
      let mark ← optionalFloat fields "mark"
      let volume ← optionalInt fields "volume"
      let close ← optionalFloat fields "close"
      let netPercentChange ← optionalFloat fields "net_percent_change"
      let stale ← Json.required fields "stale" Json.readBool
      let ageSeconds ← optionalAge fields
      let dataQualityFlags ← qualityFlags fields
      Json.onlyFields fieldNames fields
      return {
        eventTimestamp, ageSeconds, stale, dataQualityFlags, symbol, gatewayReceivedAt, source, session,
        bid, ask, bidSize, askSize, last, lastSize, mark, volume, close, netPercentChange }
  | field, _ => .error (notObject field)

end QuoteV1

namespace SpotV1

def entries (spot : SpotV1) : List (String × Json) :=
  [("symbol", .text spot.symbol),
    ("price", floatOrNull spot.price),
    ("event_timestamp", timeOrNull spot.eventTimestamp),
    ("gateway_received_at", .datetime spot.gatewayReceivedAt),
    ("source", .text spot.source),
    ("stale", .bool spot.stale),
    ("age_seconds", ageOrNull spot.ageSeconds),
    ("data_quality_flags", flagsArray spot.dataQualityFlags)]

def modelDump (spot : SpotV1) : Json := .object spot.entries

def fieldNames : List String :=
  ["symbol", "price", "event_timestamp", "gateway_received_at", "source", "stale", "age_seconds",
    "data_quality_flags"]

def modelValidate : Json.Reader SpotV1
  | _, .object fields => do
      let symbol ← Json.required fields "symbol" Json.readText
      let price ← optionalFloat fields "price"
      let eventTimestamp ← optionalTime fields
      let gatewayReceivedAt ← Json.required fields "gateway_received_at" Json.readDatetime
      let source ← Json.required fields "source" Json.readText
      let stale ← Json.required fields "stale" Json.readBool
      let ageSeconds ← optionalAge fields
      let dataQualityFlags ← qualityFlags fields
      Json.onlyFields fieldNames fields
      return { eventTimestamp, ageSeconds, stale, dataQualityFlags, symbol, price, gatewayReceivedAt, source }
  | field, _ => .error (notObject field)

end SpotV1

namespace ChainMetadataV1

def entries (chain : ChainMetadataV1) : List (String × Json) :=
  [("symbol", .text chain.symbol),
    ("expiration", .date chain.expiration),
    ("underlying_price", floatOrNull chain.underlyingPrice),
    ("call_contract_count", .int chain.callContractCount),
    ("put_contract_count", .int chain.putContractCount),
    ("strike_count", .int chain.strikeCount),
    ("event_timestamp", timeOrNull chain.eventTimestamp),
    ("gateway_received_at", .datetime chain.gatewayReceivedAt),
    ("source", .text chain.source),
    ("stale", .bool chain.stale),
    ("age_seconds", ageOrNull chain.ageSeconds),
    ("data_quality_flags", flagsArray chain.dataQualityFlags)]

def modelDump (chain : ChainMetadataV1) : Json := .object chain.entries

def fieldNames : List String :=
  ["symbol", "expiration", "underlying_price", "call_contract_count", "put_contract_count",
    "strike_count", "event_timestamp", "gateway_received_at", "source", "stale", "age_seconds",
    "data_quality_flags"]

def countsMessage : String := "chain metadata counts must be nonnegative"

def modelValidate : Json.Reader ChainMetadataV1
  | _, .object fields => do
      let symbol ← Json.required fields "symbol" Json.readText
      let expiration ← Json.required fields "expiration" Json.readDate
      let underlyingPrice ← optionalFloat fields "underlying_price"
      let callContractCount ← requiredCount fields countsMessage "call_contract_count"
      let putContractCount ← requiredCount fields countsMessage "put_contract_count"
      let strikeCount ← requiredCount fields countsMessage "strike_count"
      let eventTimestamp ← optionalTime fields
      let gatewayReceivedAt ← Json.required fields "gateway_received_at" Json.readDatetime
      let source ← Json.required fields "source" Json.readText
      let stale ← Json.required fields "stale" Json.readBool
      let ageSeconds ← optionalAge fields
      let dataQualityFlags ← qualityFlags fields
      Json.onlyFields fieldNames fields
      return {
        eventTimestamp, ageSeconds, stale, dataQualityFlags, symbol, expiration, underlyingPrice,
        callContractCount, putContractCount, strikeCount, gatewayReceivedAt, source }
  | field, _ => .error (notObject field)

end ChainMetadataV1

def Frequency.text : Frequency → String
  | .daily => "daily"
  | .minute => "minute"

def Frequency.read : Json.Reader Frequency
  | _, .text "daily" => .ok .daily
  | _, .text "minute" => .ok .minute
  | field, _ => .error (.validation field "Input should be 'daily' or 'minute'")

namespace HistoryV1

def entries (history : HistoryV1) : List (String × Json) :=
  [("symbol", .text history.symbol),
    ("frequency", .text history.frequency.text),
    ("bars", .array (history.bars.map PriceBarV1.modelDump)),
    ("event_timestamp", timeOrNull history.eventTimestamp),
    ("gateway_received_at", .datetime history.gatewayReceivedAt),
    ("source", .text history.source),
    ("stale", .bool history.stale),
    ("age_seconds", ageOrNull history.ageSeconds),
    ("data_quality_flags", flagsArray history.dataQualityFlags)]

def modelDump (history : HistoryV1) : Json := .object history.entries

def fieldNames : List String :=
  ["symbol", "frequency", "bars", "event_timestamp", "gateway_received_at", "source", "stale",
    "age_seconds", "data_quality_flags"]

def modelValidate : Json.Reader HistoryV1
  | _, .object fields => do
      let symbol ← Json.required fields "symbol" Json.readText
      let frequency ← Json.required fields "frequency" Frequency.read
      let bars ← Json.required fields "bars" (Json.readArray PriceBarV1.modelValidate)
      let eventTimestamp ← optionalTime fields
      let gatewayReceivedAt ← Json.required fields "gateway_received_at" Json.readDatetime
      let source ← Json.required fields "source" Json.readText
      let stale ← Json.required fields "stale" Json.readBool
      let ageSeconds ← optionalAge fields
      let dataQualityFlags ← qualityFlags fields
      Json.onlyFields fieldNames fields
      return {
        eventTimestamp, ageSeconds, stale, dataQualityFlags, symbol, frequency, bars,
        gatewayReceivedAt, source }
  | field, _ => .error (notObject field)

end HistoryV1

def MoverIndex.text : MoverIndex → String
  | .dji => "$DJI"
  | .compx => "$COMPX"
  | .spx => "$SPX"
  | .nyse => "NYSE"
  | .nasdaq => "NASDAQ"
  | .otcbb => "OTCBB"
  | .indexAll => "INDEX_ALL"
  | .equityAll => "EQUITY_ALL"
  | .optionAll => "OPTION_ALL"
  | .optionPut => "OPTION_PUT"
  | .optionCall => "OPTION_CALL"

def MoverIndex.all : List MoverIndex :=
  [.dji, .compx, .spx, .nyse, .nasdaq, .otcbb, .indexAll, .equityAll, .optionAll, .optionPut, .optionCall]

def MoverIndex.read : Json.Reader MoverIndex
  | field, .text value =>
      match MoverIndex.all.find? (fun index => index.text = value) with
      | some index => .ok index
      | none => .error (.validation field "Input should be one of the mover indexes")
  | field, _ => .error (.validation field "Input should be one of the mover indexes")

def Direction.text : Direction → String
  | .up => "up"
  | .down => "down"

def Direction.read : Json.Reader Direction
  | _, .text "up" => .ok .up
  | _, .text "down" => .ok .down
  | field, _ => .error (.validation field "Input should be 'up' or 'down'")

namespace MoverV1

def entries (mover : MoverV1) : List (String × Json) :=
  [("symbol", .text mover.symbol),
    ("last_price", floatOrNull mover.lastPrice),
    ("change", floatOrNull mover.change),
    ("change_percent", floatOrNull mover.changePercent),
    ("volume", intOrNull (mover.volume.map Int.ofNat))]

def modelDump (mover : MoverV1) : Json := .object mover.entries

def fieldNames : List String := ["symbol", "last_price", "change", "change_percent", "volume"]

def modelValidate : Json.Reader MoverV1
  | _, .object fields => do
      let symbol ← Json.required fields "symbol" Json.readText
      let lastPrice ← optionalFloat fields "last_price"
      let change ← optionalFloat fields "change"
      let changePercent ← optionalFloat fields "change_percent"
      let volume ← optionalInt fields "volume"
      let volume ← nullable (count "volume" moverVolumeMessage) volume
      Json.onlyFields fieldNames fields
      return { symbol, lastPrice, change, changePercent, volume }
  | field, _ => .error (notObject field)

end MoverV1

namespace MoversV1

def entries (movers : MoversV1) : List (String × Json) :=
  [("index", .text movers.index.text),
    ("direction", .text movers.direction.text),
    ("movers", .array (movers.movers.map MoverV1.modelDump)),
    ("event_timestamp", timeOrNull movers.eventTimestamp),
    ("gateway_received_at", .datetime movers.gatewayReceivedAt),
    ("source", .text movers.source),
    ("stale", .bool movers.stale),
    ("age_seconds", ageOrNull movers.ageSeconds),
    ("data_quality_flags", flagsArray movers.dataQualityFlags)]

def modelDump (movers : MoversV1) : Json := .object movers.entries

def fieldNames : List String :=
  ["index", "direction", "movers", "event_timestamp", "gateway_received_at", "source", "stale",
    "age_seconds", "data_quality_flags"]

def modelValidate : Json.Reader MoversV1
  | _, .object fields => do
      let index ← Json.required fields "index" MoverIndex.read
      let direction ← Json.required fields "direction" Direction.read
      let movers ← Json.required fields "movers" (Json.readArray MoverV1.modelValidate)
      let eventTimestamp ← optionalTime fields
      let gatewayReceivedAt ← Json.required fields "gateway_received_at" Json.readDatetime
      let source ← Json.required fields "source" Json.readText
      let stale ← Json.required fields "stale" Json.readBool
      let ageSeconds ← optionalAge fields
      let dataQualityFlags ← qualityFlags fields
      Json.onlyFields fieldNames fields
      return {
        eventTimestamp, ageSeconds, stale, dataQualityFlags, index, direction, movers,
        gatewayReceivedAt, source }
  | field, _ => .error (notObject field)

end MoversV1

section Responses

-- A response model: its version and one field that holds what was asked for.
def responseDump (name : String) (body : Json) : Json :=
  .object [("schema_version", .text "1.0"), (name, body)]

def readVersion : Json.Reader String
  | _, .text "1.0" => .ok "1.0"
  | field, _ => .error (.validation field "Input should be '1.0'")

def responseValidate {α : Type} (name : String) (read : Json.Reader α) : Json → Result α
  | .object fields => do
      let _ ← Json.defaulted fields "schema_version" "1.0" readVersion
      let body ← Json.required fields name read
      Json.onlyFields ["schema_version", name] fields
      return body
  | _ => .error (notObject "")

def RoundTrips {α : Type} (name : String) (write : α → Json) (read : Json.Reader α) (model : α) : Prop :=
  responseValidate name read (responseDump name (write model)) = .ok model

theorem round_trips_iff {α : Type} (name : String) (write : α → Json) (read : Json.Reader α) (model : α)
    (other : name ≠ "schema_version") :
    RoundTrips name write read model ↔ read name (write model) = .ok model := by
  have later : (name == "schema_version") = false := by simpa using other
  have body : ∀ result, responseValidate name read (responseDump name (write model)) = .ok result ↔
      read name (write model) = .ok result := by
    intro result
    simp only [responseValidate, responseDump, Json.defaulted, Json.required, List.lookup_cons, later, beq_self_eq_true,
      readVersion, Json.onlyFields, List.contains_cons, Bool.true_or, Bool.or_true, if_true, bind, Except.bind,
      pure, Except.pure]
    cases read name (write model) with
    | error error => simp
    | ok value => simp
  exact body model

end Responses

end SchwabGateway.Upstream
