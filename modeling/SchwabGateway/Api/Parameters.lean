import SchwabGateway.Api.Texts
import SchwabGateway.OrderBook.Stream
import SchwabGateway.Upstream.History
import SchwabGateway.Upstream.Movers
import SchwabGateway.Upstream.QuoteBatch

set_option autoImplicit false

namespace SchwabGateway.Api

open SchwabGateway.Python SchwabGateway.Upstream
open SchwabGateway.OrderBook (strip Venue maxStreamSymbols)

abbrev Query := List (String × String)

def Query.get (query : Query) (name fallback : String) : String := (query.lookup name).getD fallback

def sessionTypes : List (String × Session) := [("regular", .regular), ("extended", .extended)]

def historyFrequencies : List (String × Frequency) := [("daily", .daily), ("minute", .minute)]

def moverDirections : List (String × Direction) := [("up", .up), ("down", .down)]

def moverIndexes : List (String × MoverIndex) :=
  [("$DJI", .dji), ("$COMPX", .compx), ("$SPX", .spx), ("NYSE", .nyse), ("NASDAQ", .nasdaq), ("OTCBB", .otcbb),
    ("INDEX_ALL", .indexAll), ("EQUITY_ALL", .equityAll), ("OPTION_ALL", .optionAll), ("OPTION_PUT", .optionPut),
    ("OPTION_CALL", .optionCall)]

def orderBookVenues : List (String × Venue) := [("NASDAQ", .nasdaq), ("NYSE", .nyse)]

def booleans : List (String × Bool) := [("true", true), ("false", false)]

structure Bounds where
  minimum : Int
  maximum : Int
  default : Int

def historyDaysBackBounds : Frequency → Bounds
  | .daily => ⟨1, 250, 20⟩
  | .minute => ⟨1, 5, 1⟩

def maxRecentOrderBookSnapshots : Nat := 1000

-- What _InvalidRequestError carries.
abbrev Parsed (α : Type) := Except String α

def choice {α : Type} (table : List (String × α)) (message value : String) : Parsed α :=
  match table.lookup value with
  | some option => .ok option
  | none => .error message

section Parsers

variable (unicode : Unicode) (query : Query)

-- _parse_symbols; valid is the check that allow_options chooses.
def parseSymbols (valid : String → Bool) : Parsed (List String) :=
  let symbols := (((query.get "symbols" "").splitOn ",").filter fun part => strip part ≠ "").map
    fun part => unicode.upper (strip part)
  if symbols = [] then .error "at least one symbol is required"
  else if maxSymbols < symbols.length then .error tooManySymbols
  else if ¬ symbols.Nodup then .error "symbols must be unique"
  else if symbols.any (fun symbol => !valid symbol) then .error "one or more symbols are invalid"
  else .ok symbols

def parseSymbol : Parsed String :=
  let symbol := unicode.upper (strip (query.get "symbol" ""))
  if symbol = "" then .error "a symbol is required"
  else if symbolPattern symbol then .ok symbol
  else .error "the symbol is invalid"

def parseIsoDate (name requiredMessage formatMessage : String) : Parsed Date :=
  let value := strip (query.get name "")
  if value = "" then .error requiredMessage
  else if value.length ≠ 10 then .error formatMessage
  else
    match Date.fromisoformat value with
    | some date => .ok date
    | none => .error formatMessage

def parseExpiration : Parsed Date :=
  parseIsoDate query "expiration" "an expiration is required" "the expiration must be an ISO-8601 date"

def parseSessionDate : Parsed Date :=
  parseIsoDate query "date" "a date is required" "the date must be an ISO-8601 date"

def parseSession : Parsed Session :=
  choice sessionTypes "session must be 'regular' or 'extended'" (unicode.lower (strip (query.get "session" "")))

def parseAllowPartial : Parsed Bool :=
  choice booleans "allow_partial must be 'true' or 'false'"
    (unicode.lower (strip (query.get "allow_partial" "false")))

def parseFrequency : Parsed Frequency :=
  choice historyFrequencies "frequency must be 'daily' or 'minute'"
    (unicode.lower (strip (query.get "frequency" "daily")))

def parseDaysBack (frequency : Frequency) : Parsed Int :=
  let bounds := historyDaysBackBounds frequency
  let value := strip (query.get "days_back" "")
  if value = "" then .ok bounds.default
  else
    match unicode.int value with
    | none => .error "days_back must be an integer"
    | some daysBack =>
        if bounds.minimum ≤ daysBack ∧ daysBack ≤ bounds.maximum then .ok daysBack
        else
          .error ("days_back must be between " ++ toString bounds.minimum ++ " and " ++ toString bounds.maximum)

def parseIndex : Parsed MoverIndex :=
  choice moverIndexes "index must be one of the supported Schwab mover indexes"
    (unicode.upper (strip (query.get "index" "")))

def parseDirection : Parsed Direction :=
  choice moverDirections "direction must be 'up' or 'down'" (unicode.lower (strip (query.get "direction" "up")))

def parseOrderBookVenue : Parsed Venue :=
  choice orderBookVenues "venue must be 'NASDAQ' or 'NYSE'" (unicode.upper (strip (query.get "venue" "")))

def parseOrderBookLimit : Parsed Int :=
  match unicode.int (strip (query.get "limit" "100")) with
  | none => .error "limit must be an integer"
  | some limit =>
      if 1 ≤ limit ∧ limit ≤ maxRecentOrderBookSnapshots then .ok limit
      else .error ("limit must be between 1 and " ++ toString maxRecentOrderBookSnapshots)

end Parsers

inductive Route where
  | quotes
  | spot
  | chain
  | optionChain
  | history
  | movers
  | sessionHistory
  | recentOrderBook
  | streamOrderBook
deriving DecidableEq

def Route.path : Route → String
  | .quotes => "/v1/quotes"
  | .spot => "/v1/spot"
  | .chain => "/v1/chain"
  | .optionChain => "/v1/option-chain"
  | .history => "/v1/history"
  | .movers => "/v1/movers"
  | .sessionHistory => "/v1/session-history"
  | .recentOrderBook => "/v1/order-book/recent"
  | .streamOrderBook => "/v1/order-book/stream"

def routes : List Route :=
  [.quotes, .spot, .chain, .optionChain, .history, .movers, .sessionHistory, .recentOrderBook, .streamOrderBook]

theorem route_of_path (first second : Route) (same : first.path = second.path) : first = second := by
  have listed : ∀ route : Route, route ∈ routes := by
    intro route
    cases route <;> decide
  have distinct : (routes.map Route.path).Nodup := by decide +kernel
  exact List.inj_on_of_nodup_map distinct (listed first) (listed second) same

inductive Asked where
  | quotes (symbols : List String) (allowPartial : Bool)
  | spot (symbol : String)
  | chain (symbol : String) (expiration : Date)
  | optionChain (symbol : String) (expiration : Date)
  | history (symbol : String) (frequency : Frequency) (daysBack : Int)
  | movers (index : MoverIndex) (direction : Direction)
  | sessionHistory (symbol : String) (date : Date) (session : Session)
  | recentOrderBook (symbol : String) (venue : Venue) (limit : Int)
  | streamOrderBook (symbols : List String) (venue : Venue)
deriving DecidableEq

def tooManyStreamSymbols : String :=
  "at most " ++ toString maxStreamSymbols ++ " order-book stream symbols are allowed"

def Route.parameters (unicode : Unicode) (query : Query) : Route → Parsed Asked
  | .quotes => do
      let symbols ← parseSymbols unicode query isQuoteSymbol
      let allowPartial ← parseAllowPartial unicode query
      return .quotes symbols allowPartial
  | .spot => do
      let symbol ← parseSymbol unicode query
      return .spot symbol
  | .chain => do
      let symbol ← parseSymbol unicode query
      let expiration ← parseExpiration query
      return .chain symbol expiration
  | .optionChain => do
      let symbol ← parseSymbol unicode query
      let expiration ← parseExpiration query
      return .optionChain symbol expiration
  | .history => do
      let symbol ← parseSymbol unicode query
      let frequency ← parseFrequency unicode query
      let daysBack ← parseDaysBack unicode query frequency
      return .history symbol frequency daysBack
  | .movers => do
      let index ← parseIndex unicode query
      let direction ← parseDirection unicode query
      return .movers index direction
  | .sessionHistory => do
      let symbol ← parseSymbol unicode query
      let date ← parseSessionDate query
      let session ← parseSession unicode query
      return .sessionHistory symbol date session
  | .recentOrderBook => do
      let symbol ← parseSymbol unicode query
      let venue ← parseOrderBookVenue unicode query
      let limit ← parseOrderBookLimit unicode query
      return .recentOrderBook symbol venue limit
  | .streamOrderBook => do
      let symbols ← parseSymbols unicode query symbolPattern
      if maxStreamSymbols < symbols.length then .error tooManyStreamSymbols
      else do
        let venue ← parseOrderBookVenue unicode query
        return .streamOrderBook symbols venue

-- Upstream.parseSymbols is this parser at the symbols of the quotes handler.
theorem parse_symbols_quotes (unicode : Unicode) (query : Query) :
    parseSymbols unicode query isQuoteSymbol =
      Upstream.parseSymbols unicode.upper (query.get "symbols" "") := rfl

end SchwabGateway.Api
