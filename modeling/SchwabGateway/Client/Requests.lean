import SchwabGateway.Api.Parameters
import SchwabGateway.Library.Commas
import SchwabGateway.OrderBook.BookWire
import SchwabGateway.Upstream.SessionWire

set_option autoImplicit false

namespace SchwabGateway.Client

open SchwabGateway.Api SchwabGateway.Python SchwabGateway.Upstream
open SchwabGateway.OrderBook (strip Venue maxStreamSymbols)

-- dt.date leaves no other dates.
abbrev DateArgument := {date : Date // date.Valid}

inductive Call where
  | getQuotes (symbols : List String)
  | getAvailableQuotes (symbols : List String)
  | getSpot (symbol : String)
  | getChainMetadata (symbol : String) (expiration : DateArgument)
  | getOptionChain (symbol : String) (expiration : DateArgument)
  | getHistory (symbol frequency : String) (daysBack : Option Int)
  | getMovers (index direction : String)
  | getSessionHistory (symbol : String) (date : DateArgument) (session : String)
  | getRecentOrderBook (symbol venue : String) (limit : Int)
  | streamOrderBooks (symbols : List String) (venue : String)

structure Request where
  path : String
  params : Query
deriving DecidableEq

-- A ValueError of the checks that the SDK makes itself.
abbrev Checked (α : Type) := Except String α

def requiredSymbol (symbol message : String) : Checked String :=
  let requested := strip symbol
  if requested = "" then .error message else .ok requested

def symbolMessage : String := "a symbol is required"

def oneOf (options : List String) (message value : String) : Checked String :=
  if options.contains value then .ok value else .error message

section Methods

variable (unicode : Unicode)

-- _normalize_order_book_venue, and the same check in get_recent_order_book.
def normalizeOrderBookVenue (venue : String) : Checked String :=
  oneOf ["NASDAQ", "NYSE"] "venue must be 'NASDAQ' or 'NYSE'" (unicode.upper (strip venue))

-- _ORDER_BOOK_SYMBOL_PATTERN is SYMBOL_PATTERN of the gateway.
def normalizeOrderBookSymbols (symbols : List String) : Checked (List String) :=
  let normalized := symbols.map fun symbol => unicode.upper (strip symbol)
  if normalized = [] ∨ normalized.any (fun symbol => symbol = "") then
    .error "at least one non-empty order-book symbol is required"
  else if maxStreamSymbols < normalized.length then
    .error ("at most " ++ toString maxStreamSymbols ++ " order-book symbols are allowed")
  else if ¬ normalized.Nodup then .error "order-book symbols must be unique"
  else if normalized.any (fun symbol => !symbolPattern symbol) then
    .error "one or more order-book symbols are invalid"
  else .ok normalized

def quotesRequest (symbols : List String) (allowPartial : Query) : Checked Request :=
  if symbols = [] then .error "at least one symbol is required"
  else .ok ⟨"/v1/quotes", ("symbols", ",".intercalate symbols) :: allowPartial⟩

def chainRequest (path symbol : String) (expiration : DateArgument) : Checked Request := do
  let requested ← requiredSymbol symbol symbolMessage
  return ⟨path, [("symbol", requested), ("expiration", expiration.1.isoformat)]⟩

def daysBackParams : Option Int → Checked Query
  | none => return []
  | some daysBack =>
      match str daysBack with
      | some text => return [("days_back", text)]
      | none => .error "Exceeds the limit for integer string conversion"

def limitText (limit : Int) : Checked String :=
  match str limit with
  | some text => return text
  | none => .error "Exceeds the limit for integer string conversion"

def Call.request : Call → Checked Request
  | .getQuotes symbols => quotesRequest symbols []
  | .getAvailableQuotes symbols => quotesRequest symbols [("allow_partial", "true")]
  | .getSpot symbol => do
      let requested ← requiredSymbol symbol symbolMessage
      return ⟨"/v1/spot", [("symbol", requested)]⟩
  | .getChainMetadata symbol expiration => chainRequest "/v1/chain" symbol expiration
  | .getOptionChain symbol expiration => chainRequest "/v1/option-chain" symbol expiration
  | .getHistory symbol frequency daysBack => do
      let requested ← requiredSymbol symbol symbolMessage
      let frequency ← oneOf ["daily", "minute"] "frequency must be 'daily' or 'minute'" frequency
      let daysBack ← daysBackParams daysBack
      return ⟨"/v1/history", [("symbol", requested), ("frequency", frequency)] ++ daysBack⟩
  | .getMovers index direction => do
      let requested ← requiredSymbol index "an index is required"
      let direction ← oneOf ["up", "down"] "direction must be 'up' or 'down'" direction
      return ⟨"/v1/movers", [("index", requested), ("direction", direction)]⟩
  | .getSessionHistory symbol date session => do
      let requested ← requiredSymbol symbol symbolMessage
      let session ← oneOf ["regular", "extended"] "session must be 'regular' or 'extended'" session
      return ⟨"/v1/session-history", [("symbol", requested), ("date", date.1.isoformat), ("session", session)]⟩
  | .getRecentOrderBook symbol venue limit => do
      let requested ← requiredSymbol symbol symbolMessage
      let requestedVenue ← normalizeOrderBookVenue unicode venue
      if 1 ≤ limit ∧ limit ≤ 1000 then do
        let text ← limitText limit
        return ⟨"/v1/order-book/recent", [("symbol", requested), ("venue", requestedVenue), ("limit", text)]⟩
      else .error "order-book limit must be between 1 and 1000"
  | .streamOrderBooks symbols venue => do
      let requested ← normalizeOrderBookSymbols unicode symbols
      let normalizedVenue ← normalizeOrderBookVenue unicode venue
      return ⟨"/v1/order-book/stream", [("symbols", ",".intercalate requested), ("venue", normalizedVenue)]⟩

end Methods

end SchwabGateway.Client
