import SchwabGateway.Upstream.History
import SchwabGateway.Upstream.Movers
import SchwabGateway.Upstream.OptionChain
import SchwabGateway.Upstream.Quote

set_option autoImplicit false

namespace SchwabGateway.Upstream

open SchwabGateway.Library SchwabGateway.Python

section Quotes

variable (literals : Literals)

-- results.update(payload), one batch after the other: what a later batch has
-- under a name hides what an earlier one had.
def mergedQuotes (responses : List PyValue) : Payload :=
  responses.foldl (fun results response =>
    match response with
    | .dict payload => payload ++ results
    | _ => results) []

def quotable (payloads : Payload) (symbols : List String) : List (String × Payload) :=
  symbols.filterMap fun symbol =>
    match entry payloads symbol with
    | some (.dict payload) => some (symbol, payload)
    | _ => none

def optionQuoteStaleAfterSeconds : PyFloat := .finite 300

def normalizeQuotes (receivedAt : Datetime) (staleAfterSeconds : PyFloat) :
    List (String × Payload) → Result (List QuoteV1)
  | [] => return []
  | (symbol, payload) :: rest => do
      let quote ← normalizeQuote literals symbol payload receivedAt
        (if isOptionSymbol symbol then optionQuoteStaleAfterSeconds else staleAfterSeconds)
      let quotes ← normalizeQuotes receivedAt staleAfterSeconds rest
      return quote :: quotes

-- DirectSchwabQuoteUpstream.get_quotes has no except clause around the
-- normalizer: its ValueErrors are left to the caller.
def getQuotes (symbols : List String) (responses : List PyValue) (receivedAt : Datetime)
    (staleAfterSeconds : PyFloat) : Except ReadError (List QuoteV1) :=
  (normalizeQuotes literals receivedAt staleAfterSeconds
    (quotable (mergedQuotes responses) symbols)).mapError .escaped

end Quotes

section Chains

variable (literals : Literals) (symbol : String) (expiration : Date) (response : PyValue)
  (receivedAt : Datetime) (staleAfterSeconds : PyFloat)

def chainFailed : ReadError := .unavailable "Schwab option chain request failed"
def chainInvalid : Raised → ReadError := readError "Schwab option chain response was invalid"

def getChainMetadata : Except ReadError ChainMetadataV1 :=
  match response with
  | .dict payload =>
      (normalizeChainMetadata literals symbol (.dict payload) expiration receivedAt
        staleAfterSeconds).mapError chainInvalid
  | _ => .error chainFailed

def getOptionChain : Except ReadError OptionChainV1 :=
  match response with
  | .dict payload =>
      (normalizeOptionChain literals expiration receivedAt staleAfterSeconds symbol
        (.dict payload)).mapError chainInvalid
  | _ => .error chainFailed

end Chains

section Candles

variable (literals : Literals) (eastern : Zone) (symbol : String) (response : PyValue)
  (receivedAt : Datetime) (staleAfterSeconds : PyFloat)

def candlesOf : Option (List PyValue) :=
  match response with
  | .dict payload =>
      match PyValue.get payload "candles" with
      | .list candles => some candles
      | _ => none
  | _ => none

def getHistory (frequency : Frequency) (daysBack : Int) : Except ReadError HistoryV1 :=
  match candlesOf response with
  | some candles =>
      (normalizeHistory literals eastern symbol frequency (.list candles) receivedAt staleAfterSeconds
        (some daysBack)).mapError (readError "Schwab price history response was invalid")
  | none => .error (.unavailable "Schwab price history request failed")

-- A session that is not in the cache.
def getSessionHistory (date : Date) (session : Session) : Except ReadError SessionHistoryV1 :=
  match candlesOf response with
  | some candles =>
      (normalizeSessionHistory literals eastern symbol date session (.list candles) receivedAt
        staleAfterSeconds).mapError (readError "Schwab session history response was invalid")
  | none => .error (.unavailable "Schwab session history request failed")

end Candles

section Movers

variable (literals : Literals) (response : PyValue)

def moversOf : Option PyValue :=
  match response with
  | .list items => some (.list items)
  | .dict payload => some ((entry payload "screeners").getD ((entry payload "movers").getD (.list [])))
  | _ => none

def getMovers (index : MoverIndex) (direction : Direction) (receivedAt : Datetime) :
    Except ReadError MoversV1 :=
  match moversOf response with
  | some items =>
      (normalizeMovers literals index direction items receivedAt).mapError
        (readError "Schwab movers response was invalid")
  | none => .error (.unavailable "Schwab movers request failed")

end Movers

section Classification

variable {α : Type}

-- The read returns, or raises what _serve_upstream has an answer for.
def Classified (outcome : Except ReadError α) : Prop :=
  ∀ error, outcome = .error (.escaped error) → error.isValueError = true

theorem classified_read_error_iff (message : String) (outcome : Result α) :
    Classified (outcome.mapError (readError message)) ↔ ¬ Escapes outcome := by
  cases outcome with
  | ok value => simp [Classified, Uncaught, Except.mapError]
  | error error =>
      cases caught : error.isValueError with
      | true => simp [Classified, Uncaught, Except.mapError, readError, caught]
      | false => simp [Classified, Uncaught, Except.mapError, readError, caught]

theorem classified_escaped_iff (outcome : Result α) :
    Classified (outcome.mapError ReadError.escaped) ↔ ¬ Escapes outcome := by
  cases outcome with
  | ok value => simp [Classified, Uncaught, Except.mapError]
  | error error => simp [Classified, Uncaught, Except.mapError]

theorem unavailable_classified (message : String) :
    Classified (.error (.unavailable message) : Except ReadError α) := by
  simp [Classified]

end Classification

end SchwabGateway.Upstream
