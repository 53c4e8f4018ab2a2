import SchwabGateway.Api.Parameters
import SchwabGateway.Keys.Authenticator
import SchwabGateway.OrderBook.Freshness
import SchwabGateway.OrderBook.Sockets
import SchwabGateway.Reads.Identity
import SchwabGateway.Token.Manager

set_option autoImplicit false

namespace SchwabGateway.Api

open SchwabGateway.Library SchwabGateway.Python SchwabGateway.Keys
open SchwabGateway.OrderBook (Sockets SocketEvent StreamSymbols Recent MaxAge Limits Venue maxStreamSymbols sockets)
open SchwabGateway.Token (ManagerState)

-- The routes of create_app.
inductive Endpoint where
  | health
  | ready
  | metrics
  | data (route : Route)
deriving DecidableEq

def Endpoint.path : Endpoint → String
  | .health => "/health"
  | .ready => "/ready"
  | .metrics => "/metrics"
  | .data route => route.path

def endpoints : List Endpoint := [.health, .ready, .metrics] ++ routes.map .data

def resolve (path : String) : Option Endpoint := endpoints.find? fun endpoint => endpoint.path = path

def readinessReason : ManagerState → String
  | .uninitialized => "token_not_checked"
  | .ready => "token_ready"
  | .refreshing => "token_refreshing"
  | .missing => "token_missing"
  | .corrupt => "token_corrupt"
  | .expired => "refresh_token_expired"
  | .revoked => "token_revoked"
  | .reauthorizationRequired => "token_reauthorization_required"
  | .lockTimeout => "token_lock_timeout"
  | .refreshFailed => "token_refresh_failed"
  | .persistenceFailed => "token_persistence_failed"

def readinessUnavailableReason : String := "token_readiness_unavailable"

-- _token_readiness; none is a health that raises.
def tokenReadiness : Option ManagerState → ManagerState × String
  | some state => (state, readinessReason state)
  | none => (.uninitialized, readinessUnavailableReason)

-- What a request is answered with. The books of recent_order_book and the
-- answers of the reads have types of their own.
inductive Reply (V β : Type) where
  | health
  | readiness (state : ManagerState) (reason : String)
  | metrics
  | notFound
  | recent (recent : Recent β)
  | answer (response : Reads.Response V)

variable {V β : Type}

def authenticationRequired : Reply V β :=
  .answer (.error "authentication_required" "valid internal authentication is required" 401 none)

def capabilityDenied : Reply V β :=
  .answer (.error "capability_denied" "the caller lacks the required capability" 403 none)

def invalidRequest (message : String) : Reply V β := .answer (.error "invalid_request" message 400 none)

def notReady : Reply V β := .answer (.error "gateway_not_ready" "gateway is not ready" 503 none)

structure Configuration where
  sha256 : Sha256
  unicode : Unicode
  authenticator : InternalKeyAuthenticator
  reads : Reads.Settings
  maxAge : MaxAge
  -- whether the upstreams of the two routes have a cache to be asked
  chainCache : Bool
  sessionCache : Bool

-- What the middlewares and the head of a handler make of a request: an answer,
-- or a caller and what the caller asks for.
inductive Head (V β : Type) where
  | reply (reply : Reply V β)
  | handle (principal : InternalPrincipal) (asked : Asked)

section Head

variable (config : Configuration)

-- _market_data_handler. Without a principal the lookup raises KeyError.
def marketDataHandler (route : Route) (principal : Option InternalPrincipal) (query : Query) : Head V β :=
  match principal with
  | none => .reply (.answer .serverError)
  | some principal =>
      if "market_data:read" ∈ principal.capabilities then
        match route.parameters config.unicode query with
        | .error message => .reply (invalidRequest message)
        | .ok asked => .handle principal asked
      else .reply capabilityDenied

def handlerHead (path : String) (principal : Option InternalPrincipal) (query : Query)
    (reading : Option ManagerState) : Head V β :=
  match resolve path with
  | none => .reply .notFound
  | some .health => .reply .health
  | some .ready => .reply (.readiness (tokenReadiness reading).1 (tokenReadiness reading).2)
  | some .metrics => .reply .metrics
  | some (.data route) => marketDataHandler config route principal query

-- authentication_middleware around the handler. apiKey is the header, empty
-- when it is missing; what is no UTF-8 in it raises.
def enter (path : String) (apiKey : Text) (query : Query) (reading : Option ManagerState) : Head V β :=
  if path.startsWith "/v1/" then
    match config.authenticator.authenticate config.sha256 apiKey with
    | .error _ => .reply (.answer .serverError)
    | .ok none => .reply authenticationRequired
    | .ok (some principal) => handlerHead config path (some principal) query reading
  else handlerHead config path none query reading

end Head

def defaultMessages : Reads.Messages :=
  ⟨"market data upstream timed out", "market data upstream is unavailable",
    "market data upstream returned invalid data"⟩

def quoteMessages : Reads.Messages :=
  ⟨"quote upstream timed out", "quote upstream is unavailable", "quote upstream returned invalid data"⟩

-- What a handler hands to _serve_upstream, if it does.
def Asked.operation : Asked → Option (String × Reads.Messages)
  | .quotes _ _ => some ("quotes", quoteMessages)
  | .spot _ => some ("spot", defaultMessages)
  | .chain _ _ => some ("chain_metadata", defaultMessages)
  | .optionChain _ _ => some ("option_chain", defaultMessages)
  | .history _ _ _ => some ("history", defaultMessages)
  | .movers _ _ => some ("movers", defaultMessages)
  | .sessionHistory _ _ _ => some ("session_history", defaultMessages)
  | .recentOrderBook _ _ _ => none
  | .streamOrderBook _ _ => none

-- The two calls of _not_ready_response: before a cache is asked, and in
-- _serve_upstream.
inductive Passage where
  | side
  | main
deriving DecidableEq

def Asked.passage (config : Configuration) : Asked → Passage
  | .optionChain _ _ => if config.chainCache then .side else .main
  | .sessionHistory _ _ _ => if config.sessionCache then .side else .main
  | _ => .main

def Asked.joinable : Asked → Bool
  | .optionChain _ _ => true
  | _ => false

def tokenRefreshGraceSeconds : ℚ := 1 / 4

def pollSeconds : ℚ := 1 / 100

inductive Gate where
  | passed
  | refused
  | asleep (wakeAt : ℚ)

-- _not_ready_response from one reading of the health to the next sleep.
def gate (state : ManagerState) (deadline checkedAt : ℚ) : Gate :=
  match state with
  | .ready => .passed
  | .refreshing =>
      let remaining := deadline - checkedAt
      if remaining ≤ 0 then .refused else .asleep (checkedAt + min pollSeconds remaining)
  | _ => .refused

-- Where a request is suspended. gate, passed stand between two parts of one
-- step: what others do in between only adds runs.
inductive Place (V β : Type) where
  | absent
  | gate (passage : Passage)
  | asleep (passage : Passage) (wakeAt : ℚ)
  | passed (passage : Passage)
  | joining (expires : ℚ)
  | reading (read : Nat)
  | streaming (stream : Nat)
  | answered (reply : Reply V β)
  | cancelled

-- Ghost state: a reading of the health, with the clock after it.
structure Poll where
  polledAt : ℚ
  checkedAt : ℚ
  state : ManagerState

-- Ghost state: a call of _not_ready_response and what it read, newest first.
structure Call where
  deadline : ℚ
  polls : List Poll

structure Visit (V β : Type) where
  path : String
  apiKey : Text
  query : Query
  principal : Option InternalPrincipal
  asked : Option Asked
  place : Place V β
  calls : List Call

def Visit.absent : Visit V β := ⟨"", [], [], none, none, .absent, []⟩

-- The application: its reads and what the build_response of each closes over,
-- its streams, and whether the warm-up read of UpstreamWarmupReadiness has come
-- back.
structure Door (V β : Type) where
  reads : Reads.State V
  closures : Nat → Option Asked
  streams : Sockets β
  warm : Bool
  next : Nat
  visits : Nat → Visit V β

-- What a cache answers, and how the fetch of another request that was joined
-- ends. A value is one that has passed the check of the response.
inductive Lookup (V : Type) where
  | hit (value : V)
  | malformed
  | joined
  | missed
deriving DecidableEq

inductive Joined (V : Type) where
  | value (value : V)
  | timeout
  | failed (failure : Reads.ReadFailure)

-- reading is what the health of the token manager says. The steps of the reads
-- and of the streams come in as they are.
inductive DoorEvent (V β : Type) where
  | request (path : String) (apiKey : Text) (query : Query) (reading : Option ManagerState) (now : ℚ)
  | poll (id : Nat) (reading : Option ManagerState) (polledAt startedAt checkedAt : ℚ)
  | lookup (id : Nat) (found : Lookup V) (now : ℚ)
  | joinEnds (id : Nat) (ending : Joined V) (now wall : ℚ)
  | serve (id : Nat) (startedAt checkedAt enqueuedAt now observedAt wall : ℚ)
  | cancel (id : Nat)
  | warmedUp
  | reads (event : Reads.Event V)
  | streams (event : SocketEvent β)

def streamSymbols (symbols : List String) : Option StreamSymbols :=
  if checked : symbols ≠ [] ∧ symbols.Nodup ∧ symbols.length ≤ maxStreamSymbols then
    some ⟨symbols, checked.1, checked.2.1, checked.2.2⟩
  else none

namespace Door

variable (config : Configuration)

-- live is whether the readiness is that of UpstreamWarmupReadiness.
def opened (policy streamPolicy : AdmissionPolicy) (limits : Limits) (clock : ℚ) (live : Bool) : Door V β where
  reads := Reads.initial policy clock
  closures _ := none
  streams := .opened streamPolicy limits clock
  warm := !live
  next := 0
  visits _ := .absent

def health (s : Door V β) (reading : Option ManagerState) : Option ManagerState :=
  if s.warm then reading else some .refreshing

def setVisit (s : Door V β) (id : Nat) (visit : Visit V β) : Door V β :=
  { s with visits := Function.update s.visits id visit }

def setPlace (s : Door V β) (id : Nat) (place : Place V β) : Door V β :=
  s.setVisit id { s.visits id with place := place }

-- stream_order_book from the check of the feed on.
def openStream (s : Door V β) (id : Nat) (principal : InternalPrincipal) (symbols : StreamSymbols) (venue : Venue)
    (now : ℚ) : Door V β :=
  { s.setPlace id (.streaming s.streams.next) with
    streams := (sockets β).perform s.streams (.request principal.priorityClass symbols venue now) }

def handle (s : Door V β) (id : Nat) (principal : InternalPrincipal) (asked : Asked) (now : ℚ) : Door V β :=
  match asked with
  | .recentOrderBook symbol venue limit =>
      s.setPlace id (.answered (.recent
        (s.streams.book.store.recentOrderBook symbol venue limit.toNat config.maxAge.seconds now)))
  | .streamOrderBook symbols venue =>
      match streamSymbols symbols with
      | none => s.setPlace id (.answered (.answer .serverError))
      | some symbols => s.openStream id principal symbols venue now
  | asked => s.setPlace id (.gate (asked.passage config))

def request (s : Door V β) (path : String) (apiKey : Text) (query : Query) (reading : Option ManagerState)
    (now : ℚ) : Door V β :=
  let id := s.next
  let visit : Visit V β := { Visit.absent with path := path, apiKey := apiKey, query := query }
  let s := { s with next := s.next + 1 }
  match enter config path apiKey query (s.health reading) with
  | .reply reply => s.setVisit id { visit with place := .answered reply }
  | .handle principal asked =>
      (s.setVisit id { visit with principal := some principal, asked := some asked }).handle config id principal
        asked now

def gatePlace (passage : Passage) : Gate → Place V β
  | .passed => .passed passage
  | .refused => .answered notReady
  | .asleep wakeAt => .asleep passage wakeAt

def polled (s : Door V β) (id : Nat) (passage : Passage) (earlier : List Call) (call : Call) (poll : Poll) :
    Door V β :=
  { s.setVisit id
      { s.visits id with
        place := gatePlace passage (gate poll.state call.deadline poll.checkedAt)
        calls := { call with polls := poll :: call.polls } :: earlier } with
    reads := s.reads.tick poll.checkedAt }

def poll (s : Door V β) (id : Nat) (reading : Option ManagerState) (polledAt startedAt checkedAt : ℚ) :
    Door V β :=
  let poll : Poll := ⟨polledAt, checkedAt, (tokenReadiness (s.health reading)).1⟩
  match (s.visits id).place, (s.visits id).calls with
  | .gate passage, earlier =>
      s.polled id passage earlier ⟨startedAt + min tokenRefreshGraceSeconds config.reads.upstreamTimeout, []⟩ poll
  | .asleep passage _, call :: earlier => s.polled id passage earlier call poll
  | _, _ => s

def lookup (s : Door V β) (id : Nat) (found : Lookup V) (now : ℚ) : Door V β :=
  match found with
  | .hit value => s.setPlace id (.answered (.answer (.json value)))
  | .malformed => s.setPlace id (.answered (.answer (Reads.malformedResponse defaultMessages)))
  | .joined => s.setPlace id (.joining (now + config.reads.upstreamTimeout))
  | .missed => s.setPlace id (.gate .main)

-- The except clauses of _serve_option_chain_without_worker.
def joinEnds (s : Door V β) (id : Nat) (ending : Joined V) (now wall : ℚ) : Door V β :=
  match ending with
  | .value value => s.setPlace id (.answered (.answer (.json value)))
  | .timeout => s.setPlace id (.answered (.answer (.error "upstream_timeout" defaultMessages.timeout 504 none)))
  | .failed failure =>
      match failure.exception.head.exceptionClass with
      | .upstreamUnavailable =>
          { s.setPlace id (.answered (.answer (Reads.failureResponse s.reads.cooldownUntil failure.exception
              defaultMessages.unavailable now wall).2)) with
            reads := Reads.perform config.reads s.reads (.joined failure now wall) }
      | .upstreamMalformed => s.setPlace id (.answered (.answer (Reads.malformedResponse defaultMessages)))
      | .valueError => s.setPlace id (.answered (.answer (Reads.malformedResponse defaultMessages)))
      | .other => s.setPlace id (.answered (.answer .serverError))

def begin (visit : Visit V β) (startedAt checkedAt enqueuedAt now observedAt wall : ℚ) :
    Option (Reads.Event V) := do
  let principal ← visit.principal
  let asked ← visit.asked
  let (operationName, messages) ← asked.operation
  return .begin operationName principal.priorityClass messages startedAt checkedAt enqueuedAt now observedAt wall

def serve (s : Door V β) (id : Nat) (startedAt checkedAt enqueuedAt now observedAt wall : ℚ) : Door V β :=
  match begin (s.visits id) startedAt checkedAt enqueuedAt now observedAt wall with
  | none => s
  | some event =>
      { s.setPlace id (.reading s.reads.next) with
        reads := Reads.perform config.reads s.reads event
        closures := Function.update s.closures s.reads.next (s.visits id).asked }

end Door

def Place.pollable (polledAt : ℚ) : Place V β → Bool
  | .gate _ => true
  | .asleep _ wakeAt => wakeAt ≤ polledAt
  | _ => false

def Place.isPassed (passage : Passage) : Place V β → Bool
  | .passed other => other = passage
  | _ => false

def Place.isJoining : Place V β → Bool
  | .joining _ => true
  | _ => false

def Place.expired (now : ℚ) : Place V β → Bool
  | .joining expires => expires ≤ now
  | _ => false

def Place.awaits : Place V β → Bool
  | .asleep _ _ => true
  | .joining _ => true
  | _ => false

def ofReads : Reads.Event V → Bool
  | .begin _ _ _ _ _ _ _ _ _ => false
  | .joined _ _ _ => false
  | _ => true

def ofStreams : SocketEvent β → Bool
  | .request _ _ _ _ => false
  | _ => true

def doorEnabled (config : Configuration) (s : Door V β) : DoorEvent V β → Prop
  | .request _ _ _ _ now => s.streams.book.clock ≤ now
  | .poll id _ polledAt startedAt checkedAt =>
      (s.visits id).place.pollable polledAt = true ∧ s.reads.scheduler.clock ≤ polledAt ∧
        polledAt ≤ startedAt ∧ startedAt ≤ checkedAt
  | .lookup id found _ =>
      (s.visits id).place.isPassed .side = true ∧
        (found = .joined → ((s.visits id).asked.map Asked.joinable) = some true)
  | .joinEnds id ending now _ =>
      (s.visits id).place.isJoining = true ∧ s.reads.scheduler.clock ≤ now ∧
        match ending with
        | .timeout => (s.visits id).place.expired now = true
        | _ => True
  | .serve id startedAt checkedAt enqueuedAt now observedAt wall =>
      (s.visits id).place.isPassed .main = true ∧
        ∀ event ∈ Door.begin (s.visits id) startedAt checkedAt enqueuedAt now observedAt wall,
          (Reads.gateway V config.reads).enabled s.reads event
  | .cancel id => (s.visits id).place.awaits = true
  | .warmedUp => True
  | .reads event => ofReads event = true ∧ (Reads.gateway V config.reads).enabled s.reads event
  | .streams event => ofStreams event = true ∧ (sockets β).enabled s.streams event

def doorPerform (config : Configuration) (s : Door V β) : DoorEvent V β → Door V β
  | .request path apiKey query reading now => s.request config path apiKey query reading now
  | .poll id reading polledAt startedAt checkedAt => s.poll config id reading polledAt startedAt checkedAt
  | .lookup id found now => s.lookup config id found now
  | .joinEnds id ending now wall => s.joinEnds config id ending now wall
  | .serve id startedAt checkedAt enqueuedAt now observedAt wall =>
      s.serve config id startedAt checkedAt enqueuedAt now observedAt wall
  | .cancel id => s.setPlace id .cancelled
  | .warmedUp => { s with warm := true }
  | .reads event => { s with reads := Reads.perform config.reads s.reads event }
  | .streams event => { s with streams := (sockets β).perform s.streams event }

def door (V β : Type) (config : Configuration) : System (Door V β) (DoorEvent V β) where
  enabled := doorEnabled config
  perform := doorPerform config

instance decidableDoorEnabled [DecidableEq V] (config : Configuration) (s : Door V β) :
    (event : DoorEvent V β) → Decidable ((door V β config).enabled s event)
  | .request _ _ _ _ _ => inferInstanceAs (Decidable (_ ≤ _))
  | .poll _ _ _ _ _ => inferInstanceAs (Decidable (_ ∧ _ ∧ _ ∧ _))
  | .lookup _ _ _ => inferInstanceAs (Decidable (_ ∧ (_ → _)))
  | .joinEnds _ (.value _) _ _ => inferInstanceAs (Decidable (_ ∧ _ ∧ True))
  | .joinEnds _ .timeout _ _ => inferInstanceAs (Decidable (_ ∧ _ ∧ _ = true))
  | .joinEnds _ (.failed _) _ _ => inferInstanceAs (Decidable (_ ∧ _ ∧ True))
  | .serve _ _ _ _ _ _ _ => inferInstanceAs (Decidable (_ ∧ ∀ event ∈ _, (Reads.gateway V config.reads).enabled _ event))
  | .cancel _ => inferInstanceAs (Decidable (_ = _))
  | .warmedUp => .isTrue trivial
  | .reads _ => inferInstanceAs (Decidable (_ ∧ _))
  | .streams _ => inferInstanceAs (Decidable (_ ∧ _))

def Door.Reachable (config : Configuration) (policy streamPolicy : AdmissionPolicy) (limits : Limits) (clock : ℚ)
    (live : Bool) (s : Door V β) : Prop :=
  (door V β config).Reaches Set.univ (Door.opened policy streamPolicy limits clock live) s

end SchwabGateway.Api
