import SchwabGateway.OrderBook.Book
import SchwabGateway.OrderBook.Stream

set_option autoImplicit false

namespace SchwabGateway.OrderBook

open SchwabGateway.Library SchwabGateway.Python
open SchwabGateway.Upstream (flagIf)

def carries (services : List String) : PyValue → Bool
  | .dict item => services.any fun service => isText service (PyValue.get item "service")
  | _ => false

def frameHasService (payload : PyValue) (services : List String) : Bool :=
  match payload with
  | .dict frame =>
      match PyValue.get frame "data" with
      | .list items => items.any (carries services)
      | _ => false
  | _ => false

-- Where run_forever is suspended. sleeping has the delay it asked for, and
-- raising says that the finally block has a CancelledError to pass on.
inductive FeedPlace where
  | loggingIn
  | subscribing
  | receiving
  | sleeping (delay : Nat)
  | loggingOut (raising : Bool)
  | ended
deriving DecidableEq

-- What happened to the feed, as it would be logged. validated is a message
-- that was normalized, failed an exception with the delay that follows it.
inductive FeedMark where
  | loggedIn
  | subscribed
  | validated
  | published (snapshot : Snapshot Depth)
  | failed (delay : Nat)
  | interrupted
deriving DecidableEq

-- log is ghost state, newest first. seenSymbols and lastReceivedAt belong to
-- the connection, the rest to run_forever.
structure OrderBookLiveFeed where
  place : FeedPlace
  stream : Bool
  failures : Nat
  connectionId : Nat
  lastReceivedAt : Option Datetime
  seenSymbols : List String
  store : Store Depth
  log : List FeedMark

-- frame is decode_json_string of a frame at a reading of the clock, message
-- one call of the handler. raised is any Exception out of what is awaited,
-- interrupted a CancelledError. elsewhere is what others do with the store.
inductive FeedEvent where
  | loggedIn
  | subscribed
  | frame (payload : PyValue) (at_ : Datetime)
  | message (value : PyValue)
  | raised
  | slept
  | loggedOut
  | interrupted
  | elsewhere (store : Store Depth)

def Store.publishedAt {β : Type} (s : Store β) (venue : Venue) : List (Published β) :=
  s.published.filter fun entry => entry.snapshot.venue = venue

-- Nobody else writes the state of the venue or publishes for it.
def Aside {β : Type} (venue : Venue) (before after : Store β) : Prop :=
  after.feedState venue = before.feedState venue ∧ after.publishedAt venue = before.publishedAt venue

instance {β : Type} [DecidableEq β] (venue : Venue) (before after : Store β) :
    Decidable (Aside venue before after) :=
  inferInstanceAs (Decidable (_ ∧ _))

theorem local_aside {β : Type} (venue : Venue) (k : Nat) (before after : State β)
    (same : Local k before after) : Aside venue before.store after.store := by
  refine ⟨congrFun same.feedState venue, ?_⟩
  rw [Store.publishedAt, Store.publishedAt, same.published]

namespace OrderBookLiveFeed

-- clock is what the monotonic clock reads at the n-th publication.
variable (literals : Literals) (upper : String → String) (venue : Venue) (clock : Nat → ℚ)

def mark (feed : OrderBookLiveFeed) (state : FeedState) : OrderBookLiveFeed :=
  { feed with store := feed.store.markFeedState venue state }

def note (feed : OrderBookLiveFeed) (mark : FeedMark) : OrderBookLiveFeed :=
  { feed with log := mark :: feed.log }

def attempt (feed : OrderBookLiveFeed) : OrderBookLiveFeed :=
  { feed.mark venue .connecting with place := .loggingIn, stream := false }

def start (store : Store Depth) : OrderBookLiveFeed :=
  attempt venue {
    place := .loggingIn
    stream := false
    failures := 0
    connectionId := 0
    lastReceivedAt := none
    seenSymbols := []
    store := store
    log := [] }

def loggedIn (feed : OrderBookLiveFeed) : OrderBookLiveFeed :=
  { feed.note .loggedIn with
    place := .subscribing
    stream := true
    connectionId := feed.connectionId + 1
    lastReceivedAt := none
    seenSymbols := [] }

def subscribed (feed : OrderBookLiveFeed) : OrderBookLiveFeed :=
  { (feed.mark venue .connected).note .subscribed with place := .receiving }

def decoded (feed : OrderBookLiveFeed) (payload : PyValue) (at_ : Datetime) : OrderBookLiveFeed :=
  if frameHasService payload [venue.service] then { feed with lastReceivedAt := some at_ } else feed

-- except Exception, up to the sleep.
def raised (feed : OrderBookLiveFeed) : OrderBookLiveFeed :=
  let failures := feed.failures + 1
  let delay := min (2 ^ min (failures - 1) 3) 8
  { (feed.mark venue .disconnected).note (.failed delay) with
    failures := failures
    place := .sleeping delay }

def continue_ (raising : Bool) (feed : OrderBookLiveFeed) : OrderBookLiveFeed :=
  if raising then { feed with place := .ended } else feed.attempt venue

-- The finally block, up to the logout if there is a stream to log out of.
def leave (raising : Bool) (feed : OrderBookLiveFeed) : OrderBookLiveFeed :=
  if feed.stream then { feed.mark venue .disconnected with place := .loggingOut raising }
  else (feed.mark venue .disconnected).continue_ venue raising

-- A logout that raises counts as one that returned.
def loggedOut (feed : OrderBookLiveFeed) : OrderBookLiveFeed :=
  match feed.place with
  | .loggingOut raising => feed.continue_ venue raising
  | _ => feed

-- A CancelledError in the logout ends the finally block too.
def interrupted (feed : OrderBookLiveFeed) : OrderBookLiveFeed :=
  match feed.place with
  | .loggingOut _ => { feed.note .interrupted with place := .ended }
  | _ => (feed.note .interrupted).leave venue true

def label (feed : OrderBookLiveFeed) (snapshot : Snapshot Depth) : Snapshot Depth :=
  let flags :=
    snapshot.depth.dataQualityFlags ++ flagIf snapshot.depth.sequence.isNone "missing_sequence" ++
      flagIf (1 < feed.connectionId && !feed.seenSymbols.contains snapshot.symbol) "reconnect_boundary"
  { snapshot with
    depth :=
      { snapshot.depth with
        connectionId := feed.connectionId
        continuityEpoch := feed.connectionId
        dataQualityFlags := flags.eraseDups } }

def publish (feed : OrderBookLiveFeed) (snapshot : Snapshot Depth) : OrderBookLiveFeed :=
  { feed.note (.published (feed.label snapshot)) with
    seenSymbols := snapshot.symbol :: feed.seenSymbols
    store := feed.store.publish (feed.label snapshot) (clock feed.store.published.length) }

def validated (feed : OrderBookLiveFeed) : OrderBookLiveFeed :=
  { feed.note .validated with failures := 0 }

-- handle_book. What it does not catch is raised out of handle_message.
def handleBook (feed : OrderBookLiveFeed) (message : PyValue) : OrderBookLiveFeed :=
  match feed.lastReceivedAt with
  | none => feed
  | some receivedAt =>
      match normalizeSchwabBookMessage literals upper venue receivedAt message with
      | .error (.malformed _) => feed
      | .error _ => feed.raised venue
      | .ok snapshots =>
          snapshots.foldl (publish clock) (if snapshots.isEmpty then feed else feed.validated)

end OrderBookLiveFeed

def FeedPlace.awaiting : FeedPlace → Bool
  | .loggingIn => true
  | .subscribing => true
  | .receiving => true
  | _ => false

-- The socket is read in the subscription, in handle_message and in the logout.
def FeedPlace.reading : FeedPlace → Bool
  | .subscribing => true
  | .receiving => true
  | .loggingOut _ => true
  | _ => false

def FeedPlace.asleep : FeedPlace → Bool
  | .sleeping _ => true
  | _ => false

def FeedPlace.leaving : FeedPlace → Bool
  | .loggingOut _ => true
  | _ => false

section Feeds

variable (literals : Literals) (upper : String → String) (venue : Venue) (clock : Nat → ℚ)

-- The handler is called from inside handle_message alone.
def feedEnabled (feed : OrderBookLiveFeed) : FeedEvent → Prop
  | .loggedIn => feed.place = .loggingIn
  | .subscribed => feed.place = .subscribing
  | .frame _ _ => feed.place.reading = true
  | .message _ => feed.place = .receiving
  | .raised => feed.place.awaiting = true
  | .slept => feed.place.asleep = true
  | .loggedOut => feed.place.leaving = true
  | .interrupted => feed.place ≠ .ended
  | .elsewhere store => Aside venue feed.store store

instance (feed : OrderBookLiveFeed) : (event : FeedEvent) → Decidable (feedEnabled venue feed event)
  | .loggedIn => inferInstanceAs (Decidable (_ = _))
  | .subscribed => inferInstanceAs (Decidable (_ = _))
  | .frame _ _ => inferInstanceAs (Decidable (_ = _))
  | .message _ => inferInstanceAs (Decidable (_ = _))
  | .raised => inferInstanceAs (Decidable (_ = _))
  | .slept => inferInstanceAs (Decidable (_ = _))
  | .loggedOut => inferInstanceAs (Decidable (_ = _))
  | .interrupted => inferInstanceAs (Decidable (_ ≠ _))
  | .elsewhere _ => inferInstanceAs (Decidable (Aside _ _ _))

def feedPerform (feed : OrderBookLiveFeed) : FeedEvent → OrderBookLiveFeed
  | .loggedIn => feed.loggedIn
  | .subscribed => feed.subscribed venue
  | .frame payload at_ => feed.decoded venue payload at_
  | .message value => feed.handleBook literals upper venue clock value
  | .raised => feed.raised venue
  | .slept => feed.leave venue false
  | .loggedOut => feed.loggedOut venue
  | .interrupted => feed.interrupted venue
  | .elsewhere store => { feed with store := store }

-- One event is one uninterrupted step of the event loop.
def liveFeed : System OrderBookLiveFeed FeedEvent where
  enabled := feedEnabled venue
  perform := feedPerform literals upper venue clock

instance (feed : OrderBookLiveFeed) (event : FeedEvent) :
    Decidable ((liveFeed literals upper venue clock).enabled feed event) :=
  inferInstanceAs (Decidable (feedEnabled venue feed event))

end Feeds

end SchwabGateway.OrderBook
