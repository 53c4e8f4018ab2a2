import SchwabGateway.Client.Understood
import SchwabGateway.OrderBook.Continuity
import SchwabGateway.OrderBook.PermitLaw
import SchwabGateway.OrderBook.Publications
import SchwabGateway.OrderBook.Requested

set_option autoImplicit false

namespace SchwabGateway.Client

open SchwabGateway.Api SchwabGateway.Library SchwabGateway.Python SchwabGateway.Upstream SchwabGateway.OrderBook

-- A message of the WebSocket: a text, which may not be JSON, or bytes.
inductive Payload where
  | text (body : Option Json)
  | bytes

inductive Closing where
  | finished
  | closedError
  | failed

-- GatewayResponseError and GatewayUnavailableError.
inductive StreamError where
  | response (message : String)
  | unavailable (message : String)
deriving DecidableEq

def Closing.error : Closing → Option StreamError
  | .finished => none
  | .closedError => some (.unavailable "gateway order-book stream closed unexpectedly")
  | .failed => some (.unavailable "gateway order-book stream failed")

section Snapshots

variable (requested : List String) (normalizedVenue : String)

def readEnvelope : Payload → Except StreamError (Snapshot Depth)
  | .bytes => .error (.response "gateway returned a non-text order-book stream payload")
  | .text none => .error (.response "gateway returned an invalid order-book stream contract")
  | .text (some body) =>
      match OrderBookStreamEnvelopeV1.modelValidate body with
      | .error _ => .error (.response "gateway returned an invalid order-book stream contract")
      | .ok snapshot => .ok snapshot

def readSnapshot (payload : Payload) : Except StreamError (Snapshot Depth) := do
  let snapshot ← readEnvelope payload
  if snapshot.venue.text ≠ normalizedVenue then
    .error (.response "gateway streamed a mismatched order-book venue")
  else if snapshot.symbol ∉ requested then
    .error (.response "gateway streamed an unrequested order-book symbol")
  else return snapshot

-- snapshots of stream_order_books: what it yields, and what it raises if it
-- does.
def snapshots : List Payload → Closing → List (Snapshot Depth) × Option StreamError
  | [], closing => ([], closing.error)
  | payload :: rest, closing =>
      match readSnapshot requested normalizedVenue payload with
      | .error error => ([], some error)
      | .ok snapshot =>
          let later := snapshots rest closing
          (snapshot :: later.1, later.2)

theorem read_snapshot_ok (payload : Payload) (snapshot : Snapshot Depth)
    (read : readSnapshot requested normalizedVenue payload = .ok snapshot) :
    readEnvelope payload = .ok snapshot ∧ snapshot.venue.text = normalizedVenue ∧ snapshot.symbol ∈ requested := by
  obtain ⟨found, envelope, checked⟩ := (bind_ok_iff _ _ _).mp read
  by_cases elsewhere : found.venue.text ≠ normalizedVenue
  · rw [if_pos elsewhere] at checked
    cases checked
  by_cases unasked : found.symbol ∉ requested
  · rw [if_neg elsewhere, if_pos unasked] at checked
    cases checked
  · rw [if_neg elsewhere, if_neg unasked] at checked
    cases checked
    exact ⟨envelope, not_not.mp elsewhere, not_not.mp unasked⟩

-- What any messages are read as: the first ones as snapshots that were asked
-- for, and the first one that is refused as the error that ends the stream.
def ReadUpToRefused (payloads : List Payload) (closing : Closing) : Prop :=
  ∃ taken rest, payloads = taken ++ rest ∧
    List.Forall₂ (fun payload snapshot => readEnvelope payload = .ok snapshot ∧
        snapshot.venue.text = normalizedVenue ∧ snapshot.symbol ∈ requested)
      taken (snapshots requested normalizedVenue payloads closing).1 ∧
    ((rest = [] ∧ (snapshots requested normalizedVenue payloads closing).2 = closing.error) ∨
      ∃ payload later error, rest = payload :: later ∧
        readSnapshot requested normalizedVenue payload = .error error ∧
        (snapshots requested normalizedVenue payloads closing).2 = some error)

theorem snapshots_asked_for (payloads : List Payload) (closing : Closing) :
    ReadUpToRefused requested normalizedVenue payloads closing := by
  induction payloads with
  | nil => exact ⟨[], [], rfl, .nil, .inl ⟨rfl, rfl⟩⟩
  | cons payload rest ih =>
      rw [ReadUpToRefused, snapshots]
      cases read : readSnapshot requested normalizedVenue payload with
      | error error => exact ⟨[], payload :: rest, rfl, .nil, .inr ⟨payload, rest, error, rfl, read, rfl⟩⟩
      | ok snapshot =>
          obtain ⟨taken, later, split, each, ended⟩ := ih
          exact ⟨payload :: taken, later, congrArg (payload :: ·) split,
            .cons (read_snapshot_ok requested normalizedVenue payload snapshot read) each, ended⟩

end Snapshots

def frame (entry : Published Depth) : Payload :=
  .text (some (OrderBookStreamEnvelopeV1.modelDump entry.snapshot))

section Gateway

variable (literals : Literals) (upper : String → String) (feedClock : Nat → ℚ)

def fromFeeds : Set (SocketEvent Depth) := fun event =>
  ∀ snapshot now, event = .publish snapshot now → ∃ before feed,
    (liveFeed literals upper snapshot.venue feedClock).Reaches Set.univ (.start snapshot.venue before) feed ∧
      .published snapshot ∈ feed.log

def validPublications : Set (OrderBook.Event Depth) := fun event =>
  ∀ snapshot now, event = .publish snapshot now → OrderBookSnapshotV1.Valid snapshot

theorem quiet_valid (event : OrderBook.Event Depth) (quiet : event.isPublish = false) :
    event ∈ validPublications := by
  intro snapshot now same
  rw [same] at quiet
  cases quiet

theorem local_published_valid (s t : OrderBook.State Depth) (j : Nat)
    (valid : ∀ entry ∈ s.store.published, OrderBookSnapshotV1.Valid entry.snapshot) (same : Local j s t) :
    ∀ entry ∈ t.store.published, OrderBookSnapshotV1.Valid entry.snapshot := by
  rw [same.published]
  exact valid

theorem published_valid_step (s : OrderBook.State Depth) (event : OrderBook.Event Depth)
    (allowed : event ∈ validPublications)
    (valid : ∀ entry ∈ s.store.published, OrderBookSnapshotV1.Valid entry.snapshot) :
    ∀ entry ∈ ((streams Depth).perform s event).store.published, OrderBookSnapshotV1.Valid entry.snapshot := by
  cases event with
  | publish snapshot now =>
      intro entry member
      rcases List.mem_append.mp member with old | new
      · exact valid entry old
      · rw [List.mem_singleton.mp new]
        exact allowed snapshot now rfl
  | markFeedState venue state now => exact valid
  | openStream k symbols venue now =>
      exact local_published_valid { s with clock := now } _ k valid (local_open _ k _ venue)
  | admitted k now => exact local_published_valid { s with clock := now } _ k valid (local_admitted _ k)
  | sent k now => exact local_published_valid { s with clock := now } _ k valid (local_sent _ k)
  | take k now => exact local_published_valid { s with clock := now } _ k valid (local_take _ k)
  | deliver k now => exact local_published_valid { s with clock := now } _ k valid (local_deliver _ k)
  | leave k now => exact local_published_valid { s with clock := now } _ k valid (local_leave _ k)
  | tick now => exact valid

theorem published_valid (limits : Limits) (clock : ℚ) (s : OrderBook.State Depth)
    (reached : (streams Depth).Reaches validPublications (initial limits clock) s) :
    ∀ entry ∈ s.store.published, OrderBookSnapshotV1.Valid entry.snapshot :=
  (streams Depth).reaches_invariant validPublications
    (fun s => ∀ entry ∈ s.store.published, OrderBookSnapshotV1.Valid entry.snapshot)
    (fun state event allowed valid _ => published_valid_step state event allowed valid)
    _ s reached (List.forall_mem_nil _)

theorem from_feeds_valid (event : SocketEvent Depth) (allowed : event ∈ fromFeeds literals upper feedClock)
    (snapshot : Snapshot Depth) (now : ℚ) (same : event = .publish snapshot now) :
    OrderBook.Event.publish snapshot now ∈ validPublications := by
  obtain ⟨before, feed, reached, member⟩ := allowed snapshot now same
  intro other at_ equal
  cases equal
  exact (feed_publications_valid literals upper feedClock before feed reached snapshot member).1

end Gateway

theorem frames_read (requested : List String) (normalizedVenue : String) (closing : Closing)
    (entries : List (Published Depth))
    (each : ∀ entry ∈ entries, OrderBookSnapshotV1.Valid entry.snapshot ∧
      entry.snapshot.venue.text = normalizedVenue ∧ entry.snapshot.symbol ∈ requested) :
    snapshots requested normalizedVenue (entries.map frame) closing =
      (entries.map (fun entry => entry.snapshot), closing.error) := by
  induction entries with
  | nil => rfl
  | cons entry rest ih =>
      obtain ⟨⟨valid, venue, symbol⟩, later⟩ := List.forall_mem_cons.mp each
      have read : readSnapshot requested normalizedVenue (frame entry) = .ok entry.snapshot := by
        rw [readSnapshot, frame, readEnvelope, envelope_round_trip entry.snapshot valid]
        exact (if_neg (not_not.mpr venue)).trans (if_neg (not_not.mpr symbol))
      rw [List.map_cons, snapshots, read, ih later, List.map_cons]

section Streams

variable (literals : Literals) (unicode : Unicode) (feedClock : Nat → ℚ)

theorem meant_stream (symbols : List String) (venueText : String) (names : List String) (venue : Venue)
    (meant : Meant unicode (.streamOrderBooks symbols venueText) (.streamOrderBook names venue)) :
    names = symbols.map (ticker unicode) ∧ ticker unicode venueText = venue.text := by
  cases meant with
  | streamOrderBooks _ _ _ same => exact ⟨rfl, same⟩

end Streams

section Sample

def sampleLiterals : Literals := ⟨fun _ => none, fun _ => none⟩

def msftBook : PyValue :=
  .dict [(.str "service", .str "NASDAQ_BOOK"),
    (.str "content", .list [.dict [(.str "key", .str "MSFT"), (.str "BOOK_TIME", .int 1500),
      (.str "BIDS", .list [sampleBid]), (.str "ASKS", .list [])]])]

def twoBooks : List FeedEvent :=
  [.loggedIn, .subscribed, .frame sampleFrame 2000000, .message sampleBook, .message msftBook, .message sampleBook]

def streamedFeed : OrderBookLiveFeed :=
  (liveFeed sampleLiterals asciiUnicode.upper .nasdaq (fun n => n)).performAll (.start .nasdaq sampleStore) twoBooks

def publishedFrom (first count : Nat) : List (SocketEvent Depth) :=
  (((publications streamedFeed.log).drop first).take count).map fun snapshot => .publish snapshot 0

-- Both symbols are replayed, and one of them is published once more behind
-- the replay.
def streamedEvents : List (SocketEvent Depth) :=
  publishedFrom 0 2 ++ [.request .protected sampleSymbols .nasdaq 0, .prepared 0 0, .sent 0 0] ++
    publishedFrom 2 1 ++ [.sent 0 0, .take 0 0, .deliver 0 0]

def streamedSockets : Sockets Depth :=
  (sockets Depth).performAll (Sockets.opened samplePolicy sampleLimits 0) streamedEvents

theorem published_of_publications (log : List FeedMark) (snapshot : Snapshot Depth)
    (member : snapshot ∈ publications log) : .published snapshot ∈ log := by
  induction log with
  | nil => cases member
  | cons mark older ih =>
      cases mark with
      | published shown =>
          rcases List.mem_append.mp member with earlier | here
          · exact List.mem_cons_of_mem _ (ih earlier)
          · exact List.mem_singleton.mp here ▸ List.mem_cons_self
      | _ => exact List.mem_cons_of_mem _ (ih member)

theorem published_from_feeds (first count : Nat) :
    ∀ event ∈ publishedFrom first count, event ∈ fromFeeds sampleLiterals asciiUnicode.upper (fun n => n) := by
  intro event member snapshot now same
  obtain ⟨shown, taken, equal⟩ := List.mem_map.mp member
  cases equal.trans same
  have logged := List.mem_of_mem_drop (List.mem_of_mem_take taken)
  have venues : ∀ snapshot ∈ publications streamedFeed.log, snapshot.venue = .nasdaq := by decide +kernel
  rw [venues snapshot logged]
  refine ⟨sampleStore, streamedFeed, ?_, published_of_publications _ _ logged⟩
  exact System.reaches_perform_all _ Set.univ _ twoBooks (fun _ _ => trivial) (by decide +kernel)

theorem streamed_from_feeds :
    ∀ event ∈ streamedEvents, event ∈ fromFeeds sampleLiterals asciiUnicode.upper (fun n => n) := by
  intro event member
  simp only [streamedEvents, List.mem_append, or_assoc] at member
  rcases member with published | opened | published | served
  · exact published_from_feeds 0 2 event published
  · intro snapshot now same
    subst same
    simp at opened
  · exact published_from_feeds 2 1 event published
  · intro snapshot now same
    subst same
    simp at served

end Sample

end SchwabGateway.Client
