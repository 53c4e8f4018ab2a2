import SchwabGateway.OrderBook.Feed

set_option autoImplicit false

namespace SchwabGateway.OrderBook

open SchwabGateway.Library SchwabGateway.Python
open SchwabGateway.Upstream (mem_flag_if)

-- The log read from its newest mark: how many logins there were, how many
-- failures since data was last validated, and which symbols were published
-- since the last login.
def loginsIn : List FeedMark → Nat
  | [] => 0
  | .loggedIn :: older => loginsIn older + 1
  | _ :: older => loginsIn older

def consecutiveFailures : List FeedMark → Nat
  | [] => 0
  | .validated :: _ => 0
  | .failed _ :: older => consecutiveFailures older + 1
  | _ :: older => consecutiveFailures older

def shownIn : List FeedMark → List String
  | [] => []
  | .loggedIn :: _ => []
  | .published snapshot :: older => snapshot.symbol :: shownIn older
  | _ :: older => shownIn older

def publications : List FeedMark → List (Snapshot Depth)
  | [] => []
  | .published snapshot :: older => publications older ++ [snapshot]
  | _ :: older => publications older

def FeedMark.disconnects : FeedMark → Bool
  | .failed _ => true
  | .interrupted => true
  | _ => false

def Subscribed (log : List FeedMark) : Prop :=
  ∃ newer older, log = newer ++ .subscribed :: older ∧ ∀ mark ∈ newer, mark.disconnects = false

structure Labelled (older : List FeedMark) (snapshot : Snapshot Depth) : Prop where
  connection : snapshot.depth.connectionId = loginsIn older
  epoch : snapshot.depth.continuityEpoch = loginsIn older
  boundary : "reconnect_boundary" ∈ snapshot.depth.dataQualityFlags ↔
    1 < loginsIn older ∧ snapshot.symbol ∉ shownIn older

-- What a mark has to be after the marks before it. The failure itself is the
-- last of the consecutive ones.
def FeedMark.Sound (older : List FeedMark) : FeedMark → Prop
  | .published snapshot => Labelled older snapshot
  | .failed delay => delay = min (2 ^ (consecutiveFailures (.failed delay :: older) - 1)) 8
  | _ => True

def SoundLog (log : List FeedMark) : Prop :=
  ∀ newer mark older, log = newer ++ mark :: older → mark.Sound older

theorem sound_cons (mark : FeedMark) (log : List FeedMark) (sound : SoundLog log) (fits : mark.Sound log) :
    SoundLog (mark :: log) := by
  intro newer other older split
  cases newer with
  | nil =>
      cases split
      exact fits
  | cons first newer =>
      cases split
      exact sound newer other older rfl

theorem sound_tail (mark : FeedMark) (log : List FeedMark) (sound : SoundLog (mark :: log)) : SoundLog log := by
  intro newer other older split
  exact sound (mark :: newer) other older (by rw [split, List.cons_append])

theorem subscribed_cons (mark : FeedMark) (log : List FeedMark) (subscribed : Subscribed log)
    (stays : mark.disconnects = false) : Subscribed (mark :: log) := by
  obtain ⟨newer, older, rfl, quiet⟩ := subscribed
  exact ⟨mark :: newer, older, rfl, List.forall_mem_cons.mpr ⟨stays, quiet⟩⟩

theorem logins_cons (mark : FeedMark) (log : List FeedMark) : loginsIn log ≤ loginsIn (mark :: log) := by
  cases mark <;> simp [loginsIn]

theorem publications_bounded (log : List FeedMark) (sound : SoundLog log) :
    ∀ snapshot ∈ publications log, snapshot.depth.connectionId ≤ loginsIn log := by
  induction log with
  | nil => nofun
  | cons mark log ih =>
      have earlier : ∀ snapshot ∈ publications log, snapshot.depth.connectionId ≤ loginsIn (mark :: log) :=
        fun snapshot member => le_trans (ih (sound_tail mark log sound) snapshot member) (logins_cons mark log)
      cases mark with
      | published snapshot =>
          intro other member
          rcases List.mem_append.mp member with old | new
          · exact earlier other old
          · rw [List.mem_singleton.mp new]
            exact le_of_eq (sound [] _ log rfl).connection
      | _ => exact earlier

theorem publications_ascending (log : List FeedMark) (sound : SoundLog log) :
    (publications log).Pairwise
      (fun first second => first.depth.connectionId ≤ second.depth.connectionId) := by
  induction log with
  | nil => exact List.Pairwise.nil
  | cons mark log ih =>
      have earlier := ih (sound_tail mark log sound)
      cases mark with
      | published snapshot =>
          refine List.pairwise_append.mpr ⟨earlier, List.pairwise_singleton _ _, ?_⟩
          intro first old second new
          rw [List.mem_singleton.mp new, (sound [] _ log rfl).connection]
          exact publications_bounded log (sound_tail _ log sound) first old
      | _ => exact earlier

-- min(2 ** min(failures - 1, 3), 8), without the inner bound.
theorem backoff_delay (failures : Nat) :
    min (2 ^ min failures 3) 8 = min (2 ^ failures) 8 := by
  rcases Nat.le_total failures 3 with small | large
  · rw [Nat.min_eq_left small]
  · have eight : (2 : Nat) ^ 3 ≤ 2 ^ failures := Nat.pow_le_pow_right (by decide) large
    rw [Nat.min_eq_right large]
    exact (Nat.min_eq_right eight).symm

section Stores

variable {β : Type} (s : Store β) (venue : Venue)

theorem mark_feed_state_here (state : FeedState) : (s.markFeedState venue state).feedState venue = state :=
  Function.update_self ..

theorem publish_published_at (snapshot : Snapshot β) (now : ℚ) (own : snapshot.venue = venue) :
    ((s.publish snapshot now).publishedAt venue).map Published.snapshot =
      (s.publishedAt venue).map Published.snapshot ++ [snapshot] := by
  simp [Store.publishedAt, Store.publish, List.filter_append, own]

end Stores

section Runs

variable (literals : Literals) (upper : String → String) (venue : Venue) (clock : Nat → ℚ)
variable (before : Store Depth)

structure Counts (feed : OrderBookLiveFeed) : Prop where
  marks : SoundLog feed.log
  connection : feed.connectionId = loginsIn feed.log
  failures : feed.failures = consecutiveFailures feed.log
  seen : feed.seenSymbols = shownIn feed.log
  stored : (feed.store.publishedAt venue).map Published.snapshot =
    (before.publishedAt venue).map Published.snapshot ++ publications feed.log

structure Tracks (feed : OrderBookLiveFeed) : Prop extends Counts venue before feed where
  sleeping : ∀ delay, feed.place = .sleeping delay → ∃ older, feed.log = .failed delay :: older
  receiving : feed.place = .receiving → Subscribed feed.log
  connected : feed.store.feedState venue = .connected → feed.place = .receiving

variable {venue before}

theorem counts_down (feed : OrderBookLiveFeed) (counts : Counts venue before feed)
    (down : feed.store.feedState venue ≠ .connected) (place : FeedPlace) (stream : Bool)
    (other : place ≠ .receiving) (awake : ∀ delay, place ≠ .sleeping delay) :
    Tracks venue before { feed with place := place, stream := stream } :=
  { counts with
    sleeping := fun delay same => absurd same (awake delay)
    receiving := fun same => absurd same other
    connected := fun same => absurd same down }

theorem counts_note (feed : OrderBookLiveFeed) (counts : Counts venue before feed) :
    Counts venue before (feed.note .interrupted) :=
  { counts with marks := sound_cons _ _ counts.marks trivial }

theorem mark_down (feed : OrderBookLiveFeed) (state : FeedState) (other : state ≠ .connected) :
    (feed.mark venue state).store.feedState venue ≠ .connected := by
  rw [OrderBookLiveFeed.mark, mark_feed_state_here]
  exact other

theorem counts_mark (feed : OrderBookLiveFeed) (counts : Counts venue before feed) (state : FeedState) :
    Counts venue before (feed.mark venue state) :=
  { counts with }

theorem tracks_attempt (feed : OrderBookLiveFeed) (counts : Counts venue before feed) :
    Tracks venue before (feed.attempt venue) :=
  counts_down _ (counts_mark feed counts .connecting) (mark_down feed .connecting nofun) .loggingIn false nofun nofun

theorem tracks_start : Tracks venue before (OrderBookLiveFeed.start venue before) := by
  apply tracks_attempt
  constructor
  · intro newer mark older split
    exact absurd split.symm (List.append_ne_nil_of_right_ne_nil _ (List.cons_ne_nil _ _))
  · rfl
  · rfl
  · rfl
  · exact (List.append_nil _).symm

theorem tracks_logged_in (feed : OrderBookLiveFeed) (tracks : Tracks venue before feed)
    (place : feed.place = .loggingIn) : Tracks venue before feed.loggedIn where
  marks := sound_cons _ _ tracks.marks trivial
  connection := congrArg (· + 1) tracks.connection
  failures := tracks.failures
  seen := rfl
  stored := tracks.stored
  sleeping := nofun
  receiving := nofun
  connected := fun same => by cases place.symm.trans (tracks.connected same)

theorem tracks_subscribed (feed : OrderBookLiveFeed) (tracks : Tracks venue before feed) :
    Tracks venue before (feed.subscribed venue) where
  marks := sound_cons _ _ tracks.marks trivial
  connection := tracks.connection
  failures := tracks.failures
  seen := tracks.seen
  stored := tracks.stored
  sleeping := nofun
  receiving := fun _ => ⟨[], feed.log, rfl, nofun⟩
  connected := fun _ => rfl

theorem tracks_decoded (feed : OrderBookLiveFeed) (tracks : Tracks venue before feed) (payload : PyValue)
    (at_ : Datetime) : Tracks venue before (feed.decoded venue payload at_) := by
  by_cases framed : frameHasService payload [venue.service] = true
  · rw [OrderBookLiveFeed.decoded, if_pos framed]
    exact { tracks with }
  · rw [OrderBookLiveFeed.decoded, if_neg framed]
    exact tracks

theorem tracks_raised (feed : OrderBookLiveFeed) (counts : Counts venue before feed) :
    Tracks venue before (feed.raised venue) where
  marks := by
    apply sound_cons _ _ counts.marks
    have delay := backoff_delay feed.failures
    rw [counts.failures] at delay
    simpa [FeedMark.Sound, consecutiveFailures, counts.failures] using delay
  connection := counts.connection
  failures := congrArg (· + 1) counts.failures
  seen := counts.seen
  stored := counts.stored
  sleeping := by
    rintro delay ⟨⟩
    exact ⟨feed.log, rfl⟩
  receiving := nofun
  connected := fun same => absurd same (mark_down feed .disconnected nofun)

theorem tracks_continue (raising : Bool) (feed : OrderBookLiveFeed) (counts : Counts venue before feed)
    (down : feed.store.feedState venue ≠ .connected) : Tracks venue before (feed.continue_ venue raising) := by
  cases raising with
  | true => exact counts_down feed counts down .ended feed.stream nofun nofun
  | false => exact tracks_attempt feed counts

theorem tracks_leave (raising : Bool) (feed : OrderBookLiveFeed) (counts : Counts venue before feed) :
    Tracks venue before (feed.leave venue raising) := by
  have marked := counts_mark feed counts .disconnected
  have down : (feed.mark venue .disconnected).store.feedState venue ≠ .connected :=
    mark_down feed .disconnected nofun
  by_cases stream : feed.stream = true
  · rw [OrderBookLiveFeed.leave, if_pos stream]
    exact counts_down _ marked down (.loggingOut raising) feed.stream nofun nofun
  · rw [OrderBookLiveFeed.leave, if_neg stream]
    exact tracks_continue raising _ marked down

theorem tracks_logged_out (feed : OrderBookLiveFeed) (tracks : Tracks venue before feed) :
    Tracks venue before (feed.loggedOut venue) := by
  cases place : feed.place with
  | loggingOut raising =>
      simp only [OrderBookLiveFeed.loggedOut, place]
      apply tracks_continue raising feed tracks.toCounts
      intro same
      cases place.symm.trans (tracks.connected same)
  | _ => simpa only [OrderBookLiveFeed.loggedOut, place] using tracks

theorem tracks_interrupted (feed : OrderBookLiveFeed) (tracks : Tracks venue before feed) :
    Tracks venue before (feed.interrupted venue) := by
  have noted := counts_note feed tracks.toCounts
  cases place : feed.place with
  | loggingOut raising =>
      simp only [OrderBookLiveFeed.interrupted, place]
      apply counts_down _ noted _ .ended feed.stream nofun nofun
      intro same
      cases place.symm.trans (tracks.connected same)
  | _ => simpa only [OrderBookLiveFeed.interrupted, place] using tracks_leave true _ noted

theorem label_boundary (feed : OrderBookLiveFeed) (snapshot : Snapshot Depth)
    (unlabelled : "reconnect_boundary" ∉ snapshot.depth.dataQualityFlags) :
    "reconnect_boundary" ∈ (feed.label snapshot).depth.dataQualityFlags ↔
      1 < feed.connectionId ∧ snapshot.symbol ∉ feed.seenSymbols := by
  simp [OrderBookLiveFeed.label, List.mem_eraseDups, mem_flag_if, unlabelled]

theorem tracks_publish (feed : OrderBookLiveFeed) (tracks : Tracks venue before feed)
    (receiving : feed.place = .receiving) (snapshot : Snapshot Depth) (own : snapshot.venue = venue)
    (unlabelled : "reconnect_boundary" ∉ snapshot.depth.dataQualityFlags) :
    Tracks venue before (feed.publish clock snapshot) where
  marks := by
    apply sound_cons _ _ tracks.marks
    refine ⟨tracks.connection, tracks.connection, ?_⟩
    rw [label_boundary feed snapshot unlabelled, tracks.connection, tracks.seen]
    rfl
  connection := tracks.connection
  failures := tracks.failures
  seen := congrArg (snapshot.symbol :: ·) tracks.seen
  stored := by
    have published := publish_published_at feed.store venue (feed.label snapshot)
      (clock feed.store.published.length) own
    rw [tracks.stored, List.append_assoc] at published
    exact published
  sleeping := fun _ same => by cases receiving.symm.trans same
  receiving := fun _ => subscribed_cons _ _ (tracks.receiving receiving) rfl
  connected := fun _ => receiving

theorem tracks_validated (feed : OrderBookLiveFeed) (tracks : Tracks venue before feed)
    (receiving : feed.place = .receiving) : Tracks venue before feed.validated where
  marks := sound_cons _ _ tracks.marks trivial
  connection := tracks.connection
  failures := rfl
  seen := tracks.seen
  stored := tracks.stored
  sleeping := fun _ same => by cases receiving.symm.trans same
  receiving := fun _ => subscribed_cons _ _ (tracks.receiving receiving) rfl
  connected := tracks.connected

theorem normalized_unlabelled (receivedAt : Datetime) (snapshot : Snapshot Depth)
    (normalized : Normalized venue receivedAt snapshot) :
    "reconnect_boundary" ∉ snapshot.depth.dataQualityFlags := by
  intro member
  rw [normalized.flags] at member
  have known := book_flags_known _ _ _ _ member
  revert known
  decide

theorem tracks_publish_all (receivedAt : Datetime) (snapshots : List (Snapshot Depth))
    (normalized : ∀ snapshot ∈ snapshots, Normalized venue receivedAt snapshot)
    (feed : OrderBookLiveFeed) (tracks : Tracks venue before feed) (receiving : feed.place = .receiving) :
    Tracks venue before (snapshots.foldl (OrderBookLiveFeed.publish clock) feed) := by
  induction snapshots generalizing feed with
  | nil => exact tracks
  | cons snapshot rest ih =>
      obtain ⟨here, later⟩ := List.forall_mem_cons.mp normalized
      have published := tracks_publish clock feed tracks receiving snapshot here.venue
        (normalized_unlabelled receivedAt snapshot here)
      exact ih later (feed.publish clock snapshot) published receiving

theorem tracks_handled (feed : OrderBookLiveFeed) (tracks : Tracks venue before feed)
    (receiving : feed.place = .receiving) (message : PyValue) :
    Tracks venue before (feed.handleBook literals upper venue clock message) := by
  cases received : feed.lastReceivedAt with
  | none => simpa only [OrderBookLiveFeed.handleBook, received] using tracks
  | some receivedAt =>
      have raised := tracks_raised feed tracks.toCounts
      cases done : normalizeSchwabBookMessage literals upper venue receivedAt message with
      | error error =>
          cases error with
          | malformed text => simpa only [OrderBookLiveFeed.handleBook, received, done] using tracks
          | validation field text => simpa only [OrderBookLiveFeed.handleBook, received, done] using raised
          | overflowError => simpa only [OrderBookLiveFeed.handleBook, received, done] using raised
      | ok snapshots =>
          obtain ⟨present, normalized⟩ :=
            normalize_normalized literals upper venue receivedAt message snapshots done
          have filled : snapshots.isEmpty = false := List.isEmpty_eq_false_iff.mpr present
          simp only [OrderBookLiveFeed.handleBook, received, done, filled, Bool.false_eq_true, if_false]
          exact tracks_publish_all clock receivedAt snapshots normalized _
            (tracks_validated feed tracks receiving) receiving

theorem tracks_elsewhere (feed : OrderBookLiveFeed) (tracks : Tracks venue before feed) (store : Store Depth)
    (aside : Aside venue feed.store store) : Tracks venue before { feed with store := store } where
  marks := tracks.marks
  connection := tracks.connection
  failures := tracks.failures
  seen := tracks.seen
  stored := by
    rw [aside.2]
    exact tracks.stored
  sleeping := tracks.sleeping
  receiving := tracks.receiving
  connected := fun same => tracks.connected (aside.1.symm.trans same)

theorem tracks_step (feed : OrderBookLiveFeed) (event : FeedEvent) (tracks : Tracks venue before feed)
    (enabled : (liveFeed literals upper venue clock).enabled feed event) :
    Tracks venue before ((liveFeed literals upper venue clock).perform feed event) := by
  cases event with
  | loggedIn => exact tracks_logged_in feed tracks enabled
  | subscribed => exact tracks_subscribed feed tracks
  | frame payload at_ => exact tracks_decoded feed tracks payload at_
  | message value => exact tracks_handled literals upper clock feed tracks enabled value
  | raised => exact tracks_raised feed tracks.toCounts
  | slept => exact tracks_leave false feed tracks.toCounts
  | loggedOut => exact tracks_logged_out feed tracks
  | interrupted => exact tracks_interrupted feed tracks
  | elsewhere store => exact tracks_elsewhere feed tracks store enabled

variable (venue before)

-- Publications carry the number of their connection, and the first of a symbol
-- on a later connection is the only one marked as its boundary; delays follow
-- the failures since validated data; the state is connected only from a
-- subscription to the next disconnect.
structure Continuous (feed : OrderBookLiveFeed) : Prop where
  marks : SoundLog feed.log
  stored : (feed.store.publishedAt venue).map Published.snapshot =
    (before.publishedAt venue).map Published.snapshot ++ publications feed.log
  ascending : (publications feed.log).Pairwise
    (fun first second => first.depth.connectionId ≤ second.depth.connectionId)
  sleeping : ∀ delay, feed.place = .sleeping delay → ∃ older, feed.log = .failed delay :: older
  connected : feed.store.feedState venue = .connected → Subscribed feed.log

theorem live_feed_continuous (feed : OrderBookLiveFeed)
    (reached : (liveFeed literals upper venue clock).Reaches Set.univ (.start venue before) feed) :
    Continuous venue before feed := by
  have tracks : Tracks venue before feed :=
    (liveFeed literals upper venue clock).reaches_invariant Set.univ (Tracks venue before)
      (fun feed event _ => tracks_step literals upper clock feed event) _ feed reached tracks_start
  exact {
    marks := tracks.marks
    stored := tracks.stored
    ascending := publications_ascending feed.log tracks.marks
    sleeping := tracks.sleeping
    connected := fun same => tracks.receiving (tracks.connected same) }

end Runs

section Sample

def sampleParticipant : PyValue :=
  .dict [(.str "EXCHANGE", .str "NSDQ"), (.str "BID_VOLUME", .int 5), (.str "SEQUENCE", .int 12)]

def sampleBid : PyValue :=
  .dict [(.str "BIDS", .list [sampleParticipant]), (.str "BID_PRICE", .float (.finite 10)),
    (.str "TOTAL_VOLUME", .int 5), (.str "NUM_BIDS", .int 1)]

def sampleBook : PyValue :=
  .dict [(.str "service", .str "NASDAQ_BOOK"),
    (.str "content", .list [.dict [(.str "key", .str " AAPL "), (.str "BOOK_TIME", .int 1000),
      (.str "BIDS", .list [sampleBid]), (.str "ASKS", .list [])]])]

def sampleFrame : PyValue := .dict [(.str "data", .list [.dict [(.str "service", .str "NASDAQ_BOOK")]])]

def sampleConnection : List FeedEvent :=
  [.loggedIn, .subscribed, .frame sampleFrame 2000000, .message .none, .message sampleBook, .message sampleBook]

-- A subscription that fails, then two connections with a failed login between them.
def sampleFeedEvents : List FeedEvent :=
  [.loggedIn, .raised, .slept, .loggedOut] ++ sampleConnection ++ [.raised, .slept, .loggedOut] ++
    [.raised, .slept] ++ sampleConnection

def sampleFeed : System OrderBookLiveFeed FeedEvent :=
  liveFeed ⟨fun _ => none, fun _ => none⟩ (fun text => text) .nasdaq (fun n => n)

def sampleStore : Store Depth := .empty sampleLimits

def sampleEnd : OrderBookLiveFeed := sampleFeed.performAll (.start .nasdaq sampleStore) sampleFeedEvents

def sampleLabels : List (Nat × List String) :=
  (publications sampleEnd.log).map fun snapshot =>
    (snapshot.depth.connectionId, snapshot.depth.dataQualityFlags)

theorem live_feed_continuous_sample :
    sampleLabels =
        [(2, ["empty_ask_book", "missing_sequence", "reconnect_boundary"]),
          (2, ["empty_ask_book", "missing_sequence"]),
          (3, ["empty_ask_book", "missing_sequence", "reconnect_boundary"]),
          (3, ["empty_ask_book", "missing_sequence"])] ∧
      Continuous .nasdaq sampleStore sampleEnd :=
  ⟨by decide +kernel,
    live_feed_continuous _ _ .nasdaq _ sampleStore sampleEnd
      (sampleFeed.reaches_perform_all Set.univ _ sampleFeedEvents (fun _ _ => trivial)
        (by
          unfold sampleFeed
          decide +kernel))⟩

end Sample

end SchwabGateway.OrderBook
