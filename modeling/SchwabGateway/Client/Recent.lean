import SchwabGateway.Client.Stream
import SchwabGateway.OrderBook.Recent
import SchwabGateway.Reads.Announcement

set_option autoImplicit false

namespace SchwabGateway.Client

open SchwabGateway.Api SchwabGateway.Library SchwabGateway.Python SchwabGateway.Upstream SchwabGateway.OrderBook
open SchwabGateway.Reads (GatewayError getTypedStatus)

structure HttpAnswer where
  status : Nat
  retryAfter : String
  body : Json

def errorCodeIn : Json → Option String
  | .object fields =>
      match fields.lookup "error" with
      | some (.object error) =>
          match error.lookup "code" with
          | some (.text code) => some code
          | _ => none
      | _ => none
  | _ => none

-- GatewayResponseError for a body that is not of the model.
inductive ReadError where
  | gateway (error : GatewayError)
  | contract (message : String)
deriving DecidableEq

def marketDataContract : String := "gateway returned an invalid market data contract"

def getTyped {α : Type} (modelValidate : Json → Result α) (answer : HttpAnswer) : Except ReadError α :=
  match getTypedStatus answer.status ((errorCodeIn answer.body).getD "") answer.retryAfter with
  | some error => .error (.gateway error)
  | none =>
      match modelValidate answer.body with
      | .ok value => .ok value
      | .error _ => .error (.contract marketDataContract)

-- _error and _json of the gateway.
def errorAnswer (code message : String) (status : Nat) : HttpAnswer where
  status := status
  retryAfter := ""
  body := .object [("schema_version", .text "1.0"), ("error", .object [("code", .text code), ("message", .text message)])]

def jsonAnswer (body : Json) : HttpAnswer := ⟨200, "", body⟩

-- An exception that no handler expects is answered by the server.
def serverError : HttpAnswer := ⟨500, "", .null⟩

def checkedAge (ageSeconds : ℚ) : Result ℚ≥0 := OrderBookRecentResponseV1.checkAge (.finite ageSeconds)

def recentResponse (symbol : String) (venue : Venue) (generatedAt : Datetime) (snapshots : List (Published Depth))
    (ageSeconds : ℚ) : Result OrderBookRecentResponseV1 := do
  let age ← checkedAge ageSeconds
  OrderBookRecentResponseV1.make symbol venue (snapshots.map Published.snapshot) generatedAt age

def recentAnswer (symbol : String) (venue : Venue) (generatedAt : Datetime) : OrderBook.Recent Depth → HttpAnswer
  | .error code message status => errorAnswer code message status
  | .serverError => serverError
  | .json snapshots ageSeconds =>
      match recentResponse symbol venue generatedAt snapshots ageSeconds with
      | .ok response => jsonAnswer response.modelDump
      | .error _ => serverError

section Health

variable {β : Type} (limits : Limits) (store : Store β) (clock : ℚ) (maxAge : MaxAge) (symbol : String)
  (venue : Venue) (now : ℚ)

theorem rtake_last (list : List β) (n : Nat) (positive : 1 ≤ n) : (list.rtake n).getLast? = list.getLast? := by
  rw [List.rtake, List.getLast?_drop]
  cases list with
  | nil => rfl
  | cons item rest =>
      rw [if_neg]
      simp only [List.length_cons]
      omega

def Young : Prop :=
  store.feedState venue = .connected ∧
    ∃ last, (store.publishedOf (symbol, venue)).getLast? = some last ∧ now - last.publishedAt ≤ maxAge.seconds

variable (kept : Kept limits store) (logged : Logged store clock) (later : clock ≤ now)

include kept logged

theorem last_published :
    store.lastPublish (symbol, venue) =
      (store.publishedOf (symbol, venue)).getLast?.map Published.publishedAt := by
  rw [logged.last, kept.history, rtake_last _ _ limits.historyBounded.1]

include later

theorem young_health (last : Published β) (connected : store.feedState venue = .connected)
    (newest : (store.publishedOf (symbol, venue)).getLast? = some last)
    (young : now - last.publishedAt ≤ maxAge.seconds) :
    store.snapshotHealth symbol venue maxAge.seconds now =
      .ok ⟨true, some (now - last.publishedAt), "snapshot_fresh"⟩ := by
  have member : last ∈ store.published := List.mem_of_mem_filter (List.mem_of_getLast? newest)
  have past : 0 ≤ now - last.publishedAt := sub_nonneg.mpr (le_trans (logged.past last member) later)
  have age : max (now - last.publishedAt) 0 = now - last.publishedAt := max_eq_left past
  have published := last_published limits store clock symbol venue kept logged
  rw [newest] at published
  rw [Store.snapshotHealth, if_neg (not_le.mpr maxAge.positive), if_neg (not_not.mpr connected), published]
  dsimp only [Option.map_some]
  rw [age, if_neg (not_lt.mpr young)]

theorem old_health (old : ¬ Young store maxAge symbol venue now) :
    ∃ age reason, store.snapshotHealth symbol venue maxAge.seconds now = .ok ⟨false, age, reason⟩ := by
  rw [Store.snapshotHealth, if_neg (not_le.mpr maxAge.positive)]
  by_cases connected : store.feedState venue = .connected
  · rw [if_neg (not_not.mpr connected), last_published limits store clock symbol venue kept logged]
    cases newest : (store.publishedOf (symbol, venue)).getLast? with
    | none => exact ⟨_, _, rfl⟩
    | some last =>
        have member : last ∈ store.published := List.mem_of_mem_filter (List.mem_of_getLast? newest)
        have past : 0 ≤ now - last.publishedAt := sub_nonneg.mpr (le_trans (logged.past last member) later)
        have late : maxAge.seconds < max (now - last.publishedAt) 0 := by
          rw [max_eq_left past]
          by_contra young
          exact old ⟨connected, last, newest, not_lt.mp young⟩
        exact ⟨_, _, if_pos late⟩
  · rw [if_pos connected]
    exact ⟨_, _, rfl⟩

end Health

section Answers

variable {α : Type} (modelValidate : Json → Result α) (answer : HttpAnswer)

theorem get_typed_error (error : GatewayError)
    (told : getTypedStatus answer.status ((errorCodeIn answer.body).getD "") answer.retryAfter = some error) :
    getTyped modelValidate answer = .error (.gateway error) := by
  rw [getTyped, told]

theorem get_typed_value (value : α)
    (told : getTypedStatus answer.status ((errorCodeIn answer.body).getD "") answer.retryAfter = none)
    (read : modelValidate answer.body = .ok value) : getTyped modelValidate answer = .ok value := by
  rw [getTyped, told]
  dsimp only
  rw [read]

theorem unavailable_read (message : String) :
    getTyped modelValidate (errorAnswer "order_book_unavailable" message 503) = .error (.gateway .unavailable) := by
  have told : getTypedStatus 503 "order_book_unavailable" "" = some .unavailable := by simp [getTypedStatus]
  exact get_typed_error modelValidate _ .unavailable told

end Answers

theorem response_read (response : OrderBookRecentResponseV1)
    (valid : ∀ snapshot ∈ response.snapshots, OrderBookSnapshotV1.Valid snapshot) :
    getTyped OrderBookRecentResponseV1.modelValidate (jsonAnswer response.modelDump) = .ok response :=
  get_typed_value OrderBookRecentResponseV1.modelValidate (jsonAnswer response.modelDump) response
    (by simp [jsonAnswer, getTypedStatus]) (OrderBookRecentResponseV1.recent_round_trip response valid)

section Recent

variable (literals : Literals) (unicode : Unicode) (feedClock : Nat → ℚ)

structure Given (limits : Limits) (log : List (Published Depth)) (symbol venueText : String) (limit : Nat)
    (generatedAt : Datetime) (age : ℚ) (response : OrderBookRecentResponseV1) : Prop where
  symbol : response.symbol = symbol
  venue : response.venue.text = venueText
  snapshots : response.snapshots = (log.rtake (min limit limits.historyLimit)).map Published.snapshot
  generatedAt : response.generatedAt = generatedAt
  age : (response.ageSeconds : ℚ) = age

theorem served_given (limits : Limits) (store : Store Depth) (clock : ℚ) (kept : Kept limits store)
    (logged : Logged store clock) (valid : ∀ entry ∈ store.published, OrderBookSnapshotV1.Valid entry.snapshot)
    (maxAge : MaxAge) (symbol : String) (venue : Venue) (limit : Nat) (within : 1 ≤ limit ∧ limit ≤ 1000)
    (now : ℚ) (later : clock ≤ now) (generatedAt : Datetime) (last : Published Depth)
    (connected : store.feedState venue = .connected)
    (newest : (store.publishedOf (symbol, venue)).getLast? = some last)
    (young : now - last.publishedAt ≤ maxAge.seconds) :
    ∃ response, getTyped OrderBookRecentResponseV1.modelValidate
        (recentAnswer symbol venue generatedAt (store.recentOrderBook symbol venue limit maxAge.seconds now)) =
          .ok response ∧
      Given limits (store.publishedOf (symbol, venue)) symbol venue.text limit generatedAt
        (now - last.publishedAt) response := by
  have health := young_health limits store clock maxAge symbol venue now kept logged later last connected newest young
  have member : last ∈ store.published := List.mem_of_mem_filter (List.mem_of_getLast? newest)
  have past : 0 ≤ now - last.publishedAt := sub_nonneg.mpr (le_trans (logged.past last member) later)
  have stored := kept_recent limits store kept symbol venue limit within
  have served : store.recentOrderBook symbol venue limit maxAge.seconds now =
      .json ((store.publishedOf (symbol, venue)).rtake (min limit limits.historyLimit)) (now - last.publishedAt) := by
    rw [Store.recentOrderBook, health]
    dsimp only
    rw [stored]
  have own : ∀ snapshot ∈ ((store.publishedOf (symbol, venue)).rtake (min limit limits.historyLimit)).map
      Published.snapshot, OrderBookSnapshotV1.Valid snapshot ∧ snapshot.symbol = symbol ∧ snapshot.venue = venue := by
    intro snapshot there
    obtain ⟨entry, taken, same⟩ := List.mem_map.mp there
    obtain ⟨published, key⟩ := List.mem_filter.mp (List.mem_of_mem_drop taken)
    rw [← same]
    obtain ⟨name, place⟩ := Prod.mk.inj (of_decide_eq_true key)
    exact ⟨valid entry published, name, place⟩
  have matching := fun snapshot there => (own snapshot there).2
  have age : checkedAge (now - last.publishedAt) = .ok (now - last.publishedAt).toNNRat := if_pos past
  have made : recentResponse symbol venue generatedAt
      ((store.publishedOf (symbol, venue)).rtake (min limit limits.historyLimit)) (now - last.publishedAt) =
        .ok ⟨symbol, venue, _, generatedAt, (now - last.publishedAt).toNNRat, matching⟩ := by
    rw [recentResponse, age]
    exact dif_pos matching
  refine ⟨⟨symbol, venue, _, generatedAt, (now - last.publishedAt).toNNRat, matching⟩, ?_, ?_⟩
  · rw [served, recentAnswer, made]
    exact response_read _ (fun snapshot there => (own snapshot there).1)
  · exact ⟨rfl, rfl, rfl, rfl, Rat.coe_toNNRat _ past⟩

theorem unserved_unavailable (limits : Limits) (store : Store Depth) (clock : ℚ) (kept : Kept limits store)
    (logged : Logged store clock) (maxAge : MaxAge) (symbol : String) (venue : Venue) (limit : Nat) (now : ℚ)
    (later : clock ≤ now) (generatedAt : Datetime) (old : ¬ Young store maxAge symbol venue now) :
    getTyped OrderBookRecentResponseV1.modelValidate
        (recentAnswer symbol venue generatedAt (store.recentOrderBook symbol venue limit maxAge.seconds now)) =
      .error (.gateway .unavailable) := by
  obtain ⟨age, reason, health⟩ := old_health limits store clock maxAge symbol venue now kept logged later old
  have refused : store.recentOrderBook symbol venue limit maxAge.seconds now =
      .error "order_book_unavailable" ("order-book snapshot is unavailable (" ++ reason ++ ")") 503 := by
    rw [Store.recentOrderBook, health]
  rw [refused]
  exact unavailable_read _ _

-- The end-to-end law of the recent depth: whoever asks for it is given the
-- newest publications of the symbol in the order of their publication, all of
-- them up to both limits, and their age; or is told that it is unavailable,
-- which it is when the feed is not connected or its newest publication is too
-- old. No answer of the gateway is refused by the model of the SDK.
theorem recent_read_back (policy : AdmissionPolicy) (limits : Limits) (clock : ℚ) (s : Sockets Depth)
    (reached : (sockets Depth).Reaches (fromFeeds literals unicode.upper feedClock)
      (Sockets.opened policy limits clock) s)
    (symbol venueText name : String) (venue : Venue) (limit bound : Int)
    (meant : Meant unicode (.getRecentOrderBook symbol venueText limit) (.recentOrderBook name venue bound))
    (maxAge : MaxAge) (now : ℚ) (later : s.book.clock ≤ now) (generatedAt : Datetime) :
    let log := s.book.store.publishedOf (ticker unicode symbol, venue)
    let seen := getTyped OrderBookRecentResponseV1.modelValidate
      (recentAnswer name venue generatedAt (s.book.store.recentOrderBook name venue bound.toNat maxAge.seconds now))
    (∀ last, log.getLast? = some last → s.book.store.feedState venue = .connected →
      now - last.publishedAt ≤ maxAge.seconds →
        ∃ response, seen = .ok response ∧ Given limits log (ticker unicode symbol) (ticker unicode venueText)
          limit.toNat generatedAt (now - last.publishedAt) response) ∧
    (¬ Young s.book.store maxAge (ticker unicode symbol) venue now → seen = .error (.gateway .unavailable)) := by
  have book := sockets_refine_within policy limits clock s _ validPublications quiet_valid
    (fun snapshot now member => from_feeds_valid literals unicode.upper feedClock _ member snapshot now rfl) reached
  have anywhere : OrderBook.Reachable limits clock s.book :=
    sockets_refine_within policy limits clock s _ Set.univ (fun _ _ => trivial) (fun _ _ _ => trivial) reached
  have kept := reachable_kept limits clock s.book anywhere
  have logged := reachable_logged limits clock s.book anywhere
  have valid := published_valid limits clock s.book book
  cases meant with
  | recentOrderBook _ _ _ _ pattern same within =>
      dsimp only
      refine ⟨?_, unserved_unavailable limits s.book.store s.book.clock kept logged maxAge _ venue _ now later
        generatedAt⟩
      intro last newest connected young
      rw [same]
      exact served_given limits s.book.store s.book.clock kept logged valid maxAge _ venue limit.toNat (by omega) now
        later generatedAt last connected newest young

end Recent

theorem recent_read_back_sample :
    ∃ response, getTyped OrderBookRecentResponseV1.modelValidate
        (recentAnswer "AAPL" .nasdaq 0
          (streamedSockets.book.store.recentOrderBook "AAPL" .nasdaq 100 15 3)) = .ok response ∧
      response.symbol = "AAPL" ∧ response.snapshots ≠ [] := by
  have reached : (sockets Depth).Reaches (fromFeeds sampleLiterals asciiUnicode.upper (fun n => n))
      (Sockets.opened samplePolicy sampleLimits 0) streamedSockets :=
    System.reaches_perform_all (sockets Depth) _ _ streamedEvents streamed_from_feeds (by decide +kernel)
  have symbol : ticker asciiUnicode "aapl " = "AAPL" := by decide +kernel
  have venue : ticker asciiUnicode "nasdaq" = "NASDAQ" := by decide +kernel
  have meant : Meant asciiUnicode (.getRecentOrderBook "aapl " "nasdaq" 100) (.recentOrderBook "AAPL" .nasdaq 100) := by
    rw [← symbol]
    exact .recentOrderBook "aapl " "nasdaq" .nasdaq 100 (by decide +kernel) venue (by decide)
  have law := recent_read_back sampleLiterals asciiUnicode (fun n => n) samplePolicy sampleLimits 0 streamedSockets
    reached "aapl " "nasdaq" "AAPL" .nasdaq 100 100 meant ⟨15, by norm_num⟩ 3 (by decide +kernel) 0
  rw [symbol, venue] at law
  have present : (streamedSockets.book.store.publishedOf ("AAPL", .nasdaq)).length ≠ 0 := by decide +kernel
  cases newest : (streamedSockets.book.store.publishedOf ("AAPL", .nasdaq)).getLast? with
  | none => exact absurd (List.getLast?_eq_none_iff.mp newest ▸ rfl) present
  | some last =>
      have young : (Option.map (fun entry => decide (3 - Published.publishedAt entry ≤ 15))
        (streamedSockets.book.store.publishedOf ("AAPL", .nasdaq)).getLast?) = some true := by decide +kernel
      rw [newest] at young
      obtain ⟨response, read, given⟩ := law.1 last newest (by decide +kernel)
        (of_decide_eq_true (Option.some.inj young))
      refine ⟨response, read, given.symbol, ?_⟩
      rw [given.snapshots]
      intro empty
      have taken : ((streamedSockets.book.store.publishedOf ("AAPL", .nasdaq)).rtake
          (min 100 sampleLimits.historyLimit)).length ≠ 0 := by decide +kernel
      exact taken (congrArg List.length (List.map_eq_nil_iff.mp empty))

end SchwabGateway.Client
