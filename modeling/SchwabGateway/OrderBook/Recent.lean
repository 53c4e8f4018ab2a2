import SchwabGateway.OrderBook.BookWire
import SchwabGateway.OrderBook.Freshness
import SchwabGateway.OrderBook.Isolation

set_option autoImplicit false

namespace SchwabGateway.OrderBook

open SchwabGateway.Library SchwabGateway.Python SchwabGateway.Upstream

-- Every snapshot is one of the symbol and the venue that the response names.
structure OrderBookRecentResponseV1 where
  symbol : String
  venue : Venue
  snapshots : List (Snapshot Depth)
  generatedAt : Datetime
  ageSeconds : ℚ≥0
  matching : ∀ snapshot ∈ snapshots, snapshot.symbol = symbol ∧ snapshot.venue = venue

namespace OrderBookRecentResponseV1

def matchingMessage : String := "order-book response contains a different symbol or venue"

def make (symbol : String) (venue : Venue) (snapshots : List (Snapshot Depth)) (generatedAt : Datetime)
    (ageSeconds : ℚ≥0) : Result OrderBookRecentResponseV1 :=
  if matching : ∀ snapshot ∈ snapshots, snapshot.symbol = symbol ∧ snapshot.venue = venue then
    .ok ⟨symbol, venue, snapshots, generatedAt, ageSeconds, matching⟩
  else .error (.validation "" matchingMessage)

def ageMessage : String := "order-book response age must be finite and nonnegative"

def checkAge (age : PyFloat) : Result ℚ≥0 :=
  match age with
  | .finite seconds => if 0 ≤ seconds then .ok seconds.toNNRat else .error (.validation "age_seconds" ageMessage)
  | _ => .error (.validation "age_seconds" ageMessage)

def entries (response : OrderBookRecentResponseV1) : List (String × Json) :=
  [("schema_version", .text "1.0"),
    ("symbol", .text response.symbol),
    ("venue", .text response.venue.text),
    ("is_consolidated", .bool false),
    ("snapshots", .array (response.snapshots.map OrderBookSnapshotV1.modelDump)),
    ("generated_at", .datetime response.generatedAt),
    ("stale", .bool false),
    ("age_seconds", .float response.ageSeconds)]

def modelDump (response : OrderBookRecentResponseV1) : Json := .object response.entries

def fieldNames : List String :=
  ["schema_version", "symbol", "venue", "is_consolidated", "snapshots", "generated_at", "stale", "age_seconds"]

def modelValidate : Json → Result OrderBookRecentResponseV1
  | .object fields => do
      let _ ← Json.defaulted fields "schema_version" "1.0" readVersion
      let symbol ← Json.required fields "symbol" Json.readText
      let venue ← Json.required fields "venue" Venue.read
      let _ ← Json.defaulted fields "is_consolidated" false readFalse
      let snapshots ← Json.required fields "snapshots" (Json.readArray OrderBookSnapshotV1.modelValidate)
      let generatedAt ← Json.required fields "generated_at" Json.readDatetime
      let _ ← Json.defaulted fields "stale" false readFalse
      let age ← Json.required fields "age_seconds" Json.readFloat
      let ageSeconds ← checkAge age
      Json.onlyFields fieldNames fields
      make symbol venue snapshots generatedAt ageSeconds
  | _ => .error (notObject "")

theorem check_age_written (age : ℚ≥0) : checkAge (.finite age) = .ok age := by
  rw [checkAge, if_pos (NNRat.coe_nonneg age), NNRat.toNNRat_coe]

theorem make_own (response : OrderBookRecentResponseV1) :
    make response.symbol response.venue response.snapshots response.generatedAt response.ageSeconds =
      .ok response := by
  rw [make, dif_pos response.matching]

theorem recent_round_trip (response : OrderBookRecentResponseV1)
    (valid : ∀ snapshot ∈ response.snapshots, OrderBookSnapshotV1.Valid snapshot) :
    modelValidate response.modelDump = .ok response := by
  obtain ⟨fields, whole⟩ : ∃ fields, response.entries = fields := ⟨_, rfl⟩
  obtain ⟨found, known⟩ := Json.whole_object fieldNames (by decide +kernel) response.entries fields whole rfl
  have snapshots : Json.readArray OrderBookSnapshotV1.modelValidate "snapshots"
      (.array (response.snapshots.map OrderBookSnapshotV1.modelDump)) = .ok response.snapshots :=
    Json.read_items_map _ _ _ _ (fun snapshot member => snapshot_round_trip "snapshots" snapshot (valid snapshot member))
  simp only [entries, List.forall_mem_cons] at found
  rw [modelDump, whole]
  simp only [modelValidate, Json.required, Json.defaulted, found, known, readVersion, Json.readText, read_venue,
    readFalse, snapshots, Json.readDatetime, Json.readFloat, check_age_written, make_own, bind, Except.bind]

end OrderBookRecentResponseV1

section Kept

variable {β : Type}

-- The history of a symbol is exactly the end of its part of the log, as long
-- as the limit lets it be.
structure Kept (limits : Limits) (store : Store β) : Prop where
  bounds : store.limits = limits
  history : ∀ key, store.history key = (store.publishedOf key).rtake limits.historyLimit

theorem kept_empty (limits : Limits) : Kept limits (Store.empty limits : Store β) where
  bounds := rfl
  history _ := by simp [Store.empty, Store.publishedOf]

theorem kept_publish (limits : Limits) (store : Store β) (kept : Kept limits store) (snapshot : Snapshot β)
    (now : ℚ) : Kept limits (store.publish snapshot now) where
  bounds := kept.bounds
  history := by
    intro key
    rw [published_of_publish]
    by_cases own : snapshot.key = key
    · subst own
      rw [if_pos rfl, ← push_bounded_rtake _ _ _ limits.historyBounded.1, ← kept.history]
      simp only [Store.publish, Function.update_self, kept.bounds]
    · rw [if_neg own, List.append_nil, ← kept.history]
      simp only [Store.publish, Function.update_of_ne (Ne.symm own)]

theorem kept_frame (limits : Limits) (s t : Store β) (kept : Kept limits s) (own : t.limits = s.limits)
    (published : t.published = s.published) (history : t.history = s.history) : Kept limits t where
  bounds := own.trans kept.bounds
  history := by
    intro key
    rw [history, Store.publishedOf, published]
    exact kept.history key

section Limits

variable (s : State β) (k : Nat)

theorem limits_continue (pending : List String) : (s.continueReplay k pending).store.limits = s.store.limits := by
  rw [State.continueReplay]
  cases replayNext s.store (s.connections k).venue pending <;> rfl

theorem limits_open (symbols : List String) (venue : Venue) :
    (s.openStream k symbols venue).store.limits = s.store.limits := by
  rw [State.openStream]
  by_cases connected : s.store.feedState venue = .connected
  · rw [if_pos connected]
    rfl
  · rw [if_neg connected]
    rfl

theorem limits_admitted : (s.admitted k).store.limits = s.store.limits := by
  rw [State.admitted, Store.subscribe]
  by_cases empty : (s.connections k).symbols = []
  · rw [if_pos empty]
    rfl
  · rw [if_neg empty]
    exact limits_continue _ k _

theorem limits_sent : (s.sendReturned k).store.limits = s.store.limits := by
  rw [State.sendReturned.eq_def]
  cases (s.connections k).stage with
  | replaying pending => exact limits_continue s k pending
  | _ => rfl

theorem limits_take : (s.take k).store.limits = s.store.limits := by
  rw [State.take.eq_def]
  cases s.queue k <;> rfl

theorem limits_deliver : (s.deliver k).store.limits = s.store.limits := by
  rw [State.deliver.eq_def]
  dsimp only
  cases (s.connections k).stage <;> rfl

end Limits

theorem kept_step (limits : Limits) (s : State β) (event : Event β) (kept : Kept limits s.store) :
    Kept limits ((streams β).perform s event).store := by
  have local_ : ∀ (t : State β) (j : Nat) (now : ℚ), t.store.limits = s.store.limits →
      Local j { s with clock := now } t → Kept limits t.store := by
    intro t j now own same
    exact kept_frame limits s.store t.store kept own same.published same.history
  cases event with
  | publish snapshot now => exact kept_publish limits s.store kept snapshot now
  | markFeedState venue state now => exact kept_frame limits s.store _ kept rfl rfl rfl
  | openStream k symbols venue now => exact local_ _ k now (limits_open _ k _ venue) (local_open _ k _ venue)
  | admitted k now => exact local_ _ k now (limits_admitted _ k) (local_admitted _ k)
  | sent k now => exact local_ _ k now (limits_sent _ k) (local_sent _ k)
  | take k now => exact local_ _ k now (limits_take _ k) (local_take _ k)
  | deliver k now => exact local_ _ k now (limits_deliver _ k) (local_deliver _ k)
  | leave k now => exact local_ _ k now rfl (local_leave _ k)
  | tick now => exact kept

theorem reachable_kept (limits : Limits) (clock : ℚ) (s : State β) (reached : Reachable limits clock s) :
    Kept limits s.store :=
  (streams β).reaches_invariant Set.univ (fun s => Kept limits s.store)
    (fun state event _ kept _ => kept_step limits state event kept) _ s reached (kept_empty limits)

theorem reachable_logged (limits : Limits) (clock : ℚ) (s : State β) (reached : Reachable limits clock s) :
    Logged s.store s.clock :=
  (streams β).reaches_invariant Set.univ (fun s => Logged s.store s.clock)
    (fun state event _ logged guarded => logged_step state event logged guarded) _ s reached
    (logged_empty limits clock)

theorem kept_recent (limits : Limits) (store : Store β) (kept : Kept limits store) (symbol : String)
    (venue : Venue) (limit : Nat) (within : 1 ≤ limit ∧ limit ≤ 1000) :
    store.recent symbol venue limit =
      .ok ((store.publishedOf (symbol, venue)).rtake (min limit limits.historyLimit)) := by
  rw [Store.recent, if_pos within, kept.history, ← rtake_rtake]
  rfl

end Kept

end SchwabGateway.OrderBook
