import SchwabGateway.OrderBook.Order

set_option autoImplicit false

namespace SchwabGateway.OrderBook

open SchwabGateway.Library

variable {β : Type}

-- The order-book maximum age of the application, which create_app checks.
structure MaxAge where
  seconds : ℚ
  positive : 0 < seconds

def Fresh (maxAge : MaxAge) (store : Store β) (symbol : String) (venue : Venue) (now : ℚ) : Prop :=
  ∃ ageSeconds, store.snapshotHealth symbol venue maxAge.seconds now =
    .ok ⟨true, some ageSeconds, "snapshot_fresh"⟩

theorem health_fresh (store : Store β) (symbol : String) (venue : Venue) (maxAgeSeconds now : ℚ)
    (health : Health) (known : store.snapshotHealth symbol venue maxAgeSeconds now = .ok health)
    (fresh : health.fresh = true) : ∃ ageSeconds, health = ⟨true, some ageSeconds, "snapshot_fresh"⟩ := by
  unfold Store.snapshotHealth at known
  split at known
  · cases known
  · split at known
    · cases known
      cases fresh
    · split at known
      · cases known
        cases fresh
      · dsimp only at known
        split at known
        · cases known
          cases fresh
        · cases known
          exact ⟨_, rfl⟩

theorem recent_serves_iff (maxAge : MaxAge) (store : Store β) (symbol : String) (venue : Venue)
    (limit : Nat) (now : ℚ) (bounded : 1 ≤ limit ∧ limit ≤ 1000) :
    (∃ snapshots ageSeconds,
        store.recentOrderBook symbol venue limit maxAge.seconds now = .json snapshots ageSeconds) ↔
      Fresh maxAge store symbol venue now := by
  have recent : ∃ snapshots, store.recent symbol venue limit = .ok snapshots :=
    ⟨_, by rw [Store.recent, if_pos bounded]⟩
  obtain ⟨stored, ok⟩ := recent
  constructor
  · rintro ⟨snapshots, ageSeconds, served⟩
    unfold Store.recentOrderBook at served
    split at served
    · cases served
    · cases served
    · cases served
    · rename_i health age reason known
      obtain ⟨ageSeconds, same⟩ := health_fresh store symbol venue _ now _ known rfl
      exact ⟨ageSeconds, by rw [known, same]⟩
  · rintro ⟨ageSeconds, fresh⟩
    refine ⟨stored, ageSeconds, ?_⟩
    simp only [Store.recentOrderBook, fresh, ok]

theorem fresh_iff (maxAge : MaxAge) (store : Store β) (clock now : ℚ) (logged : Logged store clock)
    (later : clock ≤ now) (symbol : String) (venue : Venue) (entry : Published β)
    (stored : (store.history (symbol, venue)).getLast? = some entry) :
    Fresh maxAge store symbol venue now ↔
      store.feedState venue = .connected ∧ now - entry.publishedAt ≤ maxAge.seconds := by
  have positive : ¬ maxAge.seconds ≤ 0 := not_le.mpr maxAge.positive
  have last : store.lastPublish (symbol, venue) = some entry.publishedAt := by
    rw [logged.last, stored]
    rfl
  obtain ⟨_, before, log⟩ := stored_last store clock logged (symbol, venue) entry stored
  have member : entry ∈ store.published := by
    have own : entry ∈ store.publishedOf (symbol, venue) := by simp [log]
    exact (List.mem_filter.mp own).1
  have age : max (now - entry.publishedAt) 0 = now - entry.publishedAt := by
    have past := le_trans (logged.past entry member) later
    exact max_eq_left (sub_nonneg.mpr past)
  unfold Fresh Store.snapshotHealth
  rw [if_neg positive]
  by_cases connected : store.feedState venue = .connected
  · rw [if_neg (not_not.mpr connected), last]
    dsimp only
    rw [age]
    by_cases stale : maxAge.seconds < now - entry.publishedAt
    · rw [if_pos stale]
      refine ⟨?_, fun timely => absurd timely.2 (not_le.mpr stale)⟩
      rintro ⟨ageSeconds, same⟩
      cases same
    · rw [if_neg stale]
      exact ⟨fun _ => ⟨connected, not_lt.mp stale⟩, fun _ => ⟨_, rfl⟩⟩
  · rw [if_pos connected]
    refine ⟨?_, fun timely => absurd timely.1 connected⟩
    rintro ⟨ageSeconds, same⟩
    cases same

def replayed (s : State β) : Event β → Option (Published β)
  | .admitted k _ =>
      (replayNext s.store (s.connections k).venue (s.connections k).symbols).map Prod.fst
  | .sent k _ =>
      match (s.connections k).stage with
      | .replaying pending => (replayNext s.store (s.connections k).venue pending).map Prod.fst
      | _ => none
  | _ => none

def ReplayFresh (maxAge : MaxAge) (s : State β) (event : Event β) : Prop :=
  ∀ entry, replayed s event = some entry →
    Fresh maxAge s.store entry.snapshot.symbol entry.snapshot.venue event.now ∧
      ∀ limit, 1 ≤ limit ∧ limit ≤ 1000 → ∃ snapshots ageSeconds,
        s.store.recentOrderBook entry.snapshot.symbol entry.snapshot.venue limit maxAge.seconds event.now =
          .json snapshots ageSeconds

def toReplay (s : State β) : Event β → Option (Venue × List String)
  | .admitted k _ => some ((s.connections k).venue, (s.connections k).symbols)
  | .sent k _ =>
      match (s.connections k).stage with
      | .replaying pending => some ((s.connections k).venue, pending)
      | _ => none
  | _ => none

-- Where a symbol still to come has been published, the feed is connected and
-- the last publication of the first such symbol is young enough.
def ReplayTimely (maxAge : MaxAge) (s : State β) (event : Event β) : Prop :=
  ∀ venue pending publishedAt, toReplay s event = some (venue, pending) →
    pending.findSome? (fun symbol => s.store.lastPublish (symbol, venue)) = some publishedAt →
      s.store.feedState venue = .connected ∧ event.now - publishedAt ≤ maxAge.seconds

theorem replay_next_published (store : Store β) (clock : ℚ) (logged : Logged store clock) (venue : Venue)
    (pending : List String) :
    pending.findSome? (fun symbol => store.lastPublish (symbol, venue)) =
      (replayNext store venue pending).map (fun next => next.1.publishedAt) := by
  induction pending with
  | nil => rfl
  | cons symbol rest ih =>
      rw [List.findSome?_cons, logged.last, replayNext, recent_one]
      cases (store.history (symbol, venue)).getLast? with
      | none => exact ih
      | some entry => rfl

theorem replayed_iff (s : State β) (event : Event β) (entry : Published β) :
    replayed s event = some entry ↔ ∃ venue pending rest,
      toReplay s event = some (venue, pending) ∧ replayNext s.store venue pending = some (entry, rest) := by
  have next : ∀ venue pending, (replayNext s.store venue pending).map Prod.fst = some entry ↔
      ∃ rest, replayNext s.store venue pending = some (entry, rest) := by
    intro venue pending
    rw [Option.map_eq_some_iff]
    constructor
    · rintro ⟨⟨_, rest⟩, found, rfl⟩
      exact ⟨rest, found⟩
    · rintro ⟨rest, found⟩
      exact ⟨_, found, rfl⟩
  cases event with
  | admitted k now => simp [replayed, toReplay, next]
  | sent k now =>
      simp only [replayed, toReplay]
      cases (s.connections k).stage with
      | replaying pending => simp [next]
      | _ => simp
  | _ => simp [replayed, toReplay]

theorem replay_next_stored (s : State β) (logged : Logged s.store s.clock) (venue : Venue)
    (pending rest : List String) (entry : Published β)
    (next : replayNext s.store venue pending = some (entry, rest)) :
    entry.snapshot.venue = venue ∧ (s.store.history entry.snapshot.key).getLast? = some entry := by
  obtain ⟨_, symbol, _, stored⟩ := replay_next_spec s.store venue pending entry rest next
  have key := (stored_last s.store s.clock logged (symbol, venue) entry stored).1
  exact ⟨congrArg Prod.snd key, key ▸ stored⟩

theorem step_replay_fresh (maxAge : MaxAge) (s : State β) (event : Event β)
    (logged : Logged s.store s.clock) (guarded : (streams β).enabled s event) :
    ReplayFresh maxAge s event ↔ ReplayTimely maxAge s event := by
  constructor
  · intro held venue pending publishedAt begun published
    rw [replay_next_published s.store s.clock logged venue pending] at published
    obtain ⟨⟨entry, rest⟩, next, rfl⟩ := Option.map_eq_some_iff.mp published
    obtain ⟨rfl, stored⟩ := replay_next_stored s logged venue pending rest entry next
    have sent := (replayed_iff s event entry).mpr ⟨_, pending, rest, begun, next⟩
    exact (fresh_iff maxAge s.store s.clock event.now logged guarded.1 entry.snapshot.symbol
      entry.snapshot.venue entry stored).mp (held entry sent).1
  · intro timely entry sent
    obtain ⟨venue, pending, rest, begun, next⟩ := (replayed_iff s event entry).mp sent
    obtain ⟨rfl, stored⟩ := replay_next_stored s logged venue pending rest entry next
    have published := replay_next_published s.store s.clock logged entry.snapshot.venue pending
    rw [next] at published
    have fresh := (fresh_iff maxAge s.store s.clock event.now logged guarded.1 entry.snapshot.symbol
      entry.snapshot.venue entry stored).mpr (timely _ pending entry.publishedAt begun published)
    refine ⟨fresh, ?_⟩
    intro limit bounded
    exact (recent_serves_iff maxAge s.store _ _ limit event.now bounded).mpr fresh

-- In a run every replayed snapshot is fresh exactly when each step of a replay
-- begins with the feed connected and a young enough snapshot next.
theorem replay_fresh_iff (maxAge : MaxAge) (limits : Limits) (clock : ℚ) (events : List (Event β))
    (guards : (streams β).EnabledAll (initial limits clock) events) :
    (streams β).EveryStep (ReplayFresh maxAge) (initial limits clock) events ↔
      (streams β).EveryStep (ReplayTimely maxAge) (initial limits clock) events := by
  apply System.every_step_congr (streams β) (fun a => Logged a.store a.clock) _ _ _ _ _ events guards
    (logged_empty limits clock)
  · intro a event logged guarded
    exact logged_step a event logged guarded
  · intro a event logged guarded
    exact step_replay_fresh maxAge a event logged guarded

-- The feed comes back after an outage and nothing has been published on it yet.
def outageEvents : List (Event Nat) :=
  [.publish (aapl 1) 0, .markFeedState .nasdaq .disconnected 10, .markFeedState .nasdaq .connecting 3600,
    .markFeedState .nasdaq .connected 3605, .openStream 0 sampleSymbols .nasdaq 3610]

def outageState : State Nat := (streams Nat).performAll (initial sampleLimits 0) outageEvents

def fifteenSeconds : MaxAge := ⟨15, by decide +kernel⟩

theorem stale_snapshot_replayed :
    (streams Nat).EnabledAll (initial sampleLimits 0) (outageEvents ++ [.admitted 0 3610]) ∧
      ((streams Nat).perform outageState (.admitted 0 3610)).connections 0 =
        ⟨["AAPL", "MSFT"], .nasdaq, .replaying ["MSFT"], [⟨0, 0, aapl 1⟩]⟩ ∧
      outageState.store.snapshotHealth "AAPL" .nasdaq 15 3610 =
        .ok ⟨false, some 3610, "snapshot_stale"⟩ ∧
      ¬ (streams Nat).EveryStep (ReplayFresh fifteenSeconds) (initial sampleLimits 0)
        (outageEvents ++ [.admitted 0 3610]) := by
  have stale : outageState.store.snapshotHealth "AAPL" .nasdaq 15 3610 =
      .ok ⟨false, some 3610, "snapshot_stale"⟩ := by decide +kernel
  refine ⟨by decide +kernel, by decide +kernel, stale, ?_⟩
  intro every
  have last := ((System.every_step_append _ _ _ _ _).mp every).2.1
  have fresh := (last ⟨0, 0, aapl 1⟩ (by decide +kernel)).1
  obtain ⟨ageSeconds, same⟩ := fresh
  cases stale.symm.trans same

theorem replay_timely_at (maxAge : MaxAge) (s : State β) (event : Event β) (venue : Venue)
    (pending : List String) (publishedAt : ℚ) (begun : toReplay s event = some (venue, pending))
    (published : pending.findSome? (fun symbol => s.store.lastPublish (symbol, venue)) = some publishedAt)
    (connected : s.store.feedState venue = .connected) (young : event.now - publishedAt ≤ maxAge.seconds) :
    ReplayTimely maxAge s event := by
  intro otherVenue others at_ begunAgain publishedAgain
  rw [begun] at begunAgain
  cases begunAgain
  rw [published] at publishedAgain
  cases publishedAgain
  exact ⟨connected, young⟩

theorem replay_fresh_iff_sample :
    (streams Nat).EveryStep (ReplayFresh fifteenSeconds) (initial sampleLimits 0)
      [.publish (aapl 1) 0, .publish (msft 2) 5, .openStream 0 sampleSymbols .nasdaq 10, .admitted 0 10,
        .sent 0 12] := by
  apply (replay_fresh_iff fifteenSeconds sampleLimits 0 _ (by decide +kernel)).mpr
  refine ⟨nofun, nofun, nofun, ?_, ?_, trivial⟩
  · exact replay_timely_at fifteenSeconds _ _ .nasdaq ["AAPL", "MSFT"] 0 (by decide +kernel) (by decide +kernel)
      (by decide +kernel) (by decide +kernel)
  · exact replay_timely_at fifteenSeconds _ _ .nasdaq ["MSFT"] 5 (by decide +kernel) (by decide +kernel)
      (by decide +kernel) (by decide +kernel)

end SchwabGateway.OrderBook
