import Mathlib.Algebra.Order.Ring.Rat
import Mathlib.Logic.Function.Basic
import SchwabGateway.Library.Bounded

set_option autoImplicit false

namespace SchwabGateway.OrderBook

open SchwabGateway.Library

inductive Venue where
  | nasdaq
  | nyse
deriving DecidableEq

inductive FeedState where
  | unconfigured
  | connecting
  | connected
  | disconnected
deriving DecidableEq

def FeedState.text : FeedState → String
  | .unconfigured => "unconfigured"
  | .connecting => "connecting"
  | .connected => "connected"
  | .disconnected => "disconnected"

-- β is the depth that a snapshot carries.
structure Snapshot (β : Type) where
  symbol : String
  venue : Venue
  depth : β
deriving DecidableEq

abbrev Key := String × Venue

def Snapshot.key {β : Type} (snapshot : Snapshot β) : Key := (snapshot.symbol, snapshot.venue)

structure Published (β : Type) where
  number : Nat
  publishedAt : ℚ
  snapshot : Snapshot β
deriving DecidableEq

structure Limits where
  historyLimit : Nat
  subscriberQueueLimit : Nat
  historyBounded : 1 ≤ historyLimit ∧ historyLimit ≤ 10000
  queueBounded : 1 ≤ subscriberQueueLimit ∧ subscriberQueueLimit ≤ 1000

def sampleLimits : Limits := ⟨1000, 100, by decide, by decide⟩

structure Subscription (β : Type) where
  symbols : List String
  venue : Venue
  queue : List (Published β)

-- published is ghost state: everything that was ever published, oldest first.
structure Store (β : Type) where
  limits : Limits
  history : Key → List (Published β)
  subscriptions : Nat → Option (Subscription β)
  feedState : Venue → FeedState
  lastPublish : Key → Option ℚ
  published : List (Published β)

variable {β : Type}

namespace Store

def empty (limits : Limits) : Store β where
  limits := limits
  history _ := []
  subscriptions _ := none
  feedState _ := .unconfigured
  lastPublish _ := none
  published := []

end Store

def Subscription.wants (subscription : Subscription β) (snapshot : Snapshot β) : Prop :=
  subscription.venue = snapshot.venue ∧ snapshot.symbol ∈ subscription.symbols

instance (subscription : Subscription β) (snapshot : Snapshot β) :
    Decidable (subscription.wants snapshot) :=
  inferInstanceAs (Decidable (_ ∧ _))

def Subscription.offer (limit : Nat) (entry : Published β) (subscription : Subscription β) :
    Subscription β :=
  if subscription.wants entry.snapshot then
    { subscription with queue := pushBounded limit subscription.queue entry }
  else subscription

namespace Store

def publish (s : Store β) (snapshot : Snapshot β) (now : ℚ) : Store β :=
  let entry : Published β := ⟨s.published.length, now, snapshot⟩
  { s with
    history :=
      Function.update s.history snapshot.key
        (pushBounded s.limits.historyLimit (s.history snapshot.key) entry)
    lastPublish := Function.update s.lastPublish snapshot.key (some now)
    feedState := Function.update s.feedState snapshot.venue .connected
    subscriptions := fun k =>
      (s.subscriptions k).map (Subscription.offer s.limits.subscriberQueueLimit entry)
    published := s.published ++ [entry] }

def recent (s : Store β) (symbol : String) (venue : Venue) (limit : Nat) :
    Except String (List (Published β)) :=
  if 1 ≤ limit ∧ limit ≤ 1000 then
    .ok ((s.history (symbol, venue)).drop ((s.history (symbol, venue)).length - limit))
  else .error "recent order-book limit must be between 1 and 1000"

def subscribe (s : Store β) (k : Nat) (symbols : List String) (venue : Venue) :
    Except String (Store β) :=
  if symbols = [] then .error "at least one order-book subscription symbol is required"
  else .ok { s with subscriptions := Function.update s.subscriptions k (some ⟨symbols, venue, []⟩) }

def unsubscribe (s : Store β) (k : Nat) : Store β :=
  { s with subscriptions := Function.update s.subscriptions k none }

def markFeedState (s : Store β) (venue : Venue) (state : FeedState) : Store β :=
  { s with feedState := Function.update s.feedState venue state }

end Store

structure Health where
  fresh : Bool
  ageSeconds : Option ℚ
  reason : String
deriving DecidableEq

def Store.snapshotHealth (s : Store β) (symbol : String) (venue : Venue) (maxAgeSeconds now : ℚ) :
    Except String Health :=
  if maxAgeSeconds ≤ 0 then .error "maximum order-book snapshot age must be positive"
  else if s.feedState venue ≠ .connected then .ok ⟨false, none, "feed_" ++ (s.feedState venue).text⟩
  else
    match s.lastPublish (symbol, venue) with
    | none => .ok ⟨false, none, "snapshot_missing"⟩
    | some publishedAt =>
        -- exact, where the code rounds the difference of two clock readings
        let ageSeconds := max (now - publishedAt) 0
        if maxAgeSeconds < ageSeconds then .ok ⟨false, some ageSeconds, "snapshot_stale"⟩
        else .ok ⟨true, some ageSeconds, "snapshot_fresh"⟩

inductive Recent (β : Type) where
  | error (code message : String) (status : Nat)
  | json (snapshots : List (Published β)) (ageSeconds : ℚ)
  | serverError

def Store.recentOrderBook (s : Store β) (symbol : String) (venue : Venue) (limit : Nat)
    (maxAgeSeconds now : ℚ) : Recent β :=
  match s.snapshotHealth symbol venue maxAgeSeconds now with
  | .error _ => .serverError
  | .ok ⟨false, _, reason⟩ =>
      .error "order_book_unavailable" ("order-book snapshot is unavailable (" ++ reason ++ ")") 503
  | .ok ⟨true, none, reason⟩ =>
      .error "order_book_unavailable" ("order-book snapshot is unavailable (" ++ reason ++ ")") 503
  | .ok ⟨true, some ageSeconds, _⟩ =>
      match s.recent symbol venue limit with
      | .error _ => .serverError
      | .ok snapshots => .json snapshots ageSeconds

def Store.publishedOf (s : Store β) (key : Key) : List (Published β) :=
  s.published.filter (fun entry => entry.snapshot.key = key)

-- What holds of every store: numbers and times go up along the log, and the
-- stored history of a symbol is the end of its part of the log.
structure Logged (s : Store β) (clock : ℚ) : Prop where
  ordered : s.published.Pairwise (fun earlier later => earlier.number < later.number)
  numbered : ∀ entry, entry ∈ s.published → entry.number < s.published.length
  past : ∀ entry, entry ∈ s.published → entry.publishedAt ≤ clock
  history : ∀ key, s.history key <:+ s.publishedOf key
  last : ∀ key, s.lastPublish key = ((s.history key).getLast?).map Published.publishedAt

theorem logged_empty (limits : Limits) (clock : ℚ) : Logged (Store.empty limits : Store β) clock where
  ordered := List.Pairwise.nil
  numbered := nofun
  past := nofun
  history := fun _ => List.nil_suffix
  last := fun _ => rfl

theorem logged_later (s : Store β) (clock now : ℚ) (logged : Logged s clock) (later : clock ≤ now) :
    Logged s now :=
  { logged with past := fun entry member => le_trans (logged.past entry member) later }

theorem published_of_publish (s : Store β) (snapshot : Snapshot β) (now : ℚ) (key : Key) :
    (s.publish snapshot now).publishedOf key =
      s.publishedOf key ++
        (if snapshot.key = key then [⟨s.published.length, now, snapshot⟩] else []) := by
  simp only [Store.publishedOf, Store.publish, List.filter_append]
  by_cases own : snapshot.key = key <;> simp [own]

theorem logged_publish (s : Store β) (clock now : ℚ) (snapshot : Snapshot β) (logged : Logged s clock)
    (later : clock ≤ now) : Logged (s.publish snapshot now) now where
  ordered := by
    refine List.pairwise_append.mpr ⟨logged.ordered, List.pairwise_singleton _ _, ?_⟩
    intro earlier member later new
    rw [List.mem_singleton.mp new]
    exact logged.numbered earlier member
  numbered := by
    intro entry member
    simp only [Store.publish, List.length_append, List.length_singleton] at member ⊢
    rcases List.mem_append.mp member with old | new
    · exact Nat.lt_succ_of_lt (logged.numbered entry old)
    · rw [List.mem_singleton.mp new]
      exact Nat.lt_succ_self _
  past := by
    intro entry member
    rcases List.mem_append.mp member with old | new
    · exact le_trans (logged.past entry old) later
    · rw [List.mem_singleton.mp new]
  history := by
    intro key
    rw [published_of_publish]
    by_cases own : snapshot.key = key
    · subst own
      have pushed := push_bounded_suffix s.limits.historyLimit (s.history snapshot.key)
        ⟨s.published.length, now, snapshot⟩
      obtain ⟨dropped, same⟩ := logged.history snapshot.key
      simp only [Store.publish, Function.update_self, if_true]
      rw [← same, List.append_assoc]
      exact pushed.trans (List.suffix_append dropped _)
    · simp only [Store.publish, Function.update_of_ne (Ne.symm own), if_neg own, List.append_nil]
      exact logged.history key
  last := by
    intro key
    by_cases own : key = snapshot.key
    · simp only [Store.publish, own, Function.update_self, push_bounded_last]
      rfl
    · simp only [Store.publish, Function.update_of_ne own]
      exact logged.last key

theorem logged_frame (s t : Store β) (clock : ℚ) (logged : Logged s clock)
    (published : t.published = s.published) (history : t.history = s.history)
    (lastPublish : t.lastPublish = s.lastPublish) : Logged t clock where
  ordered := by rw [published]; exact logged.ordered
  numbered := by rw [published]; exact logged.numbered
  past := by rw [published]; exact logged.past
  history := by
    intro key
    rw [history, Store.publishedOf, published]
    exact logged.history key
  last := by rw [history, lastPublish]; exact logged.last

theorem recent_one (s : Store β) (symbol : String) (venue : Venue) :
    s.recent symbol venue 1 = .ok ((s.history (symbol, venue)).getLast?.toList) := by
  simp only [Store.recent]
  rw [if_pos (by decide)]
  congr 1
  generalize s.history (symbol, venue) = entries
  rcases List.eq_nil_or_concat entries with empty | ⟨init, entry, split⟩
  · rw [empty]
    rfl
  · rw [split]
    simp

end SchwabGateway.OrderBook
