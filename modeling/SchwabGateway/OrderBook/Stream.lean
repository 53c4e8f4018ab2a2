import SchwabGateway.Library.Transition
import SchwabGateway.OrderBook.Store

set_option autoImplicit false

namespace SchwabGateway.OrderBook

open SchwabGateway.Library

variable {β : Type}

def maxStreamSymbols : Nat := 25

-- What _parse_symbols and the check after it let through.
structure StreamSymbols where
  symbols : List String
  nonempty : symbols ≠ []
  unique : symbols.Nodup
  bounded : symbols.length ≤ maxStreamSymbols

-- Where the coroutine of one stream_order_book is suspended: in the admission
-- or the upgrade, in a send of the opening replay with the symbols that are
-- still to come, in the wait of the delivery loop, between the end of that wait
-- and the send, or in the send. refused is the 503 of the opening check.
inductive Stage (β : Type) where
  | absent
  | refused
  | admitting
  | replaying (pending : List String)
  | waiting
  | taken (entry : Published β)
  | sending
  | closed
deriving DecidableEq

-- sent lists what send_str was called with, oldest first.
structure Connection (β : Type) where
  symbols : List String
  venue : Venue
  stage : Stage β
  sent : List (Published β)
deriving DecidableEq

def Connection.absent : Connection β := ⟨[], .nasdaq, .absent, []⟩

structure State (β : Type) where
  store : Store β
  connections : Nat → Connection β
  clock : ℚ

def initial (limits : Limits) (clock : ℚ) : State β where
  store := .empty limits
  connections _ := .absent
  clock := clock

-- The replay up to its next send: a symbol without history is passed over.
def replayNext (store : Store β) (venue : Venue) : List String → Option (Published β × List String)
  | [] => none
  | symbol :: rest =>
      match store.recent symbol venue 1 with
      | .ok (entry :: _) => some (entry, rest)
      | _ => replayNext store venue rest

inductive Event (β : Type) where
  | publish (snapshot : Snapshot β) (now : ℚ)
  | markFeedState (venue : Venue) (state : FeedState) (now : ℚ)
  | openStream (k : Nat) (symbols : StreamSymbols) (venue : Venue) (now : ℚ)
  | admitted (k : Nat) (now : ℚ)
  | sent (k : Nat) (now : ℚ)
  | take (k : Nat) (now : ℚ)
  | deliver (k : Nat) (now : ℚ)
  | leave (k : Nat) (now : ℚ)
  | tick (now : ℚ)

def Event.now : Event β → ℚ
  | .publish _ now => now
  | .markFeedState _ _ now => now
  | .openStream _ _ _ now => now
  | .admitted _ now => now
  | .sent _ now => now
  | .take _ now => now
  | .deliver _ now => now
  | .leave _ now => now
  | .tick now => now

namespace State

def setConnection (s : State β) (k : Nat) (connection : Connection β) : State β :=
  { s with connections := Function.update s.connections k connection }

def queue (s : State β) (k : Nat) : List (Published β) :=
  match s.store.subscriptions k with
  | none => []
  | some subscription => subscription.queue

def setQueue (s : State β) (k : Nat) (queue : List (Published β)) : State β :=
  { s with
    store :=
      { s.store with
        subscriptions :=
          Function.update s.store.subscriptions k
            ((s.store.subscriptions k).map fun subscription => { subscription with queue := queue }) } }

def continueReplay (s : State β) (k : Nat) (pending : List String) : State β :=
  let connection := s.connections k
  match replayNext s.store connection.venue pending with
  | some (entry, rest) =>
      s.setConnection k
        { connection with stage := .replaying rest, sent := connection.sent ++ [entry] }
  | none => s.setConnection k { connection with stage := .waiting }

-- The opening checks the feed alone; admission and upgrade come after it.
def openStream (s : State β) (k : Nat) (symbols : List String) (venue : Venue) : State β :=
  if s.store.feedState venue = .connected then
    s.setConnection k ⟨symbols, venue, .admitting, []⟩
  else s.setConnection k ⟨symbols, venue, .refused, []⟩

-- The subscription is opened before the replay, in the same step as its first
-- send.
def admitted (s : State β) (k : Nat) : State β :=
  let connection := s.connections k
  match s.store.subscribe k connection.symbols connection.venue with
  | .error _ => s.setConnection k { connection with stage := .closed }
  | .ok store => { s with store := store }.continueReplay k connection.symbols

def sendReturned (s : State β) (k : Nat) : State β :=
  match (s.connections k).stage with
  | .replaying pending => s.continueReplay k pending
  | .sending => s.setConnection k { s.connections k with stage := .waiting }
  | _ => s

def take (s : State β) (k : Nat) : State β :=
  match s.queue k with
  | [] => s
  | entry :: rest =>
      (s.setQueue k rest).setConnection k { s.connections k with stage := .taken entry }

def deliver (s : State β) (k : Nat) : State β :=
  let connection := s.connections k
  match connection.stage with
  | .taken entry =>
      s.setConnection k { connection with stage := .sending, sent := connection.sent ++ [entry] }
  | _ => s

def leave (s : State β) (k : Nat) : State β :=
  { s with store := s.store.unsubscribe k }.setConnection k { s.connections k with stage := .closed }

end State

def Stage.inSend : Stage β → Bool
  | .replaying _ => true
  | .sending => true
  | _ => false

def Stage.isTaken : Stage β → Bool
  | .taken _ => true
  | _ => false

def Stage.opened : Stage β → Bool
  | .admitting => true
  | .replaying _ => true
  | .waiting => true
  | .taken _ => true
  | .sending => true
  | _ => false

def Stage.isAbsent : Stage β → Bool
  | .absent => true
  | _ => false

def Stage.isAdmitting : Stage β → Bool
  | .admitting => true
  | _ => false

def Stage.isWaiting : Stage β → Bool
  | .waiting => true
  | _ => false

def guard (s : State β) : Event β → Prop
  | .openStream k _ _ _ => (s.connections k).stage.isAbsent = true
  | .admitted k _ => (s.connections k).stage.isAdmitting = true
  | .sent k _ => (s.connections k).stage.inSend = true
  | .take k _ => (s.connections k).stage.isWaiting = true ∧ (s.queue k).isEmpty = false
  | .deliver k _ => (s.connections k).stage.isTaken = true
  | .leave k _ => (s.connections k).stage.opened = true
  | _ => True

instance decidableGuard (s : State β) : (event : Event β) → Decidable (guard s event)
  | .publish _ _ => .isTrue trivial
  | .markFeedState _ _ _ => .isTrue trivial
  | .openStream _ _ _ _ => inferInstanceAs (Decidable (_ = _))
  | .admitted _ _ => inferInstanceAs (Decidable (_ = _))
  | .sent _ _ => inferInstanceAs (Decidable (_ = _))
  | .take _ _ => inferInstanceAs (Decidable (_ ∧ _))
  | .deliver _ _ => inferInstanceAs (Decidable (_ = _))
  | .leave _ _ => inferInstanceAs (Decidable (_ = _))
  | .tick _ => .isTrue trivial

def effect (s : State β) : Event β → State β
  | .publish snapshot now => { s with store := s.store.publish snapshot now }
  | .markFeedState venue state _ => { s with store := s.store.markFeedState venue state }
  | .openStream k symbols venue _ => s.openStream k symbols.symbols venue
  | .admitted k _ => s.admitted k
  | .sent k _ => s.sendReturned k
  | .take k _ => s.take k
  | .deliver k _ => s.deliver k
  | .leave k _ => s.leave k
  | .tick _ => s

-- One event is one uninterrupted step of the event loop, with its reading of
-- the clock.
def streams (β : Type) : System (State β) (Event β) where
  enabled s event := s.clock ≤ event.now ∧ guard s event
  perform s event := effect { s with clock := event.now } event

instance decidableEnabled (s : State β) (event : Event β) : Decidable ((streams β).enabled s event) :=
  inferInstanceAs (Decidable (s.clock ≤ event.now ∧ guard s event))

structure Local (j : Nat) (s t : State β) : Prop where
  published : t.store.published = s.store.published
  history : t.store.history = s.store.history
  lastPublish : t.store.lastPublish = s.store.lastPublish
  feedState : t.store.feedState = s.store.feedState
  clock : t.clock = s.clock
  others : ∀ k, k ≠ j → t.connections k = s.connections k ∧ t.store.subscriptions k = s.store.subscriptions k

theorem local_refl (j : Nat) (s : State β) : Local j s s :=
  ⟨rfl, rfl, rfl, rfl, rfl, fun _ _ => ⟨rfl, rfl⟩⟩

theorem local_trans (j : Nat) (s t u : State β) (first : Local j s t) (second : Local j t u) : Local j s u where
  published := second.published.trans first.published
  history := second.history.trans first.history
  lastPublish := second.lastPublish.trans first.lastPublish
  feedState := second.feedState.trans first.feedState
  clock := second.clock.trans first.clock
  others := fun k other => ⟨(second.others k other).1.trans (first.others k other).1,
    (second.others k other).2.trans (first.others k other).2⟩

theorem local_set_connection (s : State β) (j : Nat) (connection : Connection β) :
    Local j s (s.setConnection j connection) :=
  ⟨rfl, rfl, rfl, rfl, rfl, fun _ other => ⟨Function.update_of_ne other _ _, rfl⟩⟩

theorem local_subscription (s : State β) (j : Nat) (subscription : Option (Subscription β)) :
    Local j s { s with store :=
      { s.store with subscriptions := Function.update s.store.subscriptions j subscription } } :=
  ⟨rfl, rfl, rfl, rfl, rfl, fun _ other => ⟨rfl, Function.update_of_ne other _ _⟩⟩

theorem local_continue (s : State β) (j : Nat) (pending : List String) :
    Local j s (s.continueReplay j pending) := by
  unfold State.continueReplay
  dsimp only
  split <;> exact local_set_connection s j _

theorem local_open (s : State β) (j : Nat) (symbols : List String) (venue : Venue) :
    Local j s (s.openStream j symbols venue) := by
  unfold State.openStream
  split <;> exact local_set_connection s j _

theorem local_admitted (s : State β) (j : Nat) : Local j s (s.admitted j) := by
  unfold State.admitted
  dsimp only
  split
  · exact local_set_connection s j _
  · rename_i store subscribed
    simp only [Store.subscribe] at subscribed
    split at subscribed
    · cases subscribed
    · cases subscribed
      exact local_trans j s _ _ (local_subscription s j _) (local_continue _ j _)

theorem local_sent (s : State β) (j : Nat) : Local j s (s.sendReturned j) := by
  unfold State.sendReturned
  split
  · exact local_continue s j _
  · exact local_set_connection s j _
  · exact local_refl j s

theorem local_take (s : State β) (j : Nat) : Local j s (s.take j) := by
  unfold State.take
  split
  · exact local_refl j s
  · exact local_trans j s _ _ (local_subscription s j _) (local_set_connection _ j _)

theorem local_deliver (s : State β) (j : Nat) : Local j s (s.deliver j) := by
  unfold State.deliver
  dsimp only
  split
  · exact local_set_connection s j _
  · exact local_refl j s

theorem local_leave (s : State β) (j : Nat) : Local j s (s.leave j) :=
  local_trans j s _ _ (local_subscription s j none) (local_set_connection _ j _)

theorem logged_local (s t : State β) (j : Nat) (logged : Logged s.store s.clock) (same : Local j s t) :
    Logged t.store t.clock := by
  rw [same.clock]
  exact logged_frame s.store t.store s.clock logged same.published same.history same.lastPublish

theorem logged_step (s : State β) (event : Event β) (logged : Logged s.store s.clock)
    (guarded : (streams β).enabled s event) :
    Logged ((streams β).perform s event).store ((streams β).perform s event).clock := by
  have later := logged_later s.store s.clock event.now logged guarded.1
  cases event with
  | publish snapshot now => exact logged_publish s.store s.clock now snapshot logged guarded.1
  | markFeedState venue state now => exact logged_frame s.store _ now later rfl rfl rfl
  | openStream k symbols venue now => exact logged_local { s with clock := now } _ k later (local_open _ k _ venue)
  | admitted k now => exact logged_local { s with clock := now } _ k later (local_admitted _ k)
  | sent k now => exact logged_local { s with clock := now } _ k later (local_sent _ k)
  | take k now => exact logged_local { s with clock := now } _ k later (local_take _ k)
  | deliver k now => exact logged_local { s with clock := now } _ k later (local_deliver _ k)
  | leave k now => exact logged_local { s with clock := now } _ k later (local_leave _ k)
  | tick now => exact later

def Reachable (limits : Limits) (clock : ℚ) (s : State β) : Prop :=
  (streams β).Reaches Set.univ (initial limits clock) s

end SchwabGateway.OrderBook
