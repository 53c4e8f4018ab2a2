import Mathlib.Data.List.DropRight
import Mathlib.Data.List.Nodup
import SchwabGateway.Library.Transition
import SchwabGateway.OrderBook.Store

set_option autoImplicit false

namespace SchwabGateway.OrderBook

open SchwabGateway.Library

variable {β : Type}

structure Ticket where
  symbols : List String
  venue : Venue
  since : Nat
  until_ : Option Nat
deriving DecidableEq

def Ticket.wants (ticket : Ticket) (snapshot : Snapshot β) : Prop :=
  ticket.venue = snapshot.venue ∧ snapshot.symbol ∈ ticket.symbols

instance (ticket : Ticket) (snapshot : Snapshot β) : Decidable (ticket.wants snapshot) :=
  inferInstanceAs (Decidable (_ ∧ _))

def Ticket.window (ticket : Ticket) (published : List (Published β)) : List (Published β) :=
  let known := match ticket.until_ with
    | none => published
    | some count => published.take count
  (known.drop ticket.since).filter (fun entry => ticket.wants entry.snapshot)

-- A store with its drop counter and with the subscriptions that were ever made.
-- A consumer keeps the queue of a discarded subscription (left). read and lost
-- are ghost state: what was read from a queue and what a full one gave up.
structure Broker (β : Type) where
  store : Store β
  subscriberDropCount : Nat
  made : List Nat
  tickets : Nat → Option Ticket
  left : Nat → List (Published β)
  read : Nat → List (Published β)
  lost : Nat → List (Published β)

namespace Broker

def empty (limits : Limits) : Broker β where
  store := .empty limits
  subscriberDropCount := 0
  made := []
  tickets _ := none
  left _ := []
  read _ := []
  lost _ := []

def queue (b : Broker β) (k : Nat) : List (Published β) :=
  match b.store.subscriptions k with
  | some subscription => subscription.queue
  | none => b.left k

def dropped (b : Broker β) (snapshot : Snapshot β) (k : Nat) : List (Published β) :=
  match b.store.subscriptions k with
  | some subscription =>
      if subscription.wants snapshot ∧ b.store.limits.subscriberQueueLimit ≤ subscription.queue.length then
        subscription.queue.take 1
      else []
  | none => []

def publish (b : Broker β) (snapshot : Snapshot β) (now : ℚ) : Broker β :=
  { b with
    store := b.store.publish snapshot now
    subscriberDropCount :=
      b.subscriberDropCount + b.made.countP (fun k => b.dropped snapshot k ≠ [])
    lost := fun k => b.lost k ++ b.dropped snapshot k }

def subscribe (b : Broker β) (k : Nat) (symbols : List String) (venue : Venue) : Broker β :=
  match b.store.subscribe k symbols venue with
  | .error _ => b
  | .ok store =>
      { b with
        store := store
        made := k :: b.made
        tickets :=
          Function.update b.tickets k (some ⟨symbols, venue, b.store.published.length, none⟩) }

-- set.discard: nothing happens the second time.
def unsubscribe (b : Broker β) (k : Nat) : Broker β :=
  match b.store.subscriptions k with
  | none => b
  | some subscription =>
      { b with
        store := b.store.unsubscribe k
        left := Function.update b.left k subscription.queue
        tickets := Function.update b.tickets k
          ((b.tickets k).map fun ticket => { ticket with until_ := some b.store.published.length }) }

def readNext (b : Broker β) (k : Nat) : Broker β :=
  match b.queue k with
  | [] => b
  | entry :: rest =>
      { b with
        store :=
          { b.store with
            subscriptions :=
              Function.update b.store.subscriptions k
                ((b.store.subscriptions k).map fun subscription => { subscription with queue := rest }) }
        left := Function.update b.left k rest
        read := Function.update b.read k (b.read k ++ [entry]) }

end Broker

inductive Call (β : Type) where
  | publish (snapshot : Snapshot β) (now : ℚ)
  | subscribe (k : Nat) (symbols : List String) (venue : Venue)
  | unsubscribe (k : Nat)
  | read (k : Nat)
  | recent (symbol : String) (venue : Venue) (limit : Nat)

-- Every call of subscribe makes a subscription of its own; only a queue that
-- holds something can be read.
def Broker.enabled (b : Broker β) : Call β → Prop
  | .subscribe k _ _ => b.tickets k = none
  | .read k => b.queue k ≠ []
  | _ => True

def Broker.perform (b : Broker β) : Call β → Broker β
  | .publish snapshot now => b.publish snapshot now
  | .subscribe k symbols venue => b.subscribe k symbols venue
  | .unsubscribe k => b.unsubscribe k
  | .read k => b.readNext k
  | .recent _ _ _ => b

def broker (β : Type) : System (Broker β) (Call β) where
  enabled := Broker.enabled
  perform := Broker.perform

end SchwabGateway.OrderBook
