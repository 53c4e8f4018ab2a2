import SchwabGateway.Admission
import SchwabGateway.Library.Permits
import SchwabGateway.OrderBook.Stream

set_option autoImplicit false

namespace SchwabGateway.OrderBook

open SchwabGateway.Library

variable {β : Type}

-- AdmissionController. The counts are those of a dict of int.
structure AdmissionController where
  active : PriorityClass → Int
  locked : Bool

namespace AdmissionController

def fresh : AdmissionController := ⟨fun _ => 0, false⟩

-- asyncio.Lock.acquire as far as it goes without waiting, and release.
def acquire (controller : AdmissionController) : Option AdmissionController :=
  if controller.locked then none else some { controller with locked := true }

def release (controller : AdmissionController) : AdmissionController := { controller with locked := false }

def add (controller : AdmissionController) (priority : PriorityClass) (change : Int) : AdmissionController :=
  { controller with
    active := Function.update controller.active priority (controller.active priority + change) }

end AdmissionController

inductive Ending where
  | returned
  | raised
  | cancelled
deriving DecidableEq

-- Where one stream_order_book stands in its async with: before the lock of the
-- controller, in prepare, in the block of the subscription, in close, or before
-- the lock again on its way out. refused and shed are the 503 and the 429.
inductive Phase where
  | absent
  | refused
  | acquiring
  | shed
  | preparing
  | streaming
  | closing (ending : Ending)
  | releasing (ending : Ending)
  | over (ending : Ending)
deriving DecidableEq

structure Sockets (β : Type) where
  policy : AdmissionPolicy
  controller : AdmissionController
  book : State β
  next : Nat
  phases : Nat → Phase
  classes : Nat → PriorityClass

inductive SocketEvent (β : Type) where
  | publish (snapshot : Snapshot β) (now : ℚ)
  | markFeedState (venue : Venue) (state : FeedState) (now : ℚ)
  | tick (now : ℚ)
  | request (priority : PriorityClass) (symbols : StreamSymbols) (venue : Venue) (now : ℚ)
  | lockAcquired (k : Nat) (now : ℚ)
  | prepared (k : Nat) (now : ℚ)
  | prepareFailed (k : Nat) (now : ℚ)
  | sent (k : Nat) (now : ℚ)
  | take (k : Nat) (now : ℚ)
  | deliver (k : Nat) (now : ℚ)
  -- the block ends: a closing message, a closed socket, or what a send or a
  -- receive raised
  | leave (k : Nat) (ending : Ending) (now : ℚ)
  | closed (k : Nat) (now : ℚ)
  | closeFailed (k : Nat) (now : ℚ)
  | cancel (k : Nat) (now : ℚ)

def SocketEvent.now : SocketEvent β → ℚ
  | .publish _ now => now
  | .markFeedState _ _ now => now
  | .tick now => now
  | .request _ _ _ now => now
  | .lockAcquired _ now => now
  | .prepared _ now => now
  | .prepareFailed _ now => now
  | .sent _ now => now
  | .take _ now => now
  | .deliver _ now => now
  | .leave _ _ now => now
  | .closed _ now => now
  | .closeFailed _ now => now
  | .cancel _ now => now

namespace Sockets

def opened (policy : AdmissionPolicy) (limits : Limits) (clock : ℚ) : Sockets β where
  policy := policy
  controller := .fresh
  book := initial limits clock
  next := 0
  phases _ := .absent
  classes _ := .background

def setPhase (s : Sockets β) (k : Nat) (phase : Phase) : Sockets β :=
  { s with phases := Function.update s.phases k phase }

def act (s : Sockets β) (event : OrderBook.Event β) : Sockets β :=
  { s with book := (streams β).perform s.book event }

def full (s : Sockets β) (priority : PriorityClass) : Prop :=
  (s.policy.limits priority : Int) ≤ s.controller.active priority

instance decidableFull (s : Sockets β) (priority : PriorityClass) : Decidable (s.full priority) :=
  inferInstanceAs (Decidable (_ ≤ _))

-- The entry of admit: the check and the count stand under the lock, and nothing
-- there is awaited.
def enter (s : Sockets β) (k : Nat) (now : ℚ) : Sockets β :=
  match s.controller.acquire with
  | none => s.setPhase k .acquiring
  | some held =>
      if { s with controller := held }.full (s.classes k) then
        ({ s with controller := held.release }.act (.leave k now)).setPhase k .shed
      else { s with controller := (held.add (s.classes k) 1).release }.setPhase k .preparing

-- The finally clause of admit. A cancellation that came while it waited for
-- the lock would leave the count as it is.
def depart (s : Sockets β) (k : Nat) (ending : Ending) : Sockets β :=
  match s.controller.acquire with
  | none => s.setPhase k (.releasing ending)
  | some held => { s with controller := (held.add (s.classes k) (-1)).release }.setPhase k (.over ending)

def arrive (s : Sockets β) (priority : PriorityClass) : Sockets β :=
  { s with next := s.next + 1, classes := Function.update s.classes s.next priority }

def request (s : Sockets β) (priority : PriorityClass) (symbols : StreamSymbols) (venue : Venue) (now : ℚ) :
    Sockets β :=
  let opened := (s.arrive priority).act (.openStream s.next symbols venue now)
  if opened.book.store.feedState venue = .connected then opened.enter s.next now
  else opened.setPhase s.next .refused

-- unsubscribe, and then the await of close.
def leave (s : Sockets β) (k : Nat) (ending : Ending) (now : ℚ) : Sockets β :=
  (s.act (.leave k now)).setPhase k (.closing ending)

def abandon (s : Sockets β) (k : Nat) (ending : Ending) (now : ℚ) : Sockets β :=
  (s.act (.leave k now)).depart k ending

-- CancelledError at the await where the coroutine is suspended.
def cancel (s : Sockets β) (k : Nat) (now : ℚ) : Sockets β :=
  match s.phases k with
  | .acquiring => (s.act (.leave k now)).setPhase k (.over .cancelled)
  | .preparing => s.abandon k .cancelled now
  | .streaming => s.leave k .cancelled now
  | .closing _ => s.depart k .cancelled
  | .releasing _ => s.setPhase k (.over .cancelled)
  | _ => s

def endingOf : Phase → Ending
  | .closing ending => ending
  | .releasing ending => ending
  | _ => .returned

end Sockets

def Phase.suspended : Phase → Bool
  | .acquiring => true
  | .preparing => true
  | .streaming => true
  | .closing _ => true
  | .releasing _ => true
  | _ => false

def Phase.isClosing : Phase → Bool
  | .closing _ => true
  | _ => false

def Phase.atLock : Phase → Bool
  | .acquiring => true
  | .releasing _ => true
  | _ => false

namespace Sockets

def guard (s : Sockets β) : SocketEvent β → Prop
  | .lockAcquired k _ => (s.phases k).atLock = true ∧ s.controller.locked = false
  | .prepared k _ => s.phases k = .preparing
  | .prepareFailed k _ => s.phases k = .preparing
  | .sent k now => s.phases k = .streaming ∧ (streams β).enabled s.book (.sent k now)
  | .take k now => s.phases k = .streaming ∧ (streams β).enabled s.book (.take k now)
  | .deliver k now => s.phases k = .streaming ∧ (streams β).enabled s.book (.deliver k now)
  | .leave k _ _ => s.phases k = .streaming
  | .closed k _ => (s.phases k).isClosing = true
  | .closeFailed k _ => (s.phases k).isClosing = true
  | .cancel k _ => (s.phases k).suspended = true
  | _ => True

def effect (s : Sockets β) : SocketEvent β → Sockets β
  | .publish snapshot now => s.act (.publish snapshot now)
  | .markFeedState venue state now => s.act (.markFeedState venue state now)
  | .tick now => s.act (.tick now)
  | .request priority symbols venue now => s.request priority symbols venue now
  | .lockAcquired k now =>
      match s.phases k with
      | .acquiring => s.enter k now
      | phase => s.depart k (endingOf phase)
  | .prepared k now => (s.act (.admitted k now)).setPhase k .streaming
  | .prepareFailed k now => s.abandon k .raised now
  | .sent k now => s.act (.sent k now)
  | .take k now => s.act (.take k now)
  | .deliver k now => s.act (.deliver k now)
  | .leave k ending now => s.leave k ending now
  | .closed k _ => s.depart k (endingOf (s.phases k))
  | .closeFailed k _ => s.depart k .raised
  | .cancel k now => s.cancel k now

end Sockets

-- One event is one uninterrupted step of the event loop.
def sockets (β : Type) : System (Sockets β) (SocketEvent β) where
  enabled s event := s.book.clock ≤ event.now ∧ s.guard event
  perform s event := (s.act (.tick event.now)).effect event

instance decidableSocketGuard (s : Sockets β) : (event : SocketEvent β) → Decidable (s.guard event)
  | .publish _ _ => .isTrue trivial
  | .markFeedState _ _ _ => .isTrue trivial
  | .tick _ => .isTrue trivial
  | .request _ _ _ _ => .isTrue trivial
  | .lockAcquired _ _ => inferInstanceAs (Decidable (_ ∧ _))
  | .prepared _ _ => inferInstanceAs (Decidable (_ = _))
  | .prepareFailed _ _ => inferInstanceAs (Decidable (_ = _))
  | .sent _ _ => inferInstanceAs (Decidable (_ ∧ _))
  | .take _ _ => inferInstanceAs (Decidable (_ ∧ _))
  | .deliver _ _ => inferInstanceAs (Decidable (_ ∧ _))
  | .leave _ _ _ => inferInstanceAs (Decidable (_ = _))
  | .closed _ _ => inferInstanceAs (Decidable (_ = _))
  | .closeFailed _ _ => inferInstanceAs (Decidable (_ = _))
  | .cancel _ _ => inferInstanceAs (Decidable (_ = _))

instance decidableSocketEnabled (s : Sockets β) (event : SocketEvent β) :
    Decidable ((sockets β).enabled s event) :=
  inferInstanceAs (Decidable (s.book.clock ≤ event.now ∧ s.guard event))

def Sockets.Reachable (policy : AdmissionPolicy) (limits : Limits) (clock : ℚ) (s : Sockets β) : Prop :=
  (sockets β).Reaches Set.univ (Sockets.opened policy limits clock) s

end SchwabGateway.OrderBook
