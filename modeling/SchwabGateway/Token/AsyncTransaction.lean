import SchwabGateway.Library.Transition
import SchwabGateway.Token.Manager

set_option autoImplicit false

namespace SchwabGateway.Token.Async

open SchwabGateway.Python SchwabGateway.Library

-- CancelledError is no Exception, so it stands apart from what a call raises.
inductive Ending where
  | result (value : Except Exception PyValue)
  | cancelled

-- Where run_access_transaction_async is. It waits for enter_task shielded
-- (acquiring), for enter_task itself once it has been cancelled (settling), for
-- the exit that follows (abandoning), for the operation, for the exit in the
-- finally block (releasing) and for the executor to shut down (closing).
inductive Place where
  | created
  | acquiring
  | settling
  | abandoning
  | operating
  | releasing (ending : Ending)
  | closing (ending : Ending)
  | ended (ending : Ending)

-- What is submitted to the executor: the two halves of the store's context.
inductive Job where
  | enter
  | exit
deriving DecidableEq

-- Where the executor's thread is: in _hold_lock before and after it has the
-- thread lock, or in what follows its yield.
inductive Helper where
  | idle
  | takingThread (thread : Nat)
  | takingFlock (thread : Nat)
  | exiting (thread : Nat)
deriving DecidableEq

-- acquired is what context.__enter__ came to; notified says that the event
-- loop has heard of it. spare is the identity that a new thread would get.
structure State where
  place : Place
  worker : Option Nat
  spare : Nat
  queue : List Job
  helper : Helper
  acquired : Option (Except Exception Unit)
  notified : Bool
  threadLock : Option Nat
  flock : Bool
  entries : List Nat
  exits : List Nat
  transitions : List Health

inductive Event where
  | begin
  | cannotStart (error : Exception)
  | cancel
  | pick (thread : Nat)
  | takeThread (thread : Nat)
  | refuse (thread : Nat) (error : Exception)
  | takeFlock (thread : Nat)
  | giveUp (thread : Nat) (error : Exception)
  | leave (thread : Nat)
  | notify
  | proceed (loaded : Except Exception PyValue)
  | fail (error : Exception)
  | settle
  | abandoned
  | finish (ending : Ending)
  | released (ending : Ending)
  | shutDown (ending : Ending)

def Place.cancellable : Place → Bool
  | .closing _ => false
  | .ended _ => false
  | _ => true

def State.enabled (state : State) : Event → Prop
  | .begin => state.place = .created
  | .cannotStart _ => state.place = .created
  | .cancel => state.place.cancellable = true
  | .pick thread => state.worker = some thread ∧ state.helper = .idle ∧ state.queue ≠ []
  | .takeThread thread => state.helper = .takingThread thread
  | .refuse thread _ => state.helper = .takingThread thread
  | .takeFlock thread => state.helper = .takingFlock thread
  | .giveUp thread _ => state.helper = .takingFlock thread
  | .leave thread => state.helper = .exiting thread
  | .notify => state.acquired ≠ none ∧ state.notified = false
  | .proceed _ => state.place = .acquiring ∧ state.notified = true ∧ state.acquired = some (.ok ())
  | .fail error =>
      state.place = .acquiring ∧ state.notified = true ∧ state.acquired = some (.error error)
  | .settle => state.place = .settling ∧ state.notified = true
  | .abandoned => state.place = .abandoning ∧ state.exits ≠ []
  | .finish _ => state.place = .operating
  | .released ending => state.place = .releasing ending ∧ state.exits ≠ []
  | .shutDown ending =>
      state.place = .closing ending ∧ state.queue = [] ∧ state.helper = .idle

-- With max_workers=1 the executor starts a thread only if it has none.
def State.submit (state : State) (job : Job) : State :=
  match state.worker with
  | some _ => { state with queue := state.queue ++ [job] }
  | none =>
      { state with
        worker := some state.spare, spare := state.spare + 1, queue := state.queue ++ [job] }

def State.move (state : State) (place : Place) : State := { state with place := place }

def State.record (state : State) (transitions : List Health) : State :=
  { state with transitions := state.transitions ++ transitions }

-- The handler of the first cancellation once enter_task is done.
def State.settled (state : State) : State :=
  match state.acquired with
  | some (.ok ()) => (state.submit .exit).move .abandoning
  | _ => state.move (.closing .cancelled)

-- A second cancellation reaches enter_task itself: a job that has not been
-- started is dropped, one that is running is not stopped.
def State.cancel (state : State) : State :=
  match state.place with
  | .created => state.move (.ended .cancelled)
  | .acquiring => if state.notified then state.settled else state.move .settling
  | .settling => { state.move (.closing .cancelled) with queue := state.queue.erase .enter }
  | .abandoning => state.move (.closing .cancelled)
  | .releasing _ => state.move (.ended .cancelled)
  | _ => state

def State.pick (state : State) (thread : Nat) : State :=
  match state.queue with
  | [] => state
  | .enter :: rest => { state with queue := rest, helper := .takingThread thread }
  | .exit :: rest => { state with queue := rest, helper := .exiting thread }

def State.proceed (state : State) (loaded : Except Exception PyValue) : State :=
  match loaded with
  | .error error =>
      ((state.record (loadFailure error)).submit .exit).move (.releasing (.result (.error error)))
  | .ok _ => (state.record [tokenLoaded]).move .operating

def State.perform (state : State) : Event → State
  | .begin => (state.submit .enter).move .acquiring
  | .cannotStart error => state.move (.ended (.result (.error error)))
  | .cancel => state.cancel
  | .pick thread => state.pick thread
  | .takeThread thread => { state with helper := .takingFlock thread, threadLock := some thread }
  | .refuse _ error => { state with helper := .idle, acquired := some (.error error) }
  | .takeFlock thread =>
      { state with
        helper := .idle, flock := true, acquired := some (.ok ()),
        entries := thread :: state.entries }
  | .giveUp _ error =>
      { state with helper := .idle, threadLock := none, acquired := some (.error error) }
  | .leave thread =>
      { state with helper := .idle, threadLock := none, flock := false, exits := thread :: state.exits }
  | .notify => { state with notified := true }
  | .proceed loaded => state.proceed loaded
  | .fail error => (state.record (loadFailure error)).move (.closing (.result (.error error)))
  | .settle => state.settled
  | .abandoned => state.move (.closing .cancelled)
  | .finish ending => (state.submit .exit).move (.releasing ending)
  | .released ending => state.move (.closing ending)
  | .shutDown ending => state.move (.ended ending)

def asyncSystem : System State Event where
  enabled := State.enabled
  perform := State.perform

def State.start (thread : Nat) : State where
  place := .created
  worker := none
  spare := thread
  queue := []
  helper := .idle
  acquired := none
  notified := false
  threadLock := none
  flock := false
  entries := []
  exits := []
  transitions := []

end SchwabGateway.Token.Async
