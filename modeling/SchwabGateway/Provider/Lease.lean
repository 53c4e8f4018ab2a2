import Mathlib.Logic.Function.Basic
import SchwabGateway.Library.Ledger
import SchwabGateway.Library.Transition

set_option autoImplicit false

namespace SchwabGateway.Provider

open SchwabGateway.Library

inductive Ending where
  | returned
  | cancelled
  | raised
deriving DecidableEq

-- Where the coroutine of one _execute call is. It can be cancelled at its two
-- awaits only: the sleep between two looks at the flag and the shielded future.
inductive Place where
  | idle
  | checking
  | sleeping
  | starting
  | startFailed
  | awaiting
  | ended (ending : Ending)
deriving DecidableEq

-- Where its thread is in execute_and_signal, with what adapter.execute did.
inductive Worker (α ε : Type) where
  | absent
  | started
  | executing
  | finished (outcome : Except ε α)
  | released (outcome : Except ε α)
  | delivered (outcome : Except ε α)

inductive Releaser where
  | coroutine
  | thread
deriving DecidableEq

structure State (α ε : Type) where
  place : Nat → Place
  worker : Nat → Worker α ε
  active : Bool
  ledger : Ledger Nat Releaser

inductive Event (α ε : Type) where
  | call (request : Nat)
  | acquire (request : Nat)
  | busy (request : Nat)
  | wake (request : Nat)
  | cancel (request : Nat)
  | startWorker (request : Nat)
  | failStart (request : Nat)
  | releaseFailed (request : Nat)
  | enter (request : Nat)
  | finish (request : Nat) (outcome : Except ε α)
  | release (request : Nat)
  | deliver (request : Nat)
  | resume (request : Nat)

variable {α ε : Type}

def Event.request : Event α ε → Nat
  | .call request => request
  | .acquire request => request
  | .busy request => request
  | .wake request => request
  | .cancel request => request
  | .startWorker request => request
  | .failStart request => request
  | .releaseFailed request => request
  | .enter request => request
  | .finish request _ => request
  | .release request => request
  | .deliver request => request
  | .resume request => request

def State.enabled (state : State α ε) : Event α ε → Prop
  | .call request => state.place request = .idle
  | .acquire request => state.place request = .checking ∧ state.active = false
  | .busy request => state.place request = .checking ∧ state.active = true
  | .wake request => state.place request = .sleeping
  | .cancel request => state.place request = .sleeping ∨ state.place request = .awaiting
  | .startWorker request => state.place request = .starting
  | .failStart request => state.place request = .starting
  | .releaseFailed request => state.place request = .startFailed
  | .enter request => state.worker request = .started
  | .finish request _ => state.worker request = .executing
  | .release request => ∃ outcome, state.worker request = .finished outcome
  | .deliver request => ∃ outcome, state.worker request = .released outcome
  | .resume request =>
      state.place request = .awaiting ∧ ∃ outcome, state.worker request = .delivered outcome

def State.move (state : State α ε) (request : Nat) (place : Place) : State α ε :=
  { state with place := Function.update state.place request place }

def State.turn (state : State α ε) (request : Nat) (worker : Worker α ε) : State α ε :=
  { state with worker := Function.update state.worker request worker }

-- _release_worker_lease clears the flag whoever set it.
def State.releaseLease (state : State α ε) (request : Nat) (releaser : Releaser) : State α ε :=
  { state with active := false, ledger := .given request releaser :: state.ledger }

def Worker.release : Worker α ε → Worker α ε
  | .finished outcome => .released outcome
  | other => other

def Worker.deliver : Worker α ε → Worker α ε
  | .released outcome => .delivered outcome
  | other => other

def Worker.ending : Worker α ε → Ending
  | .delivered (.ok _) => .returned
  | _ => .raised

def State.perform (state : State α ε) : Event α ε → State α ε
  | .call request => state.move request .checking
  | .acquire request =>
      { state.move request .starting with
        active := true, ledger := .taken request :: state.ledger }
  | .busy request => state.move request .sleeping
  | .wake request => state.move request .checking
  | .cancel request => state.move request (.ended .cancelled)
  | .startWorker request => (state.move request .awaiting).turn request .started
  | .failStart request => state.move request .startFailed
  | .releaseFailed request => (state.releaseLease request .coroutine).move request (.ended .raised)
  | .enter request => state.turn request .executing
  | .finish request outcome => state.turn request (.finished outcome)
  | .release request =>
      (state.releaseLease request .thread).turn request (state.worker request).release
  | .deliver request => state.turn request (state.worker request).deliver
  | .resume request => state.move request (.ended (state.worker request).ending)

def leaseSystem (α ε : Type) : System (State α ε) (Event α ε) where
  enabled := State.enabled
  perform := State.perform

def State.start (α ε : Type) : State α ε where
  place _ := .idle
  worker _ := .absent
  active := false
  ledger := []

end SchwabGateway.Provider
