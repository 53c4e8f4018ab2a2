import Mathlib.Logic.Function.Basic
import SchwabGateway.Library.Sections
import SchwabGateway.Library.Transition
import SchwabGateway.Token.Section

set_option autoImplicit false

namespace SchwabGateway.Token

open SchwabGateway.Python SchwabGateway.Library

variable (codec : Codec) (settings : Settings) (requests : Nat → Request)

-- The local data of a call: its place in the locked code and the health
-- transitions it has made there.
structure Body where
  phase : Phase
  transitions : List Health

def tokenSections : Sections Nat Documents Body where
  start call := ⟨.entered (requests call).kind, []⟩
  advance call body documents :=
    let step := stepPhase codec settings (requests call).now body.phase documents
    (⟨step.phase, body.transitions ++ step.transitions⟩, step.documents)

-- threading.RLock: the thread that has it may take it again.
structure RLock where
  owner : Nat
  depth : Nat
deriving DecidableEq

def RLock.acquirable (lock : Option RLock) (thread : Nat) : Bool :=
  match lock with
  | none => true
  | some held => held.owner = thread

def RLock.acquire (lock : Option RLock) (thread : Nat) : Option RLock :=
  match lock with
  | none => some ⟨thread, 1⟩
  | some held => some { held with depth := held.depth + 1 }

def RLock.release (lock : Option RLock) : Option RLock :=
  match lock with
  | none => none
  | some held => if held.depth ≤ 1 then none else some { held with depth := held.depth - 1 }

-- Where a call is in _hold_lock and after it. The flag says whether it had
-- the store or gave up waiting for it.
inductive Stage where
  | idle
  | waitingThread
  | waitingFlock
  | inside
  | unlocked
  | recording (enteredStore : Bool)
  | ended (enteredStore : Bool)
deriving DecidableEq

-- entered lists the calls in the order they got the flock, the newest first,
-- with the number of steps each has taken since.
structure State where
  documents : Documents
  body : Nat → Body
  stage : Nat → Stage
  threadLock : Nat → Option RLock
  flock : Option Nat
  health : Nat → Health
  entered : List (Nat × Nat)

inductive Event where
  | begin (call : Nat)
  | acquireThread (call : Nat)
  | threadTimeout (call : Nat)
  | acquireFlock (call : Nat)
  | flockTimeout (call : Nat)
  | advance (call : Nat)
  | unlockFlock (call : Nat)
  | releaseThread (call : Nat)
  | record (call : Nat)
deriving DecidableEq

def Phase.isLeaving : Phase → Bool
  | .leaving _ => true
  | _ => false

theorem is_leaving (phase : Phase) (leaving : phase.isLeaving = true) :
    ∃ result, phase = .leaving result := by
  cases phase with
  | leaving result => exact ⟨result, rfl⟩
  | entered kind => cases leaving
  | calling callback current => cases leaving
  | replacing refreshed temporary => cases leaving
  | operating operation callbacks => cases leaving
  | writing token next callbacks => cases leaving
  | replacingScoped refreshed temporary next callbacks => cases leaving

def State.threadFree (state : State) (call : Nat) : Bool :=
  RLock.acquirable (state.threadLock (requests call).process) (requests call).thread

def State.enabled (state : State) : Event → Prop
  | .begin call => state.stage call = .idle
  | .acquireThread call =>
      state.stage call = .waitingThread ∧ state.threadFree requests call = true
  | .threadTimeout call =>
      state.stage call = .waitingThread ∧ state.threadFree requests call = false
  | .acquireFlock call => state.stage call = .waitingFlock ∧ state.flock = none
  | .flockTimeout call => state.stage call = .waitingFlock ∧ state.flock ≠ none
  | .advance call => state.stage call = .inside ∧ (state.body call).phase.isLeaving = false
  | .unlockFlock call => state.stage call = .inside ∧ (state.body call).phase.isLeaving = true
  | .releaseThread call => state.stage call = .unlocked
  | .record call => state.stage call = .recording true ∨ state.stage call = .recording false

instance (state : State) : (event : Event) → Decidable (state.enabled requests event)
  | .begin _ => inferInstanceAs (Decidable (_ = _))
  | .acquireThread _ => inferInstanceAs (Decidable (_ ∧ _))
  | .threadTimeout _ => inferInstanceAs (Decidable (_ ∧ _))
  | .acquireFlock _ => inferInstanceAs (Decidable (_ ∧ _))
  | .flockTimeout _ => inferInstanceAs (Decidable (_ ∧ _))
  | .advance _ => inferInstanceAs (Decidable (_ ∧ _))
  | .unlockFlock _ => inferInstanceAs (Decidable (_ ∧ _))
  | .releaseThread _ => inferInstanceAs (Decidable (_ = _))
  | .record _ => inferInstanceAs (Decidable (_ ∨ _))

def State.move (state : State) (call : Nat) (stage : Stage) : State :=
  { state with stage := Function.update state.stage call stage }

def State.setThread (state : State) (process : Nat) (lock : Option RLock) : State :=
  { state with threadLock := Function.update state.threadLock process lock }

def State.announce (state : State) (manager : Nat) (transitions : List Health) : State :=
  { state with
    health := Function.update state.health manager
      (transitions.getLast?.getD (state.health manager)) }

def countStep (entered : List (Nat × Nat)) : List (Nat × Nat) :=
  match entered with
  | [] => []
  | (call, steps) :: earlier => (call, steps + 1) :: earlier

def State.advance (state : State) (call : Nat) : State :=
  let step := stepPhase codec settings (requests call).now (state.body call).phase state.documents
  let body : Body := ⟨step.phase, (state.body call).transitions ++ step.transitions⟩
  State.announce
    { state with
      documents := step.documents
      body := Function.update state.body call body
      entered := countStep state.entered }
    (requests call).manager step.transitions

def State.resultOf (state : State) (call : Nat) (enteredStore : Bool) : Except Exception PyValue :=
  match enteredStore, (state.body call).phase with
  | true, .leaving result => result
  | _, _ => .error (.token (.lockTimeout lockTimedOut))

def State.perform (state : State) : Event → State
  | .begin call => state.move call .waitingThread
  | .acquireThread call =>
      (state.setThread (requests call).process
        (RLock.acquire (state.threadLock (requests call).process) (requests call).thread)).move
          call .waitingFlock
  | .threadTimeout call => state.move call (.recording false)
  | .acquireFlock call =>
      { state.move call .inside with
        flock := some call
        body := Function.update state.body call ((tokenSections codec settings requests).start call)
        entered := (call, 0) :: state.entered }
  | .flockTimeout call =>
      (state.setThread (requests call).process
        (RLock.release (state.threadLock (requests call).process))).move call (.recording false)
  | .advance call => state.advance codec settings requests call
  | .unlockFlock call => { state.move call .unlocked with flock := none }
  | .releaseThread call =>
      (state.setThread (requests call).process
        (RLock.release (state.threadLock (requests call).process))).move call (.recording true)
  | .record call =>
      match state.stage call with
      | .recording enteredStore =>
          (state.announce (requests call).manager
            (recordOutcome (requests call).kind enteredStore
              (state.resultOf call enteredStore))).move call (.ended enteredStore)
      | _ => state

def tokenSystem : System State Event where
  enabled := State.enabled requests
  perform := State.perform codec settings requests

instance (state : State) (event : Event) :
    Decidable ((tokenSystem codec settings requests).enabled state event) :=
  inferInstanceAs (Decidable (state.enabled requests event))

def State.start (entry : Option Entry) : State where
  documents := Documents.start entry
  body call := (tokenSections codec settings requests).start call
  stage _ := .idle
  threadLock _ := none
  flock := none
  health _ := ⟨.uninitialized, "not_checked"⟩
  entered := []

end SchwabGateway.Token
