import SchwabGateway.Scheduler.Model

set_option autoImplicit false

namespace SchwabGateway.Scheduler

open SchwabGateway.Library

variable {α ε : Type}

-- One event is one uninterrupted step of one task or callback of the event
-- loop: every lock section of the source runs without an await inside it.
-- Each event carries the readings of the loop clock made during that step;
-- their sums and differences are exact here.
inductive Event (α ε : Type) where
  | execute (args : Arguments) (enqueuedAt now : ℚ)
  | timerFires (id : Nat) (now : ℚ)
  | cancelCaller (id : Nat) (now : ℚ)
  | resumeCaller (id : Nat) (now : ℚ)
  | startLifecycle (id : Nat) (startedAt now : ℚ)
  | wakeLifecycle (id : Nat) (now : ℚ)
  | cancelLifecycle (id : Nat) (now : ℚ)
  | startOperation (id : Nat) (now : ℚ)
  | completeOperation (id : Nat) (ending : Ending α ε) (now : ℚ)
  | shutdown (now : ℚ)
  | startWaiter (k : Nat) (now : ℚ)
  | wakeWaiter (k : Nat) (now : ℚ)
  | returnShutdown (k : Nat) (now : ℚ)
  | cancelShutdown (k : Nat) (now : ℚ)
  | tick (now : ℚ)

namespace Event

def now : Event α ε → ℚ
  | .execute _ _ now => now
  | .timerFires _ now => now
  | .cancelCaller _ now => now
  | .resumeCaller _ now => now
  | .startLifecycle _ _ now => now
  | .wakeLifecycle _ now => now
  | .cancelLifecycle _ now => now
  | .startOperation _ now => now
  | .completeOperation _ _ now => now
  | .shutdown now => now
  | .startWaiter _ now => now
  | .wakeWaiter _ now => now
  | .returnShutdown _ now => now
  | .cancelShutdown _ now => now
  | .tick now => now

end Event

def Caller.waiting : Caller α ε → Bool
  | .waitingStarted _ _ => true
  | .waitingResult _ => true
  | _ => false

def Caller.timerArmed : Caller α ε → Bool
  | .waitingStarted timerFired _ => !timerFired
  | _ => false

def Caller.cancel : Caller α ε → Caller α ε
  | .waitingStarted timerFired _ => .waitingStarted timerFired true
  | .waitingResult _ => .waitingResult true
  | caller => caller

def Caller.fireTimer : Caller α ε → Caller α ε
  | .waitingStarted _ cancelRequested => .waitingStarted true cancelRequested
  | caller => caller

-- A suspended caller runs again once it was cancelled or what it awaits is done.
def callerReady (job : Job α ε) : Caller α ε → Bool
  | .waitingStarted timerFired cancelRequested => timerFired || cancelRequested || job.started.done
  | .waitingResult cancelRequested => cancelRequested || job.result.done
  | _ => false

def Operation.isDone : Operation α ε → Bool
  | .done _ _ => true
  | _ => false

-- asyncio.wait returns when the operation is done or its timeout has passed;
-- the drain returns when the operation is done.
def lifecycleReady (operation : Operation α ε) (now : ℚ) : Lifecycle → Bool
  | .waiting _ deadline => operation.isDone || deadline ≤ now
  | .draining _ _ => operation.isDone
  | _ => false

def Lifecycle.alive : Lifecycle → Bool
  | .created => true
  | .waiting _ _ => true
  | .draining _ _ => true
  | _ => false

-- Cancelling the task before its first step throws into a coroutine that has
-- not started. Later cancellations are caught and the wait is taken up again.
def Lifecycle.cancel : Lifecycle → Lifecycle
  | .created => .cancelledBeforeStart
  | lifecycle => lifecycle

def ShutdownCall.waiting : ShutdownCall → Bool
  | .absent => false
  | .returned => false
  | _ => true

def guard (s : State α ε) : Event α ε → Prop
  | .execute _ enqueuedAt now => s.clock ≤ enqueuedAt ∧ enqueuedAt ≤ now
  | .timerFires id now =>
      (s.callers id).timerArmed = true ∧ (s.jobs id).queueDeadline ≤ now
  | .cancelCaller id _ => (s.callers id).waiting = true
  | .resumeCaller id _ => callerReady (s.jobs id) (s.callers id) = true
  | .startLifecycle id startedAt now =>
      s.lifecycles id = .created ∧ s.clock ≤ startedAt ∧ startedAt ≤ now
  | .wakeLifecycle id now => lifecycleReady (s.operations id) now (s.lifecycles id) = true
  | .cancelLifecycle id _ => (s.lifecycles id).alive = true
  | .startOperation id _ => s.operations id = .created
  | .completeOperation id _ _ => s.operations id = .running
  | .shutdown _ => True
  | .startWaiter k _ => s.shutdowns k = .waiterCreated
  | .wakeWaiter k _ => s.shutdowns k = .waiterNotified
  | .returnShutdown k _ => s.shutdowns k = .waiterDone
  | .cancelShutdown k _ => (s.shutdowns k).waiting = true
  | .tick _ => True

instance decidableGuard [DecidableEq α] [DecidableEq ε] (s : State α ε) (event : Event α ε) :
    Decidable (guard s event) :=
  match event with
  | .execute _ enqueuedAt now => inferInstanceAs (Decidable (s.clock ≤ enqueuedAt ∧ enqueuedAt ≤ now))
  | .timerFires id now =>
      inferInstanceAs (Decidable ((s.callers id).timerArmed = true ∧ (s.jobs id).queueDeadline ≤ now))
  | .cancelCaller id _ => inferInstanceAs (Decidable ((s.callers id).waiting = true))
  | .resumeCaller id _ => inferInstanceAs (Decidable (callerReady (s.jobs id) (s.callers id) = true))
  | .startLifecycle id startedAt now =>
      inferInstanceAs (Decidable (s.lifecycles id = .created ∧ s.clock ≤ startedAt ∧ startedAt ≤ now))
  | .wakeLifecycle id now =>
      inferInstanceAs (Decidable (lifecycleReady (s.operations id) now (s.lifecycles id) = true))
  | .cancelLifecycle id _ => inferInstanceAs (Decidable ((s.lifecycles id).alive = true))
  | .startOperation id _ => inferInstanceAs (Decidable (s.operations id = .created))
  | .completeOperation id _ _ => inferInstanceAs (Decidable (s.operations id = .running))
  | .shutdown _ => .isTrue trivial
  | .startWaiter k _ => inferInstanceAs (Decidable (s.shutdowns k = .waiterCreated))
  | .wakeWaiter k _ => inferInstanceAs (Decidable (s.shutdowns k = .waiterNotified))
  | .returnShutdown k _ => inferInstanceAs (Decidable (s.shutdowns k = .waiterDone))
  | .cancelShutdown k _ => inferInstanceAs (Decidable ((s.shutdowns k).waiting = true))
  | .tick _ => .isTrue trivial

def startOperation (s : State α ε) (id : Nat) : State α ε :=
  let s := s.setOperation id .running
  s.setLedger id { s.ledger id with invocations := (s.ledger id).invocations + 1 }

def cancelCaller (s : State α ε) (id : Nat) : State α ε :=
  let s := s.setCaller id (s.callers id).cancel
  { s with cancelRequested := Function.update s.cancelRequested id true }

def effect (s : State α ε) : Event α ε → State α ε
  | .execute args enqueuedAt now => execute s args enqueuedAt now
  | .timerFires id _ => s.setCaller id (s.callers id).fireTimer
  | .cancelCaller id _ => cancelCaller s id
  | .resumeCaller id now => resumeCaller s id now
  | .startLifecycle id startedAt now => startRunJob s id startedAt now
  | .wakeLifecycle id now => wakeRunJob s id now
  | .cancelLifecycle id _ => s.setLifecycle id (s.lifecycles id).cancel
  | .startOperation id _ => startOperation s id
  | .completeOperation id ending now => s.setOperation id (.done ending now)
  | .shutdown _ => shutdown s
  | .startWaiter k _ => s.setShutdown k (if s.idle then .waiterDone else .waiterParked)
  | .wakeWaiter k _ => s.setShutdown k .waiterDone
  | .returnShutdown k _ => s.setShutdown k .returned
  -- shutdown catches CancelledError and goes back to its wait
  | .cancelShutdown _ _ => s
  | .tick _ => s

def scheduler (α ε : Type) : System (State α ε) (Event α ε) where
  enabled s event := s.clock ≤ event.now ∧ guard s event
  perform s event := effect { s with clock := event.now } event

instance decidableEnabled [DecidableEq α] [DecidableEq ε] (s : State α ε) (event : Event α ε) :
    Decidable ((scheduler α ε).enabled s event) :=
  inferInstanceAs (Decidable (s.clock ≤ event.now ∧ guard s event))

def Event.disturbs : Event α ε → Bool
  | .cancelLifecycle _ _ => true
  | _ => false

def undisturbed : Set (Event α ε) :=
  { event | event.disturbs = false }

def Reachable (policy : AdmissionPolicy) (clock : ℚ) (s : State α ε) : Prop :=
  (scheduler α ε).Reaches undisturbed (initial policy clock) s

end SchwabGateway.Scheduler
