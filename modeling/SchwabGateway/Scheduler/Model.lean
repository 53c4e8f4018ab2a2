import Mathlib.Algebra.Order.Ring.Rat
import Mathlib.Logic.Function.Basic
import SchwabGateway.Admission
import SchwabGateway.Python.Float
import SchwabGateway.Library.Transition

set_option autoImplicit false

namespace SchwabGateway.Scheduler

open SchwabGateway.Python

-- α is what an operation returns and ε what it raises. The exceptions the
-- scheduler raises itself carry the texts of the source.
inductive Raised (ε : Type) where
  | valueError (message : String)
  | capacity (message : String)
  | queueTimeout (message : String)
  | upstreamTimeout (message : String)
  | operation (error : ε)
  | cancelled
deriving DecidableEq

inductive Outcome (α ε : Type) where
  | returned (value : α)
  | raised (error : Raised ε)
deriving DecidableEq

-- An asyncio future. Cancelling a future that is done does nothing.
inductive Future (α ε : Type) where
  | pending
  | result (value : α)
  | exception (error : Raised ε)
  | cancelled
deriving DecidableEq

inductive Ending (α ε : Type) where
  | value (value : α)
  | error (error : ε)
  | cancelled
deriving DecidableEq

inductive JobState where
  | queued
  | running
  | finished
deriving DecidableEq

variable {α ε : Type}

namespace Future

def done : Future α ε → Bool
  | .pending => false
  | _ => true

def cancel : Future α ε → Future α ε
  | .pending => .cancelled
  | settled => settled

def setIfPending (future value : Future α ε) : Future α ε :=
  match future with
  | .pending => value
  | settled => settled

end Future

def capacityUnavailable : String := "gateway request capacity is unavailable"
def shuttingDown : String := "gateway scheduler is shutting down"
def queueWaitTimedOut : String := "gateway worker queue wait timed out"
def executionTimedOut : String := "upstream execution timed out"

structure Arguments where
  priority : PriorityClass
  operationName : String
  queueTimeoutSeconds : PyFloat
  executionTimeoutSeconds : PyFloat
  requestDeadline : Option PyFloat

structure Request where
  priority : PriorityClass
  operationName : String
  queueTimeoutSeconds : ℚ
  executionTimeoutSeconds : ℚ
  requestDeadline : Option ℚ
  named : operationName ≠ ""
  queuePositive : 0 < queueTimeoutSeconds
  executionPositive : 0 < executionTimeoutSeconds

def finitePositive (value : PyFloat) (label : String) : Except String { seconds : ℚ // 0 < seconds } :=
  match value with
  | .finite seconds =>
      if positive : 0 < seconds then .ok ⟨seconds, positive⟩
      else .error ("scheduler " ++ label ++ " must be finite and positive")
  | _ => .error ("scheduler " ++ label ++ " must be finite and positive")

def finiteDeadline : Option PyFloat → Except String (Option ℚ)
  | none => .ok none
  | some (.finite deadline) => .ok (some deadline)
  | some _ => .error "request deadline must be finite"

def validate (args : Arguments) : Except String Request :=
  if named : args.operationName = "" then .error "scheduler operation name is required"
  else
    match finitePositive args.queueTimeoutSeconds "queue timeout" with
    | .error message => .error message
    | .ok queueTimeout =>
        match finitePositive args.executionTimeoutSeconds "execution timeout" with
        | .error message => .error message
        | .ok executionTimeout =>
            match finiteDeadline args.requestDeadline with
            | .error message => .error message
            | .ok requestDeadline =>
                .ok ⟨args.priority, args.operationName, queueTimeout.1, executionTimeout.1,
                  requestDeadline, named, queueTimeout.2, executionTimeout.2⟩

structure Job (α ε : Type) where
  priority : PriorityClass
  operationName : String
  executionTimeoutSeconds : ℚ
  enqueuedAt : ℚ
  queueDeadline : ℚ
  requestDeadline : Option ℚ
  started : Future Unit ε
  result : Future α ε
  state : JobState
  callerCancelled : Bool
  queueTimedOut : Bool
  queueWaitSeconds : ℚ

-- The value of the job table at a number no admitted call has.
def Job.absent : Job α ε :=
  ⟨.background, "", 0, 0, 0, none, .pending, .pending, .finished, false, false, 0⟩

def newJob (request : Request) (enqueuedAt : ℚ) : Job α ε where
  priority := request.priority
  operationName := request.operationName
  executionTimeoutSeconds := request.executionTimeoutSeconds
  enqueuedAt := enqueuedAt
  queueDeadline :=
    match request.requestDeadline with
    | some deadline => min (enqueuedAt + request.queueTimeoutSeconds) deadline
    | none => enqueuedAt + request.queueTimeoutSeconds
  requestDeadline := request.requestDeadline
  started := .pending
  result := .pending
  state := .queued
  callerCancelled := false
  queueTimedOut := false
  queueWaitSeconds := 0

def executionDeadline (job : Job α ε) (startedAt : ℚ) : ℚ :=
  match job.requestDeadline with
  | some deadline => min (startedAt + job.executionTimeoutSeconds) deadline
  | none => startedAt + job.executionTimeoutSeconds

-- Where the coroutine of one execute call is suspended. timerFired says that
-- timeout_at has cancelled the wait, cancelRequested that somebody else has.
inductive Caller (α ε : Type) where
  | absent
  | waitingStarted (timerFired cancelRequested : Bool)
  | waitingResult (cancelRequested : Bool)
  | ended (outcome : Outcome α ε)
deriving DecidableEq

-- Where the task that runs _run_job is: its two awaits are the wait bounded by
-- the execution deadline and the drain of an operation that overran it.
inductive Lifecycle where
  | none
  | created
  | waiting (startedAt deadline : ℚ)
  | draining (startedAt deadline : ℚ)
  | ended (startedAt deadline : ℚ)
  | cancelledBeforeStart
deriving DecidableEq

-- The task that runs invoke(): operation_completed_at is set in the same step
-- that ends it.
inductive Operation (α ε : Type) where
  | notCreated
  | created
  | running
  | done (ending : Ending α ε) (completedAt : ℚ)
deriving DecidableEq

inductive ShutdownCall where
  | absent
  | waiterCreated
  | waiterParked
  | waiterNotified
  | waiterDone
  | returned
deriving DecidableEq

-- Ghost state: the code keeps no such record. No branch below reads it.
structure Ledger where
  admittedAt : Option ℚ := none
  dispatchedAt : Option ℚ := none
  expiredAt : Option ℚ := none
  removed : Bool := false
  removedByShutdown : Bool := false
  invocations : Nat := 0
  gaveUpAt : Option ℚ := none
  allocationReleases : Nat := 0
  slotReleases : Nat := 0
deriving DecidableEq

structure State (α ε : Type) where
  limits : PriorityClass → Nat
  allocated : PriorityClass → Int
  queues : PriorityClass → List Nat
  workerActive : Bool
  accepting : Bool
  idle : Bool
  clock : ℚ
  next : Nat
  jobs : Nat → Job α ε
  callers : Nat → Caller α ε
  lifecycles : Nat → Lifecycle
  operations : Nat → Operation α ε
  nextShutdown : Nat
  shutdowns : Nat → ShutdownCall
  ledger : Nat → Ledger
  cancelRequested : Nat → Bool
  dispatches : List Nat

def initial (policy : AdmissionPolicy) (clock : ℚ) : State α ε where
  limits := policy.limits
  allocated := fun _ => 0
  queues := fun _ => []
  workerActive := false
  accepting := true
  idle := true
  clock := clock
  next := 0
  jobs := fun _ => .absent
  callers := fun _ => .absent
  lifecycles := fun _ => .none
  operations := fun _ => .notCreated
  nextShutdown := 0
  shutdowns := fun _ => .absent
  ledger := fun _ => {}
  cancelRequested := fun _ => false
  dispatches := []

namespace State

def setJob (s : State α ε) (id : Nat) (job : Job α ε) : State α ε :=
  { s with jobs := Function.update s.jobs id job }

def setCaller (s : State α ε) (id : Nat) (caller : Caller α ε) : State α ε :=
  { s with callers := Function.update s.callers id caller }

def setLifecycle (s : State α ε) (id : Nat) (lifecycle : Lifecycle) : State α ε :=
  { s with lifecycles := Function.update s.lifecycles id lifecycle }

def setOperation (s : State α ε) (id : Nat) (operation : Operation α ε) : State α ε :=
  { s with operations := Function.update s.operations id operation }

def setLedger (s : State α ε) (id : Nat) (ledger : Ledger) : State α ε :=
  { s with ledger := Function.update s.ledger id ledger }

def setShutdown (s : State α ε) (k : Nat) (call : ShutdownCall) : State α ε :=
  { s with shutdowns := Function.update s.shutdowns k call }

def setQueue (s : State α ε) (p : PriorityClass) (queue : List Nat) : State α ε :=
  { s with queues := Function.update s.queues p queue }

def setAllocated (s : State α ε) (p : PriorityClass) (count : Int) : State α ε :=
  { s with allocated := Function.update s.allocated p count }

end State

-- Event.set() wakes the waiters that are already parked on it.
def ShutdownCall.notify : ShutdownCall → ShutdownCall
  | .waiterParked => .waiterNotified
  | call => call

def ShutdownCall.released : ShutdownCall → Bool
  | .waiterNotified => true
  | .waiterDone => true
  | .returned => true
  | _ => false

def drained (s : State α ε) : Bool :=
  s.allocated .protected = 0 ∧ s.allocated .background = 0

def setIdleIfDrained (s : State α ε) : State α ε :=
  { s with
    idle := drained s || s.idle
    shutdowns := fun k => if drained s then (s.shutdowns k).notify else s.shutdowns k }

def releaseQueuedLocked (s : State α ε) (id : Nat) : State α ε :=
  let job := s.jobs id
  let s := s.setQueue job.priority ((s.queues job.priority).erase id)
  let s := s.setJob id { job with state := .finished }
  let s := s.setAllocated job.priority (s.allocated job.priority - 1)
  let s := s.setLedger id
    { s.ledger id with allocationReleases := (s.ledger id).allocationReleases + 1 }
  setIdleIfDrained s

def removeQueuedLocked (s : State α ε) (id : Nat) : State α ε :=
  let s := releaseQueuedLocked s id
  let job := s.jobs id
  let s := s.setJob id { job with started := job.started.cancel, result := job.result.cancel }
  s.setLedger id { s.ledger id with removed := true }

def expireQueuedLocked (s : State α ε) (id : Nat) (now : ℚ) : State α ε :=
  let s := releaseQueuedLocked s id
  let job := s.jobs id
  let s := s.setJob id
    { job with
      queueTimedOut := true
      started := job.started.setIfPending (.exception (.queueTimeout queueWaitTimedOut))
      result := job.result.cancel }
  s.setLedger id { s.ledger id with expiredAt := some now }

-- The part of _dispatch_locked after its loop: the head of the chosen queue
-- takes the slot and its lifecycle task is created.
def startJob (s : State α ε) (p : PriorityClass) (id : Nat) (now : ℚ) : State α ε :=
  let s := s.setQueue p (s.queues p).tail
  let job := s.jobs id
  let s := s.setJob id
    { job with
      state := .running
      queueWaitSeconds := max 0 (now - job.enqueuedAt)
      started := .result () }
  let s := s.setLifecycle id .created
  let s := s.setLedger id { s.ledger id with dispatchedAt := some now }
  { s with workerActive := true, dispatches := id :: s.dispatches }

def selectedClass (s : State α ε) : PriorityClass :=
  if s.queues .protected = [] then .background else .protected

-- Every turn but the last takes one job out of a queue, so the number of
-- queued jobs bounds the turns.
def dispatchLoop (now : ℚ) : Nat → State α ε → State α ε
  | 0, s => s
  | turns + 1, s =>
      match s.queues (selectedClass s) with
      | [] => setIdleIfDrained s
      | id :: _ =>
          if now < (s.jobs id).queueDeadline then startJob s (selectedClass s) id now
          else dispatchLoop now turns (expireQueuedLocked s id now)

def dispatchLocked (s : State α ε) (now : ℚ) : State α ε :=
  if s.workerActive then s
  else
    dispatchLoop now ((s.queues .protected).length + (s.queues .background).length + 1) s

def endCall (s : State α ε) (id : Nat) (outcome : Outcome α ε) : State α ε :=
  s.setCaller id (.ended outcome)

-- The handler of CancelledError at the end of execute.
def callerCancelled (s : State α ε) (id : Nat) : State α ε :=
  match (s.jobs id).state with
  | .queued => endCall (removeQueuedLocked s id) id (.raised .cancelled)
  | .running =>
      endCall (s.setJob id { s.jobs id with callerCancelled := true }) id (.raised .cancelled)
  | .finished => endCall s id (.raised .cancelled)

def awaitResult (s : State α ε) (id : Nat) : State α ε :=
  match (s.jobs id).result with
  | .pending => s.setCaller id (.waitingResult false)
  | .result value => endCall s id (.returned value)
  | .exception error => endCall s id (.raised error)
  | .cancelled => callerCancelled s id

-- TimeoutError leaves the timeout_at block: expire the job if it still waits.
def queueTimerExpired (s : State α ε) (id : Nat) (now : ℚ) : State α ε :=
  let s := if (s.jobs id).state = .queued then expireQueuedLocked s id now else s
  if (s.jobs id).queueTimedOut then
    endCall s id (.raised (.queueTimeout queueWaitTimedOut))
  else awaitResult s id

-- One step of the caller's task. A cancellation from outside wins over the
-- timer: timeout_at turns CancelledError into TimeoutError only when its own
-- cancellation is the only one.
def resumeCaller (s : State α ε) (id : Nat) (now : ℚ) : State α ε :=
  match s.callers id with
  | .waitingStarted timerFired cancelRequested =>
      if cancelRequested then callerCancelled s id
      else if timerFired then queueTimerExpired s id now
      else
        match (s.jobs id).started with
        | .pending => s
        | .result _ => awaitResult s id
        | .exception error => endCall s id (.raised error)
        | .cancelled => callerCancelled s id
  | .waitingResult cancelRequested =>
      if cancelRequested then callerCancelled s id else awaitResult s id
  | _ => s

def enqueue (s : State α ε) (id : Nat) (request : Request) (enqueuedAt : ℚ) : State α ε :=
  let p := request.priority
  let s := s.setAllocated p (s.allocated p + 1)
  let s := s.setJob id (newJob request enqueuedAt)
  let s := s.setQueue p (s.queues p ++ [id])
  let s := s.setCaller id (.waitingStarted false false)
  let s := s.setLedger id { s.ledger id with admittedAt := some enqueuedAt }
  { s with idle := false }

def execute (s : State α ε) (args : Arguments) (enqueuedAt now : ℚ) : State α ε :=
  let id := s.next
  let s := { s with next := id + 1, clock := now }
  match validate args with
  | .error message => endCall s id (.raised (.valueError message))
  | .ok request =>
      if s.accepting = false then endCall s id (.raised (.capacity shuttingDown))
      else if (s.limits request.priority : Int) ≤ s.allocated request.priority then
        endCall s id (.raised (.capacity capacityUnavailable))
      else resumeCaller (dispatchLocked (enqueue s id request enqueuedAt) now) id now

-- The release block at the end of _run_job.
def finishRunJob (s : State α ε) (id : Nat) (startedAt deadline now : ℚ) : State α ε :=
  let job := s.jobs id
  let s := s.setJob id { job with state := .finished }
  let s := s.setAllocated job.priority (s.allocated job.priority - 1)
  let s := { s with workerActive := false }
  let s := s.setLifecycle id (.ended startedAt deadline)
  let s := s.setLedger id
    { s.ledger id with
      allocationReleases := (s.ledger id).allocationReleases + 1
      slotReleases := (s.ledger id).slotReleases + 1 }
  setIdleIfDrained (dispatchLocked s now)

-- completed_in_budget is false: the caller is told before the drain begins.
def reportTimeout (s : State α ε) (id : Nat) : State α ε :=
  let job := s.jobs id
  s.setJob id
    { job with result := job.result.setIfPending (.exception (.upstreamTimeout executionTimedOut)) }

def giveUp (s : State α ε) (id : Nat) (startedAt deadline now : ℚ) : State α ε :=
  let s := reportTimeout s id
  let s := s.setLedger id { s.ledger id with gaveUpAt := some now }
  s.setLifecycle id (.draining startedAt deadline)

def settledFuture : Ending α ε → Future α ε
  | .value value => .result value
  | .error error => .exception (.operation error)
  | .cancelled => .cancelled

def settleResult (s : State α ε) (id : Nat) (ending : Ending α ε) : State α ε :=
  let job := s.jobs id
  s.setJob id { job with result := job.result.setIfPending (settledFuture ending) }

-- The first step of _run_job: remaining is checked once before the first wait.
def startRunJob (s : State α ε) (id : Nat) (startedAt now : ℚ) : State α ε :=
  let deadline := executionDeadline (s.jobs id) startedAt
  let s := s.setOperation id .created
  if deadline - now ≤ 0 then giveUp s id startedAt deadline now
  else s.setLifecycle id (.waiting startedAt deadline)

def wakeRunJob (s : State α ε) (id : Nat) (now : ℚ) : State α ε :=
  match s.lifecycles id, s.operations id with
  | .waiting startedAt deadline, .done ending completedAt =>
      if completedAt ≤ deadline then finishRunJob (settleResult s id ending) id startedAt deadline now
      else finishRunJob (reportTimeout s id) id startedAt deadline now
  | .waiting startedAt deadline, _ => giveUp s id startedAt deadline now
  | .draining startedAt deadline, .done _ _ => finishRunJob s id startedAt deadline now
  | _, _ => s

def removeForShutdown (s : State α ε) (id : Nat) : State α ε :=
  let s := removeQueuedLocked s id
  s.setLedger id { s.ledger id with removedByShutdown := true }

def shutdown (s : State α ε) : State α ε :=
  let s := { s with accepting := false }
  let s := (s.queues .protected ++ s.queues .background).foldl removeForShutdown s
  let s := s.setShutdown s.nextShutdown .waiterCreated
  { s with nextShutdown := s.nextShutdown + 1 }

end SchwabGateway.Scheduler
