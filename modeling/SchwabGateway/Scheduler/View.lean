import SchwabGateway.Scheduler.System

set_option autoImplicit false

namespace SchwabGateway.Scheduler

variable {α ε : Type}

structure View (α ε : Type) where
  job : Job α ε
  caller : Caller α ε
  lifecycle : Lifecycle
  operation : Operation α ε
  ledger : Ledger
  cancelRequested : Bool

def view (s : State α ε) (id : Nat) : View α ε :=
  ⟨s.jobs id, s.callers id, s.lifecycles id, s.operations id, s.ledger id, s.cancelRequested id⟩

namespace View

def absent : View α ε := ⟨.absent, .absent, .none, .notCreated, {}, false⟩

def refuse (v : View α ε) (error : Raised ε) : View α ε :=
  { v with caller := .ended (.raised error) }

def enqueue (v : View α ε) (request : Request) (enqueuedAt : ℚ) : View α ε :=
  { v with
    job := newJob request enqueuedAt
    caller := .waitingStarted false false
    ledger := { v.ledger with admittedAt := some enqueuedAt } }

def release (v : View α ε) : View α ε :=
  { v with
    job := { v.job with state := .finished }
    ledger := { v.ledger with allocationReleases := v.ledger.allocationReleases + 1 } }

def remove (v : View α ε) : View α ε :=
  { v.release with
    job := { v.release.job with started := v.job.started.cancel, result := v.job.result.cancel }
    ledger := { v.release.ledger with removed := true } }

def removeForShutdown (v : View α ε) : View α ε :=
  { v.remove with ledger := { v.remove.ledger with removedByShutdown := true } }

def expire (v : View α ε) (now : ℚ) : View α ε :=
  { v.release with
    job :=
      { v.release.job with
        queueTimedOut := true
        started := v.job.started.setIfPending (.exception (.queueTimeout queueWaitTimedOut))
        result := v.job.result.cancel }
    ledger := { v.release.ledger with expiredAt := some now } }

def start (v : View α ε) (now : ℚ) : View α ε :=
  { v with
    job :=
      { v.job with
        state := .running
        queueWaitSeconds := max 0 (now - v.job.enqueuedAt)
        started := .result () }
    lifecycle := .created
    ledger := { v.ledger with dispatchedAt := some now } }

def finish (v : View α ε) (outcome : Outcome α ε) : View α ε :=
  { v with caller := .ended outcome }

def callerCancelled (v : View α ε) : View α ε :=
  match v.job.state with
  | .queued => v.remove.finish (.raised .cancelled)
  | .running => { v with job := { v.job with callerCancelled := true } }.finish (.raised .cancelled)
  | .finished => v.finish (.raised .cancelled)

def awaitResult (v : View α ε) : View α ε :=
  match v.job.result with
  | .pending => { v with caller := .waitingResult false }
  | .result value => v.finish (.returned value)
  | .exception error => v.finish (.raised error)
  | .cancelled => v.callerCancelled

def queueTimerExpired (v : View α ε) (now : ℚ) : View α ε :=
  let v := if v.job.state = .queued then v.expire now else v
  if v.job.queueTimedOut then v.finish (.raised (.queueTimeout queueWaitTimedOut))
  else v.awaitResult

def resume (v : View α ε) (now : ℚ) : View α ε :=
  match v.caller with
  | .waitingStarted timerFired cancelRequested =>
      if cancelRequested then v.callerCancelled
      else if timerFired then v.queueTimerExpired now
      else
        match v.job.started with
        | .pending => v
        | .result _ => v.awaitResult
        | .exception error => v.finish (.raised error)
        | .cancelled => v.callerCancelled
  | .waitingResult cancelRequested =>
      if cancelRequested then v.callerCancelled else v.awaitResult
  | _ => v

def releaseSlot (v : View α ε) (startedAt deadline : ℚ) : View α ε :=
  { v with
    job := { v.job with state := .finished }
    lifecycle := .ended startedAt deadline
    ledger :=
      { v.ledger with
        allocationReleases := v.ledger.allocationReleases + 1
        slotReleases := v.ledger.slotReleases + 1 } }

def reportTimeout (v : View α ε) : View α ε :=
  { v with
    job :=
      { v.job with
        result := v.job.result.setIfPending (.exception (.upstreamTimeout executionTimedOut)) } }

def giveUp (v : View α ε) (startedAt deadline now : ℚ) : View α ε :=
  { v.reportTimeout with
    lifecycle := .draining startedAt deadline
    ledger := { v.ledger with gaveUpAt := some now } }

def settleResult (v : View α ε) (ending : Ending α ε) : View α ε :=
  { v with job := { v.job with result := v.job.result.setIfPending (settledFuture ending) } }

def startRunJob (v : View α ε) (startedAt now : ℚ) : View α ε :=
  let deadline := executionDeadline v.job startedAt
  let v := { v with operation := .created }
  if deadline - now ≤ 0 then v.giveUp startedAt deadline now
  else { v with lifecycle := .waiting startedAt deadline }

def wakeRunJob (v : View α ε) (now : ℚ) : View α ε :=
  match v.lifecycle, v.operation with
  | .waiting startedAt deadline, .done ending completedAt =>
      if completedAt ≤ deadline then (v.settleResult ending).releaseSlot startedAt deadline
      else v.reportTimeout.releaseSlot startedAt deadline
  | .waiting startedAt deadline, _ => v.giveUp startedAt deadline now
  | .draining startedAt deadline, .done _ _ => v.releaseSlot startedAt deadline
  | _, _ => v

def startOperation (v : View α ε) : View α ε :=
  { v with
    operation := .running
    ledger := { v.ledger with invocations := v.ledger.invocations + 1 } }

def requestCancel (v : View α ε) : View α ε :=
  { v with caller := v.caller.cancel, cancelRequested := true }

end View

-- What one step of the event loop can do to a call that is already there. The
-- guards say when the scheduler does it.
inductive ViewStep (now : ℚ) : View α ε → View α ε → Prop where
  | dispatch (v : View α ε) (queued : v.job.state = .queued) (live : now < v.job.queueDeadline) :
      ViewStep now v (v.start now)
  | expire (v : View α ε) (queued : v.job.state = .queued) (late : v.job.queueDeadline ≤ now) :
      ViewStep now v (v.expire now)
  | shutdown (v : View α ε) (queued : v.job.state = .queued) : ViewStep now v v.removeForShutdown
  | timer (v : View α ε) (armed : v.caller.timerArmed = true) (late : v.job.queueDeadline ≤ now) :
      ViewStep now v { v with caller := v.caller.fireTimer }
  | cancel (v : View α ε) (waiting : v.caller.waiting = true) : ViewStep now v v.requestCancel
  | resume (v : View α ε) (waiting : v.caller.waiting = true) : ViewStep now v (v.resume now)
  | startRun (v : View α ε) (startedAt : ℚ) (created : v.lifecycle = .created) (early : startedAt ≤ now)
      (after : ∀ dispatchedAt, v.ledger.dispatchedAt = some dispatchedAt → dispatchedAt ≤ startedAt) :
      ViewStep now v (v.startRunJob startedAt now)
  | wakeRun (v : View α ε) (ready : lifecycleReady v.operation now v.lifecycle = true) :
      ViewStep now v (v.wakeRunJob now)
  | startOperation (v : View α ε) (created : v.operation = .created) :
      ViewStep now v v.startOperation
  | completeOperation (v : View α ε) (ending : Ending α ε) (running : v.operation = .running) :
      ViewStep now v { v with operation := .done ending now }

def ViewSteps (now : ℚ) : View α ε → View α ε → Prop := Relation.ReflTransGen (ViewStep now)

inductive Arrival (now : ℚ) : View α ε → Prop where
  | refused (error : Raised ε)
      (refusal : (∃ message, error = .valueError message) ∨ ∃ message, error = .capacity message) :
      Arrival now (View.absent.refuse error)
  | admitted (request : Request) (enqueuedAt : ℚ) (early : enqueuedAt ≤ now) (v : View α ε)
      (moved : ViewSteps now (View.absent.enqueue request enqueuedAt) v) : Arrival now v

theorem wake_in_budget (v : View α ε) (startedAt deadline completedAt now : ℚ) (ending : Ending α ε)
    (lifecycle : v.lifecycle = .waiting startedAt deadline) (operation : v.operation = .done ending completedAt)
    (early : completedAt ≤ deadline) :
    v.wakeRunJob now = (v.settleResult ending).releaseSlot startedAt deadline := by
  simp only [View.wakeRunJob, lifecycle, operation, if_pos early]

theorem wake_late (v : View α ε) (startedAt deadline completedAt now : ℚ) (ending : Ending α ε)
    (lifecycle : v.lifecycle = .waiting startedAt deadline) (operation : v.operation = .done ending completedAt)
    (late : ¬ completedAt ≤ deadline) :
    v.wakeRunJob now = v.reportTimeout.releaseSlot startedAt deadline := by
  simp only [View.wakeRunJob, lifecycle, operation, if_neg late]

theorem wake_overrun (v : View α ε) (startedAt deadline now : ℚ)
    (lifecycle : v.lifecycle = .waiting startedAt deadline) (operation : v.operation.isDone = false) :
    v.wakeRunJob now = v.giveUp startedAt deadline now := by
  unfold View.wakeRunJob
  rw [lifecycle]
  generalize v.operation = pending at operation
  cases pending with
  | notCreated => rfl
  | created => rfl
  | running => rfl
  | done ending completedAt => simp [Operation.isDone] at operation

theorem wake_drained (v : View α ε) (startedAt deadline completedAt now : ℚ) (ending : Ending α ε)
    (lifecycle : v.lifecycle = .draining startedAt deadline) (operation : v.operation = .done ending completedAt) :
    v.wakeRunJob now = v.releaseSlot startedAt deadline := by
  simp only [View.wakeRunJob, lifecycle, operation]

section Frames

variable (s : State α ε) (id other : Nat)

@[simp] theorem view_set_idle_if_drained : view (setIdleIfDrained s) other = view s other := rfl

theorem view_set_job (job : Job α ε) :
    view (s.setJob id job) other =
      if other = id then { view s other with job := job } else view s other := by
  by_cases same : other = id <;> simp [State.setJob, view, same]

theorem view_end_call (outcome : Outcome α ε) :
    view (endCall s id outcome) other =
      if other = id then (view s other).finish outcome else view s other := by
  by_cases same : other = id <;> simp [endCall, State.setCaller, view, View.finish, same]

theorem view_remove :
    view (removeQueuedLocked s id) other =
      if other = id then (view s other).remove else view s other := by
  by_cases same : other = id <;>
    simp [removeQueuedLocked, releaseQueuedLocked, State.setQueue, State.setAllocated, State.setJob,
      State.setLedger, setIdleIfDrained, view, View.remove, View.release, same]

theorem view_remove_for_shutdown :
    view (removeForShutdown s id) other =
      if other = id then (view s other).removeForShutdown else view s other := by
  have removed := view_remove s id other
  by_cases same : other = id
  · subst same
    rw [if_pos rfl] at removed ⊢
    simp only [View.removeForShutdown, ← removed]
    simp [removeForShutdown, State.setLedger, view]
  · rw [if_neg same] at removed ⊢
    rw [← removed]
    simp [removeForShutdown, State.setLedger, view, same]

theorem view_expire (now : ℚ) :
    view (expireQueuedLocked s id now) other =
      if other = id then (view s other).expire now else view s other := by
  by_cases same : other = id <;>
    simp [expireQueuedLocked, releaseQueuedLocked, State.setQueue, State.setAllocated, State.setJob,
      State.setLedger, setIdleIfDrained, view, View.expire, View.release, same]

theorem view_start (p : PriorityClass) (now : ℚ) :
    view (startJob s p id now) other =
      if other = id then (view s other).start now else view s other := by
  by_cases same : other = id <;>
    simp [startJob, State.setQueue, State.setJob, State.setLifecycle, State.setLedger, view,
      View.start, same]

theorem view_enqueue (request : Request) (enqueuedAt : ℚ) :
    view (enqueue s id request enqueuedAt) other =
      if other = id then (view s other).enqueue request enqueuedAt else view s other := by
  by_cases same : other = id <;>
    simp [enqueue, State.setQueue, State.setAllocated, State.setJob, State.setCaller, State.setLedger,
      view, View.enqueue, same]

theorem view_caller_cancelled :
    view (callerCancelled s id) other =
      if other = id then (view s other).callerCancelled else view s other := by
  unfold callerCancelled
  by_cases same : other = id
  · subst same
    have seen : (view s other).job = s.jobs other := rfl
    simp only [if_true, View.callerCancelled, seen]
    cases (s.jobs other).state with
    | queued => simp [view_end_call, view_remove]
    | running => simp [endCall, State.setJob, State.setCaller, view, View.finish]
    | finished => simp [view_end_call]
  · cases (s.jobs id).state with
    | queued => simp [view_end_call, view_remove, same]
    | running => simp [endCall, State.setJob, State.setCaller, view, same]
    | finished => simp [view_end_call, same]

theorem view_await_result :
    view (awaitResult s id) other =
      if other = id then (view s other).awaitResult else view s other := by
  unfold awaitResult
  by_cases same : other = id
  · subst same
    have seen : (view s other).job = s.jobs other := rfl
    simp only [if_true, View.awaitResult, seen]
    cases (s.jobs other).result with
    | pending => simp [State.setCaller, view]
    | result value => simp [view_end_call]
    | exception error => simp [view_end_call]
    | cancelled => simp [view_caller_cancelled]
  · cases (s.jobs id).result with
    | pending => simp [State.setCaller, view, same]
    | result value => simp [view_end_call, same]
    | exception error => simp [view_end_call, same]
    | cancelled => simp [view_caller_cancelled, same]

theorem view_queue_timer_expired (now : ℚ) :
    view (queueTimerExpired s id now) other =
      if other = id then (view s other).queueTimerExpired now else view s other := by
  have expired : view (if (s.jobs id).state = .queued then expireQueuedLocked s id now else s) other =
      if other = id then
        (if (view s other).job.state = .queued then (view s other).expire now else view s other)
      else view s other := by
    by_cases same : other = id
    · subst same
      have seen : (view s other).job = s.jobs other := rfl
      by_cases queued : (s.jobs other).state = .queued <;> simp [queued, seen, view_expire]
    · by_cases queued : (s.jobs id).state = .queued <;> simp [queued, view_expire, same]
  unfold queueTimerExpired
  generalize (if (s.jobs id).state = .queued then expireQueuedLocked s id now else s) = t at expired
  by_cases same : other = id
  · subst same
    rw [if_pos rfl] at expired ⊢
    have seen : (view t other).job = t.jobs other := rfl
    simp only [View.queueTimerExpired, ← expired, seen]
    split
    · simp [view_end_call]
    · simp [view_await_result]
  · rw [if_neg same] at expired ⊢
    dsimp only
    split
    · simp [view_end_call, same, expired]
    · simp [view_await_result, same, expired]

theorem view_resume (now : ℚ) :
    view (resumeCaller s id now) other =
      if other = id then (view s other).resume now else view s other := by
  unfold resumeCaller
  by_cases same : other = id
  · subst same
    have seenCaller : (view s other).caller = s.callers other := rfl
    have seenJob : (view s other).job = s.jobs other := rfl
    simp only [if_true, View.resume, seenCaller, seenJob]
    cases s.callers other with
    | absent => rfl
    | ended outcome => rfl
    | waitingStarted timerFired cancelRequested =>
        cases cancelRequested <;> cases timerFired <;>
          simp [view_caller_cancelled, view_queue_timer_expired]
        cases (s.jobs other).started with
        | pending => rfl
        | result value => simp [view_await_result]
        | exception error => simp [view_end_call]
        | cancelled => simp [view_caller_cancelled]
    | waitingResult cancelRequested =>
        cases cancelRequested <;> simp [view_caller_cancelled, view_await_result]
  · rw [if_neg same]
    cases s.callers id with
    | absent => rfl
    | ended outcome => rfl
    | waitingStarted timerFired cancelRequested =>
        cases cancelRequested <;> cases timerFired <;>
          simp [view_caller_cancelled, view_queue_timer_expired, same]
        cases (s.jobs id).started with
        | pending => rfl
        | result value => simp [view_await_result, same]
        | exception error => simp [view_end_call, same]
        | cancelled => simp [view_caller_cancelled, same]
    | waitingResult cancelRequested =>
        cases cancelRequested <;> simp [view_caller_cancelled, view_await_result, same]

theorem view_start_run_job (startedAt now : ℚ) :
    view (startRunJob s id startedAt now) other =
      if other = id then (view s other).startRunJob startedAt now else view s other := by
  by_cases same : other = id
  · subst same
    simp only [startRunJob, View.startRunJob, if_true]
    have seen : (view s other).job = s.jobs other := rfl
    rw [seen]
    split <;>
      simp [giveUp, reportTimeout, View.giveUp, View.reportTimeout, State.setJob, State.setLedger,
        State.setLifecycle, State.setOperation, view]
  · simp only [startRunJob, if_neg same]
    split <;>
      simp [giveUp, reportTimeout, State.setJob, State.setLedger, State.setLifecycle,
        State.setOperation, view, same]

theorem view_start_operation :
    view (startOperation s id) other =
      if other = id then (view s other).startOperation else view s other := by
  by_cases same : other = id <;>
    simp [startOperation, View.startOperation, State.setOperation, State.setLedger, view, same]

theorem view_cancel_caller :
    view (cancelCaller s id) other =
      if other = id then (view s other).requestCancel else view s other := by
  by_cases same : other = id <;>
    simp [cancelCaller, View.requestCancel, State.setCaller, view, same]

theorem view_fire_timer :
    view (s.setCaller id (s.callers id).fireTimer) other =
      if other = id then { view s other with caller := (view s other).caller.fireTimer }
      else view s other := by
  by_cases same : other = id <;> simp [State.setCaller, view, same]

theorem view_complete_operation (ending : Ending α ε) (now : ℚ) :
    view (s.setOperation id (.done ending now)) other =
      if other = id then { view s other with operation := .done ending now } else view s other := by
  by_cases same : other = id <;> simp [State.setOperation, view, same]

end Frames

end SchwabGateway.Scheduler
