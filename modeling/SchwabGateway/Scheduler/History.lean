import SchwabGateway.Scheduler.Reachable

set_option autoImplicit false

namespace SchwabGateway.Scheduler

open SchwabGateway.Library

variable {α ε : Type}

def Caller.phase : Caller α ε → Nat
  | .absent => 0
  | .waitingStarted false _ => 1
  | .waitingStarted true _ => 2
  | .waitingResult _ => 3
  | .ended _ => 4

theorem phase_waiting (caller : Caller α ε) (waiting : caller.waiting = true) :
    1 ≤ caller.phase ∧ caller.phase ≤ 3 := by
  cases caller with
  | absent => cases waiting
  | waitingStarted timerFired cancelled => cases timerFired <;> simp [Caller.phase]
  | waitingResult cancelled => simp [Caller.phase]
  | ended outcome => cases waiting

-- What a call never loses once it is there: its request, what has been
-- decided about it, and the outcome of its caller.
structure Keeps (v w : View α ε) : Prop where
  priority : w.job.priority = v.job.priority
  queueDeadline : w.job.queueDeadline = v.job.queueDeadline
  requestDeadline : w.job.requestDeadline = v.job.requestDeadline
  executionTimeout : w.job.executionTimeoutSeconds = v.job.executionTimeoutSeconds
  admittedAt : w.ledger.admittedAt = v.ledger.admittedAt
  dispatchedAt : v.ledger.dispatchedAt ≠ none → w.ledger.dispatchedAt = v.ledger.dispatchedAt
  expired : v.ledger.expiredAt ≠ none → w.ledger.expiredAt ≠ none
  removed : v.ledger.removed = true → w.ledger.removed = true
  removedByShutdown : v.ledger.removedByShutdown = true → w.ledger.removedByShutdown = true
  queued : w.job.state = .queued → v.job.state = .queued
  finished : v.job.state = .finished → w.job.state = .finished
  result : v.job.result ≠ .pending → w.job.result = v.job.result
  launched : v.operation ≠ .notCreated → w.operation ≠ .notCreated
  called : v.operation.invocations = 1 → w.operation.invocations = 1
  completed : ∀ ending completedAt, v.operation = .done ending completedAt →
    w.operation = .done ending completedAt
  scheduled : ∀ startedAt deadline, v.lifecycle = .waiting startedAt deadline →
    w.lifecycle = .waiting startedAt deadline ∨ w.job.result ≠ .pending
  phase : v.caller.phase ≤ w.caller.phase
  outcome : ∀ outcome, v.caller = .ended outcome → w.caller = .ended outcome

theorem keeps_refl (v : View α ε) : Keeps v v :=
  ⟨rfl, rfl, rfl, rfl, rfl, fun _ => rfl, id, id, id, id, id, fun _ => rfl, id, id, fun _ _ same => same,
    fun _ _ same => .inl same, Nat.le_refl _, fun _ same => same⟩

theorem keeps_trans (u v w : View α ε) (first : Keeps u v) (second : Keeps v w) : Keeps u w where
  priority := second.priority.trans first.priority
  queueDeadline := second.queueDeadline.trans first.queueDeadline
  requestDeadline := second.requestDeadline.trans first.requestDeadline
  executionTimeout := second.executionTimeout.trans first.executionTimeout
  admittedAt := second.admittedAt.trans first.admittedAt
  dispatchedAt := by
    intro dispatched
    have same := first.dispatchedAt dispatched
    rw [← same] at dispatched
    exact (second.dispatchedAt dispatched).trans same
  expired := fun some => second.expired (first.expired some)
  removed := fun some => second.removed (first.removed some)
  removedByShutdown := fun some => second.removedByShutdown (first.removedByShutdown some)
  queued := fun waiting => first.queued (second.queued waiting)
  finished := fun done => second.finished (first.finished done)
  result := by
    intro done
    have same := first.result done
    rw [← same] at done
    exact (second.result done).trans same
  launched := fun some => second.launched (first.launched some)
  called := fun one => second.called (first.called one)
  completed := fun ending completedAt done =>
    second.completed ending completedAt (first.completed ending completedAt done)
  scheduled := by
    intro startedAt deadline waiting
    rcases first.scheduled startedAt deadline waiting with still | done
    · exact second.scheduled startedAt deadline still
    · refine .inr ?_
      rwa [second.result done]
  phase := le_trans first.phase second.phase
  outcome := fun outcome ended => second.outcome outcome (first.outcome outcome ended)

theorem set_if_pending_done (future value : Future α ε) (done : future ≠ .pending) :
    future.setIfPending value = future := by
  cases future <;> simp_all [Future.setIfPending]

theorem cancel_done (future : Future α ε) (done : future ≠ .pending) : future.cancel = future := by
  cases future <;> simp_all [Future.cancel]

theorem set_if_pending_settled (future value : Future α ε) (done : value ≠ .pending) :
    future.setIfPending value ≠ .pending := by
  cases future <;> simp_all [Future.setIfPending]

theorem settled_future_done (ending : Ending α ε) : settledFuture ending ≠ .pending := by
  cases ending <;> simp [settledFuture]

theorem keeps_start (now : ℚ) (v : View α ε) (queued : v.job.state = .queued)
    (undispatched : v.ledger.dispatchedAt = none) (lifecycle : v.lifecycle = .none) : Keeps v (v.start now) :=
  { keeps_refl v with
    scheduled := fun startedAt deadline waiting => by simp [lifecycle] at waiting
    dispatchedAt := fun some => absurd undispatched some
    queued := fun waiting => by cases waiting
    finished := fun done => by simp [queued] at done }

theorem keeps_expire (now : ℚ) (v : View α ε) : Keeps v (v.expire now) :=
  { keeps_refl v with
    expired := fun _ => by simp [View.expire]
    queued := fun waiting => by cases waiting
    finished := fun _ => rfl
    result := cancel_done v.job.result
    scheduled := fun _ _ same => .inl same }

theorem keeps_remove (v : View α ε) : Keeps v v.remove :=
  { keeps_refl v with
    removed := fun _ => rfl
    queued := fun waiting => by cases waiting
    finished := fun _ => rfl
    result := cancel_done v.job.result
    scheduled := fun _ _ same => .inl same }

theorem keeps_remove_for_shutdown (v : View α ε) : Keeps v v.removeForShutdown :=
  { keeps_remove v with removedByShutdown := fun _ => rfl }

theorem keeps_caller (v : View α ε) (caller : Caller α ε) (waiting : v.caller.waiting = true)
    (phase : v.caller.phase ≤ caller.phase) : Keeps v { v with caller := caller } :=
  { keeps_refl v with
    phase := phase
    outcome := fun outcome ended => by simp [ended, Caller.waiting] at waiting }

theorem keeps_finish (v : View α ε) (outcome : Outcome α ε) (waiting : v.caller.waiting = true) :
    Keeps v (v.finish outcome) :=
  keeps_caller v _ waiting (Nat.le_succ_of_le (phase_waiting _ waiting).2)

theorem keeps_flag (v : View α ε) : Keeps v { v with job := { v.job with callerCancelled := true } } :=
  { keeps_refl v with }

theorem keeps_caller_cancelled (v : View α ε) (waiting : v.caller.waiting = true) :
    Keeps v v.callerCancelled := by
  unfold View.callerCancelled
  cases v.job.state with
  | queued => exact keeps_trans _ _ _ (keeps_remove v) (keeps_finish v.remove _ waiting)
  | running => exact keeps_trans _ _ _ (keeps_flag v) (keeps_finish _ _ waiting)
  | finished => exact keeps_finish v _ waiting

theorem keeps_await_result (v : View α ε) (waiting : v.caller.waiting = true) : Keeps v v.awaitResult := by
  unfold View.awaitResult
  cases v.job.result with
  | pending => exact keeps_caller v _ waiting (phase_waiting _ waiting).2
  | result value => exact keeps_finish v _ waiting
  | exception error => exact keeps_finish v _ waiting
  | cancelled => exact keeps_caller_cancelled v waiting

theorem keeps_queue_timer (now : ℚ) (v : View α ε) (waiting : v.caller.waiting = true) :
    Keeps v (v.queueTimerExpired now) := by
  have rest : ∀ w : View α ε, w.caller.waiting = true →
      Keeps w (if w.job.queueTimedOut then w.finish (.raised (.queueTimeout queueWaitTimedOut))
        else w.awaitResult) := by
    intro w waiting
    split
    · exact keeps_finish w _ waiting
    · exact keeps_await_result w waiting
  unfold View.queueTimerExpired
  by_cases queued : v.job.state = .queued
  · simp only [if_pos queued]
    exact keeps_trans _ _ _ (keeps_expire now v) (rest (v.expire now) waiting)
  · simp only [if_neg queued]
    exact rest v waiting

theorem keeps_resume (now : ℚ) (v : View α ε) (waiting : v.caller.waiting = true) : Keeps v (v.resume now) := by
  unfold View.resume
  cases callerEq : v.caller with
  | absent => exact keeps_refl v
  | ended outcome => exact keeps_refl v
  | waitingStarted timerFired cancelled =>
      cases cancelled with
      | true => simpa using keeps_caller_cancelled v waiting
      | false =>
          cases timerFired with
          | true => simpa using keeps_queue_timer now v waiting
          | false =>
              simp only [Bool.false_eq_true, if_false]
              cases v.job.started with
              | pending => exact keeps_refl v
              | result value => exact keeps_await_result v waiting
              | exception error => exact keeps_finish v _ waiting
              | cancelled => exact keeps_caller_cancelled v waiting
  | waitingResult cancelled =>
      cases cancelled with
      | true => simpa using keeps_caller_cancelled v waiting
      | false => simpa using keeps_await_result v waiting

theorem keeps_release_slot (v : View α ε) (startedAt deadline : ℚ)
    (settled : v.lifecycle ≠ .waiting startedAt deadline ∨ v.job.result ≠ .pending)
    (own : ∀ a b, v.lifecycle = .waiting a b → a = startedAt ∧ b = deadline) :
    Keeps v (v.releaseSlot startedAt deadline) :=
  { keeps_refl v with
    queued := fun waiting => by cases waiting
    finished := fun _ => rfl
    scheduled := fun a b waiting => by
      obtain ⟨rfl, rfl⟩ := own a b waiting
      exact .inr (settled.resolve_left (fun other => other waiting)) }

theorem keeps_set_result (v : View α ε) (value : Future α ε) :
    Keeps v { v with job := { v.job with result := v.job.result.setIfPending value } } :=
  { keeps_refl v with
    result := set_if_pending_done v.job.result value
    scheduled := fun _ _ same => .inl same }

theorem keeps_give_up (v : View α ε) (startedAt deadline now : ℚ) : Keeps v (v.giveUp startedAt deadline now) :=
  { keeps_refl v with
    result := set_if_pending_done v.job.result _
    scheduled := fun _ _ _ => .inr (set_if_pending_settled _ _ (by simp)) }

theorem keeps_start_run (v : View α ε) (startedAt now : ℚ) (operation : v.operation = .notCreated)
    (lifecycle : v.lifecycle = .created) : Keeps v (v.startRunJob startedAt now) := by
  have created : Keeps v { v with operation := .created } :=
    { keeps_refl v with
      launched := fun _ => by simp
      called := fun called => by simp [operation, Operation.invocations] at called
      completed := fun ending completedAt done => by simp [operation] at done }
  simp only [View.startRunJob]
  split
  · exact keeps_trans _ _ _ created (keeps_give_up _ startedAt _ now)
  · exact { created with scheduled := fun a b waiting => by simp [lifecycle] at waiting }

theorem keeps_wake_run (v : View α ε) (now : ℚ) : Keeps v (v.wakeRunJob now) := by
  cases lifecycleEq : v.lifecycle with
  | none => simpa [View.wakeRunJob, lifecycleEq] using keeps_refl v
  | created => simpa [View.wakeRunJob, lifecycleEq] using keeps_refl v
  | ended startedAt deadline => simpa [View.wakeRunJob, lifecycleEq] using keeps_refl v
  | cancelledBeforeStart => simpa [View.wakeRunJob, lifecycleEq] using keeps_refl v
  | waiting startedAt deadline =>
      have own : ∀ a b, v.lifecycle = .waiting a b → a = startedAt ∧ b = deadline := by
        intro a b waiting
        simpa [lifecycleEq, eq_comm] using waiting
      cases operationEq : v.operation with
      | notCreated =>
          rw [wake_overrun v startedAt deadline now lifecycleEq (by rw [operationEq]; rfl)]
          exact keeps_give_up v startedAt deadline now
      | created =>
          rw [wake_overrun v startedAt deadline now lifecycleEq (by rw [operationEq]; rfl)]
          exact keeps_give_up v startedAt deadline now
      | running =>
          rw [wake_overrun v startedAt deadline now lifecycleEq (by rw [operationEq]; rfl)]
          exact keeps_give_up v startedAt deadline now
      | done ending completedAt =>
          by_cases early : completedAt ≤ deadline
          · rw [wake_in_budget v startedAt deadline completedAt now ending lifecycleEq operationEq early]
            exact keeps_trans _ _ _ (keeps_set_result v _) (keeps_release_slot _ startedAt deadline
              (.inr (set_if_pending_settled _ _ (settled_future_done ending))) own)
          · rw [wake_late v startedAt deadline completedAt now ending lifecycleEq operationEq early]
            exact keeps_trans _ _ _ (keeps_set_result v _) (keeps_release_slot _ startedAt deadline
              (.inr (set_if_pending_settled _ _ (by simp))) own)
  | draining startedAt deadline =>
      cases operationEq : v.operation with
      | notCreated => simpa [View.wakeRunJob, lifecycleEq, operationEq] using keeps_refl v
      | created => simpa [View.wakeRunJob, lifecycleEq, operationEq] using keeps_refl v
      | running => simpa [View.wakeRunJob, lifecycleEq, operationEq] using keeps_refl v
      | done ending completedAt =>
          rw [wake_drained v startedAt deadline completedAt now ending lifecycleEq operationEq]
          exact keeps_release_slot v startedAt deadline (.inl (by simp [lifecycleEq])) (by simp [lifecycleEq])

theorem keeps_operation (v : View α ε) (operation : Operation α ε) (ledger : Ledger) (launched : operation ≠ .notCreated)
    (unfinished : v.operation.isDone = false) (same : ledger = { v.ledger with invocations := ledger.invocations })
    (called : operation.invocations = 1) :
    Keeps v { v with operation := operation, ledger := ledger } := by
  rw [same]
  exact
    { keeps_refl v with
      launched := fun _ => launched
      called := fun _ => called
      completed := fun ending completedAt done => by simp [done, Operation.isDone] at unfinished }

theorem keeps_timer (v : View α ε) (armed : v.caller.timerArmed = true) :
    Keeps v { v with caller := v.caller.fireTimer } := by
  cases callerEq : v.caller with
  | waitingStarted timerFired cancelled =>
      refine keeps_caller v _ (by rw [callerEq]; rfl) ?_
      cases timerFired <;> simp [callerEq, Caller.fireTimer, Caller.phase]
  | absent => simp [callerEq, Caller.timerArmed] at armed
  | waitingResult cancelled => simp [callerEq, Caller.timerArmed] at armed
  | ended outcome => simp [callerEq, Caller.timerArmed] at armed

theorem keeps_cancel (v : View α ε) (waiting : v.caller.waiting = true) : Keeps v v.requestCancel := by
  have phase : v.caller.phase ≤ v.caller.cancel.phase := by
    cases v.caller with
    | absent => simp [Caller.cancel]
    | ended outcome => simp [Caller.cancel]
    | waitingResult cancelled => simp [Caller.cancel, Caller.phase]
    | waitingStarted timerFired cancelled => cases timerFired <;> simp [Caller.cancel, Caller.phase]
  exact { keeps_caller v v.caller.cancel waiting phase with }

theorem keeps_step (now : ℚ) (v w : View α ε) (step : ViewStep now v w) (before : Consistent now v) :
    Keeps v w := by
  cases step with
  | dispatch queued live =>
      obtain ⟨lifecycle, _, ⟨admittedAt, ledger⟩, _⟩ := stage_queued now _ _ _ _ before.stage queued
      exact keeps_start now v queued (by rw [ledger]) lifecycle
  | expire queued late => exact keeps_expire now v
  | shutdown queued => exact keeps_remove_for_shutdown v
  | timer armed late => exact keeps_timer v armed
  | cancel waiting => exact keeps_cancel v waiting
  | resume waiting => exact keeps_resume now v waiting
  | startRun startedAt created early after =>
      have stage := before.stage
      rw [created] at stage
      exact keeps_start_run v startedAt now (stage_created _ _ _ _ stage).1 created
  | wakeRun ready => exact keeps_wake_run v now
  | startOperation created => exact keeps_operation v _ _ (by simp) (by rw [created]; rfl) rfl rfl
  | completeOperation ending running => exact keeps_operation v _ v.ledger (by simp) (by rw [running]; rfl) rfl rfl

theorem keeps_steps (now : ℚ) (v w : View α ε) (steps : ViewSteps now v w) (before : Consistent now v) :
    Keeps v w := by
  induction steps with
  | refl => exact keeps_refl v
  | tail earlier step ih =>
      exact keeps_trans _ _ _ ih (keeps_step now _ _ step (consistent_steps now _ _ earlier before))

theorem keeps_perform (s : State α ε) (event : Event α ε) (member : event ∈ (undisturbed : Set (Event α ε)))
    (invariant : Invariant s) (guarded : (scheduler α ε).enabled s event) (id : Nat) (known : id < s.next) :
    Keeps (view s id) (view ((scheduler α ε).perform s event) id) := by
  have spec := step_spec s event invariant member guarded
  cases spec.moved id with
  | stepped steps =>
      exact keeps_steps _ _ _ steps (consistent_mono _ _ guarded.1 _ (invariant.consistent id))
  | arrived fresh _ _ =>
      have seen : (s.at event.now).next = s.next := rfl
      omega

theorem next_mono (s : State α ε) (event : Event α ε) (member : event ∈ (undisturbed : Set (Event α ε)))
    (invariant : Invariant s) (guarded : (scheduler α ε).enabled s event) :
    s.next ≤ ((scheduler α ε).perform s event).next :=
  (steps_frame _ _ (step_spec s event invariant member guarded).lock.steps).2.2

theorem next_mono_reaches (s t : State α ε) (invariant : Invariant s)
    (reached : (scheduler α ε).Reaches undisturbed s t) : s.next ≤ t.next :=
  (scheduler α ε).reaches_related undisturbed Invariant (fun a b : State α ε => a.next ≤ b.next)
    (fun _ => Nat.le_refl _) (fun _ _ _ first second => le_trans first second) invariant_step
    (fun a event member held guarded => next_mono a event member held guarded) s t reached invariant

theorem keeps_reaches (s t : State α ε) (invariant : Invariant s)
    (reached : (scheduler α ε).Reaches undisturbed s t) (id : Nat) (known : id < s.next) :
    Keeps (view s id) (view t id) := by
  have related := (scheduler α ε).reaches_related undisturbed Invariant
    (fun a b : State α ε => a.next ≤ b.next ∧ (id < a.next → Keeps (view a id) (view b id)))
    (fun a => ⟨Nat.le_refl _, fun _ => keeps_refl _⟩)
    (fun a b c first second => ⟨le_trans first.1 second.1, fun known =>
      keeps_trans _ _ _ (first.2 known) (second.2 (lt_of_lt_of_le known first.1))⟩)
    invariant_step
    (fun a event member held guarded => ⟨next_mono a event member held guarded,
      keeps_perform a event member held guarded id⟩)
    s t reached invariant
  exact related.2 known

end SchwabGateway.Scheduler
