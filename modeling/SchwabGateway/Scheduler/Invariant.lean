import SchwabGateway.Scheduler.Consistency

set_option autoImplicit false

namespace SchwabGateway.Scheduler

open SchwabGateway.Library (field_update field_kept)

variable {α ε : Type}

structure Invariant (s : State α ε) : Prop where
  balanced : ∃ slot, Balanced (accounts s) slot
  settled : Settled (accounts s)
  fresh : ∀ id, s.next ≤ id → view s id = .absent
  consistent : ∀ id, Consistent s.clock (view s id)

theorem settled_release (a : Accounts) (slot : Option Nat) (balanced : Balanced a slot)
    (settled : Settled a) (id : Nat) (queued : a.state id = .queued) : Settled (a.release id) := by
  constructor
  · intro inactive p
    have empty := settled.waits inactive (a.priority id)
    have member : id ∈ a.queues (a.priority id) := (balanced.members _ id).mpr ⟨queued, rfl⟩
    simp [empty] at member
  · exact settle_idle_complete _

theorem accounts_caller_cancelled (s : State α ε) (id : Nat) :
    accounts (callerCancelled s id) = accounts s ∨
      ((s.jobs id).state = .queued ∧ accounts (callerCancelled s id) = (accounts s).release id) := by
  unfold callerCancelled
  cases stateEq : (s.jobs id).state with
  | queued => exact .inr ⟨rfl, accounts_remove s id⟩
  | running => exact .inl (accounts_set_futures s id _ rfl rfl)
  | finished => exact .inl rfl

theorem accounts_await_result (s : State α ε) (id : Nat) :
    accounts (awaitResult s id) = accounts s ∨
      ((s.jobs id).state = .queued ∧ accounts (awaitResult s id) = (accounts s).release id) := by
  unfold awaitResult
  cases (s.jobs id).result with
  | pending => exact .inl rfl
  | result value => exact .inl rfl
  | exception error => exact .inl rfl
  | cancelled => exact accounts_caller_cancelled s id

theorem accounts_queue_timer (s : State α ε) (id : Nat) (now : ℚ) :
    accounts (queueTimerExpired s id now) = accounts s ∨
      ((s.jobs id).state = .queued ∧ accounts (queueTimerExpired s id now) = (accounts s).release id) := by
  unfold queueTimerExpired
  by_cases queued : (s.jobs id).state = .queued
  · have timedOut : ((expireQueuedLocked s id now).jobs id).queueTimedOut = true := by
      have seen := congrArg (fun v => v.job.queueTimedOut) (view_expire s id id now)
      simpa [view, View.expire] using seen
    simp only [if_pos queued, timedOut, if_true]
    exact .inr ⟨queued, accounts_expire s id now⟩
  · simp only [if_neg queued]
    split
    · exact .inl rfl
    · cases accounts_await_result s id with
      | inl same => exact .inl same
      | inr released => exact absurd released.1 queued

theorem accounts_resume (s : State α ε) (id : Nat) (now : ℚ) :
    accounts (resumeCaller s id now) = accounts s ∨
      ((s.jobs id).state = .queued ∧ accounts (resumeCaller s id now) = (accounts s).release id) := by
  unfold resumeCaller
  cases s.callers id with
  | absent => exact .inl rfl
  | ended outcome => exact .inl rfl
  | waitingStarted timerFired cancelled =>
      cases cancelled with
      | true => simpa using accounts_caller_cancelled s id
      | false =>
          cases timerFired with
          | true => simpa using accounts_queue_timer s id now
          | false =>
              simp only [Bool.false_eq_true, if_false]
              cases (s.jobs id).started with
              | pending => exact .inl rfl
              | result value => exact accounts_await_result s id
              | exception error => exact .inl rfl
              | cancelled => exact accounts_caller_cancelled s id
  | waitingResult cancelled =>
      cases cancelled with
      | true => simpa using accounts_caller_cancelled s id
      | false => simpa using accounts_await_result s id

-- A whole lock section, or any other step that runs without an await.
structure LockSection (a b : Accounts) : Prop where
  steps : Accounts.Steps a b
  settled : Settled b

theorem lock_section_refl (a : Accounts) (settled : Settled a) : LockSection a a := ⟨.refl, settled⟩

theorem lock_section_release (a : Accounts) (balanced : ∃ slot, Balanced a slot) (settled : Settled a)
    (id : Nat) (queued : a.state id = .queued) : LockSection a (a.release id) := by
  obtain ⟨slot, balanced⟩ := balanced
  exact ⟨.single (.release a id queued), settled_release a slot balanced settled id queued⟩

theorem lock_section_resume (s : State α ε) (balanced : ∃ slot, Balanced (accounts s) slot)
    (settled : Settled (accounts s)) (id : Nat) (now : ℚ) :
    LockSection (accounts s) (accounts (resumeCaller s id now)) := by
  rcases accounts_resume s id now with same | ⟨queued, released⟩
  · rw [same]
    exact lock_section_refl _ settled
  · rw [released]
    exact lock_section_release _ balanced settled id queued

def vacate (s : State α ε) (id : Nat) (startedAt deadline : ℚ) : State α ε :=
  let job := s.jobs id
  let s := s.setJob id { job with state := .finished }
  let s := s.setAllocated job.priority (s.allocated job.priority - 1)
  let s := { s with workerActive := false }
  let s := s.setLifecycle id (.ended startedAt deadline)
  s.setLedger id
    { s.ledger id with
      allocationReleases := (s.ledger id).allocationReleases + 1
      slotReleases := (s.ledger id).slotReleases + 1 }

theorem finish_run_job_eq (s : State α ε) (id : Nat) (startedAt deadline now : ℚ) :
    finishRunJob s id startedAt deadline now =
      setIdleIfDrained (dispatchLocked (vacate s id startedAt deadline) now) := rfl

theorem accounts_vacate (s : State α ε) (id : Nat) (startedAt deadline : ℚ) :
    accounts (vacate s id startedAt deadline) = (accounts s).vacate id := by
  have state : (fun other => ((vacate s id startedAt deadline).jobs other).state) =
      Function.update (fun other => (s.jobs other).state) id .finished :=
    field_update s.jobs Job.state id _
  have priority : (fun other => ((vacate s id startedAt deadline).jobs other).priority) =
      fun other => (s.jobs other).priority := field_kept s.jobs Job.priority id _ rfl
  have alive : (fun other => ((vacate s id startedAt deadline).lifecycles other).alive) =
      Function.update (fun other => (s.lifecycles other).alive) id false :=
    field_update s.lifecycles Lifecycle.alive id _
  have times : (fun other => ((vacate s id startedAt deadline).ledger other).dispatchedAt) =
      fun other => (s.ledger other).dispatchedAt := field_kept s.ledger Ledger.dispatchedAt id _ rfl
  simp only [accounts, state, priority, alive, times]
  rfl

theorem view_vacate (s : State α ε) (id other : Nat) (startedAt deadline : ℚ) :
    view (vacate s id startedAt deadline) other =
      if other = id then (view s other).releaseSlot startedAt deadline else view s other := by
  by_cases same : other = id <;>
    simp [vacate, State.setJob, State.setAllocated, State.setLifecycle, State.setLedger, view,
      View.releaseSlot, same]

theorem balanced_finish (s : State α ε) (id : Nat) (startedAt deadline : ℚ)
    (balanced : Balanced (accounts s) (some id)) :
    Balanced (accounts (vacate s id startedAt deadline)) none := by
  rw [accounts_vacate]
  exact balanced_vacate _ id balanced

theorem lock_section_finish (s : State α ε) (id : Nat) (startedAt deadline now : ℚ)
    (balanced : Balanced (accounts s) (some id)) :
    LockSection (accounts s) (accounts (finishRunJob s id startedAt deadline now)) := by
  have vacated := balanced_finish s id startedAt deadline balanced
  have left : Accounts.Steps (accounts s) (accounts (vacate s id startedAt deadline)) := by
    rw [accounts_vacate]
    exact .single (.vacate _ id ((balanced.running id).mpr rfl))
  have dispatched := dispatch_steps (vacate s id startedAt deadline) none now vacated
  have settled := dispatch_settled (vacate s id startedAt deadline) none now vacated
  rw [finish_run_job_eq, accounts_set_idle_if_drained]
  exact ⟨(left.trans dispatched).tail (.settleIdle _), settled.waits, settle_idle_complete _⟩

theorem views_finish (s : State α ε) (id other : Nat) (startedAt deadline now : ℚ)
    (balanced : Balanced (accounts s) (some id)) :
    ViewSteps now
      (if other = id then (view s other).releaseSlot startedAt deadline else view s other)
      (view (finishRunJob s id startedAt deadline now) other) := by
  rw [finish_run_job_eq, view_set_idle_if_drained, ← view_vacate]
  exact dispatch_views _ none now (balanced_finish s id startedAt deadline balanced) other

theorem lifecycle_running (s : State α ε) (slot : Option Nat) (balanced : Balanced (accounts s) slot)
    (id : Nat) (alive : (s.lifecycles id).alive = true) : Balanced (accounts s) (some id) :=
  slot_of_running _ slot balanced id ((balanced.alive id).mp alive)

theorem lifecycle_ready_alive (operation : Operation α ε) (now : ℚ) (lifecycle : Lifecycle)
    (ready : lifecycleReady operation now lifecycle = true) : lifecycle.alive = true := by
  cases lifecycle <;> simp_all [lifecycleReady, Lifecycle.alive]

theorem accounts_give_up (s : State α ε) (id : Nat) (startedAt deadline now : ℚ)
    (alive : (s.lifecycles id).alive = true) : accounts (giveUp s id startedAt deadline now) = accounts s := by
  have told : accounts (reportTimeout s id) = accounts s := accounts_set_futures s id _ rfl rfl
  have noted := accounts_set_ledger (reportTimeout s id) id { s.ledger id with gaveUpAt := some now } rfl
  rw [← told, ← noted]
  exact accounts_set_lifecycle _ id _ (by rw [Lifecycle.alive]; exact alive.symm)

theorem wake_run_cases (s : State α ε) (id : Nat) (now : ℚ) (alive : (s.lifecycles id).alive = true) :
    accounts (wakeRunJob s id now) = accounts s ∨
      ∃ (job : Job α ε) (startedAt deadline : ℚ), job.state = (s.jobs id).state ∧
        job.priority = (s.jobs id).priority ∧ job.queueDeadline = (s.jobs id).queueDeadline ∧
        wakeRunJob s id now = finishRunJob (s.setJob id job) id startedAt deadline now := by
  unfold wakeRunJob
  cases lifecycleEq : s.lifecycles id with
  | none => exact .inl rfl
  | created => exact .inl rfl
  | ended startedAt deadline => exact .inl rfl
  | cancelledBeforeStart => exact .inl rfl
  | waiting startedAt deadline =>
      have overrun := accounts_give_up s id startedAt deadline now alive
      cases s.operations id with
      | notCreated => exact .inl overrun
      | created => exact .inl overrun
      | running => exact .inl overrun
      | done ending completedAt =>
          dsimp only
          split
          · exact .inr ⟨(settleResult s id ending).jobs id, startedAt, deadline, by simp [settleResult, State.setJob]⟩
          · exact .inr ⟨(reportTimeout s id).jobs id, startedAt, deadline, by simp [reportTimeout, State.setJob]⟩
  | draining startedAt deadline =>
      cases s.operations id with
      | notCreated => exact .inl rfl
      | created => exact .inl rfl
      | running => exact .inl rfl
      | done ending completedAt =>
          have same : s.setJob id (s.jobs id) = s := by simp [State.setJob]
          exact .inr ⟨s.jobs id, startedAt, deadline, rfl, rfl, rfl, by rw [same]⟩

theorem lock_section_wake_run (s : State α ε) (balanced : ∃ slot, Balanced (accounts s) slot)
    (settled : Settled (accounts s)) (id : Nat) (now : ℚ)
    (ready : lifecycleReady (s.operations id) now (s.lifecycles id) = true) :
    LockSection (accounts s) (accounts (wakeRunJob s id now)) := by
  have alive := lifecycle_ready_alive _ now _ ready
  obtain ⟨slot, balanced⟩ := balanced
  have held := lifecycle_running s slot balanced id alive
  rcases wake_run_cases s id now alive with same | ⟨job, startedAt, deadline, state, priority, _, finished⟩
  · rw [same]
    exact lock_section_refl _ settled
  · rw [finished, ← accounts_set_futures s id job state priority]
    refine lock_section_finish (s.setJob id job) id startedAt deadline now ?_
    rwa [accounts_set_futures s id job state priority]

-- The woken task moves its own call first; what follows is the dispatch at the
-- end of the release block.
theorem views_after_wake (s : State α ε) (balanced : ∃ slot, Balanced (accounts s) slot) (id other : Nat)
    (now : ℚ) (ready : lifecycleReady (s.operations id) now (s.lifecycles id) = true) :
    ViewSteps now (if other = id then (view s other).wakeRunJob now else view s other)
      (view (wakeRunJob s id now) other) := by
  have alive := lifecycle_ready_alive _ now _ ready
  obtain ⟨slot, balanced⟩ := balanced
  have held := lifecycle_running s slot balanced id alive
  have finished : ∀ job : Job α ε, job.state = (s.jobs id).state → job.priority = (s.jobs id).priority →
      ∀ startedAt deadline,
        (view s id).wakeRunJob now = (View.releaseSlot { view s id with job := job } startedAt deadline) →
        ViewSteps now (if other = id then (view s other).wakeRunJob now else view s other)
          (view (finishRunJob (s.setJob id job) id startedAt deadline now) other) := by
    intro job state priority startedAt deadline same
    have stillHeld : Balanced (accounts (s.setJob id job)) (some id) := by
      rwa [accounts_set_futures s id job state priority]
    have later := views_finish (s.setJob id job) id other startedAt deadline now stillHeld
    by_cases hit : other = id
    · subst hit
      rw [if_pos rfl, view_set_job, if_pos rfl, ← same] at later
      rwa [if_pos rfl]
    · rw [if_neg hit, view_set_job, if_neg hit] at later
      rwa [if_neg hit]
  have overrun : ∀ startedAt deadline,
      (view s id).wakeRunJob now = (view s id).giveUp startedAt deadline now →
      ViewSteps now (if other = id then (view s other).wakeRunJob now else view s other)
        (view (giveUp s id startedAt deadline now) other) := by
    intro startedAt deadline same
    by_cases hit : other = id
    · subst hit
      have seen : view (giveUp s other startedAt deadline now) other =
          (view s other).giveUp startedAt deadline now := by
        simp [giveUp, reportTimeout, View.giveUp, View.reportTimeout, State.setJob, State.setLedger,
          State.setLifecycle, view]
      rw [if_pos rfl, seen, ← same]
      exact .refl
    · have seen : view (giveUp s id startedAt deadline now) other = view s other := by
        simp [giveUp, reportTimeout, State.setJob, State.setLedger, State.setLifecycle, view, hit]
      rw [if_neg hit, seen]
      exact .refl
  cases lifecycleEq : s.lifecycles id with
  | none => simp [lifecycleEq, Lifecycle.alive] at alive
  | created => simp [lifecycleEq, lifecycleReady] at ready
  | ended startedAt deadline => simp [lifecycleEq, Lifecycle.alive] at alive
  | cancelledBeforeStart => simp [lifecycleEq, Lifecycle.alive] at alive
  | waiting startedAt deadline =>
      have pending : (s.operations id).isDone = false → _ := fun undone =>
        overrun startedAt deadline (wake_overrun (view s id) startedAt deadline now lifecycleEq undone)
      unfold wakeRunJob
      rw [lifecycleEq]
      cases operationEq : s.operations id with
      | notCreated => exact pending (by rw [operationEq]; rfl)
      | created => exact pending (by rw [operationEq]; rfl)
      | running => exact pending (by rw [operationEq]; rfl)
      | done ending completedAt =>
          by_cases early : completedAt ≤ deadline
          · simp only [if_pos early]
            exact finished
              { s.jobs id with result := (s.jobs id).result.setIfPending (settledFuture ending) } rfl rfl
              startedAt deadline (wake_in_budget (view s id) startedAt deadline completedAt now ending
                lifecycleEq operationEq early)
          · simp only [if_neg early]
            exact finished
              { s.jobs id with
                result := (s.jobs id).result.setIfPending (.exception (.upstreamTimeout executionTimedOut)) }
              rfl rfl startedAt deadline (wake_late (view s id) startedAt deadline completedAt now ending
                lifecycleEq operationEq early)
  | draining startedAt deadline =>
      have undone : (s.operations id).isDone = true := by simpa [lifecycleEq, lifecycleReady] using ready
      unfold wakeRunJob
      rw [lifecycleEq]
      cases operationEq : s.operations id with
      | notCreated => simp [operationEq, Operation.isDone] at undone
      | created => simp [operationEq, Operation.isDone] at undone
      | running => simp [operationEq, Operation.isDone] at undone
      | done ending completedAt =>
          have later := views_finish s id other startedAt deadline now held
          by_cases hit : other = id
          · subst hit
            rw [if_pos rfl, ← wake_drained (view s other) startedAt deadline completedAt now ending
              lifecycleEq operationEq] at later
            rwa [if_pos rfl]
          · rw [if_neg hit] at later
            rwa [if_neg hit]

theorem views_wake_run (s : State α ε) (balanced : ∃ slot, Balanced (accounts s) slot) (id other : Nat) (now : ℚ)
    (ready : lifecycleReady (s.operations id) now (s.lifecycles id) = true) :
    ViewSteps now (view s other) (view (wakeRunJob s id now) other) := by
  have later := views_after_wake s balanced id other now ready
  by_cases hit : other = id
  · subst hit
    rw [if_pos rfl] at later
    exact Relation.ReflTransGen.head (.wakeRun (view s other) ready) later
  · rwa [if_neg hit] at later

end SchwabGateway.Scheduler
