import SchwabGateway.Scheduler.Outcomes

set_option autoImplicit false

namespace SchwabGateway.Scheduler

open SchwabGateway.Library

variable {α ε : Type}

structure SameTasks (s t : State α ε) : Prop where
  operations : t.operations = s.operations
  lifecycles : t.lifecycles = s.lifecycles
  workerActive : t.workerActive = s.workerActive

theorem same_tasks_refl (s : State α ε) : SameTasks s s := ⟨rfl, rfl, rfl⟩

theorem same_tasks_trans (s t u : State α ε) (first : SameTasks s t) (second : SameTasks t u) :
    SameTasks s u :=
  ⟨second.operations.trans first.operations, second.lifecycles.trans first.lifecycles,
    second.workerActive.trans first.workerActive⟩

theorem expire_tasks (s : State α ε) (id : Nat) (now : ℚ) : SameTasks s (expireQueuedLocked s id now) :=
  ⟨rfl, rfl, rfl⟩

theorem cancelled_tasks (s : State α ε) (id : Nat) : SameTasks s (callerCancelled s id) := by
  unfold callerCancelled
  split <;> exact ⟨rfl, rfl, rfl⟩

theorem await_tasks (s : State α ε) (id : Nat) : SameTasks s (awaitResult s id) := by
  unfold awaitResult
  split
  · exact ⟨rfl, rfl, rfl⟩
  · exact ⟨rfl, rfl, rfl⟩
  · exact ⟨rfl, rfl, rfl⟩
  · exact cancelled_tasks s id

theorem queue_timer_tasks (s : State α ε) (id : Nat) (now : ℚ) : SameTasks s (queueTimerExpired s id now) := by
  unfold queueTimerExpired
  dsimp only
  split
  · have expired := expire_tasks s id now
    split
    · exact ⟨rfl, rfl, rfl⟩
    · exact same_tasks_trans s _ _ expired (await_tasks _ id)
  · split
    · exact ⟨rfl, rfl, rfl⟩
    · exact await_tasks s id

theorem resume_tasks (s : State α ε) (id : Nat) (now : ℚ) : SameTasks s (resumeCaller s id now) := by
  unfold resumeCaller
  split
  · split
    · exact cancelled_tasks s id
    · split
      · exact queue_timer_tasks s id now
      · split
        · exact same_tasks_refl s
        · exact await_tasks s id
        · exact ⟨rfl, rfl, rfl⟩
        · exact cancelled_tasks s id
  · split
    · exact cancelled_tasks s id
    · exact await_tasks s id
  · exact same_tasks_refl s

theorem shutdown_tasks (s : State α ε) : SameTasks s (shutdown s) := by
  have removed : ∀ (ids : List Nat) (u : State α ε), SameTasks u (ids.foldl removeForShutdown u) := by
    intro ids
    induction ids with
    | nil => exact fun u => same_tasks_refl u
    | cons id rest ih =>
        intro u
        exact same_tasks_trans u (removeForShutdown u id) _ ⟨rfl, rfl, rfl⟩ (ih _)
  have gone := removed (s.queues .protected ++ s.queues .background) { s with accepting := false }
  exact ⟨gone.operations, gone.lifecycles, gone.workerActive⟩

theorem dispatch_operations (s : State α ε) (now : ℚ) : (dispatchLocked s now).operations = s.operations := by
  have loop : ∀ turns (u : State α ε), (dispatchLoop now turns u).operations = u.operations := by
    intro turns
    induction turns with
    | zero => exact fun u => rfl
    | succ turns ih =>
        intro u
        simp only [dispatchLoop]
        split
        · rfl
        · split
          · rfl
          · exact (ih _).trans (expire_tasks u _ now).operations
  unfold dispatchLocked
  split
  · rfl
  · exact loop _ s

theorem execute_operations (s : State α ε) (args : Arguments) (enqueuedAt now : ℚ) :
    (execute s args enqueuedAt now).operations = s.operations := by
  unfold execute
  dsimp only
  split
  · rfl
  · split
    · rfl
    · split
      · rfl
      · rw [(resume_tasks _ _ _).operations, dispatch_operations]
        rfl

theorem finish_operations (s : State α ε) (id : Nat) (startedAt deadline now : ℚ) :
    (finishRunJob s id startedAt deadline now).operations = s.operations := by
  unfold finishRunJob
  dsimp only
  exact dispatch_operations _ now

theorem wake_operations (s : State α ε) (id : Nat) (now : ℚ) :
    (wakeRunJob s id now).operations = s.operations := by
  unfold wakeRunJob
  split
  · split
    · exact finish_operations _ id _ _ now
    · exact finish_operations _ id _ _ now
  · rfl
  · exact finish_operations s id _ _ now
  · rfl

def Event.touchesOperation : Event α ε → Bool
  | .startOperation _ _ => true
  | .completeOperation _ _ _ => true
  | _ => false

theorem operations_frame (s : State α ε) (event : Event α ε) (apart : event.touchesOperation = false)
    (id : Nat) :
    ((scheduler α ε).perform s event).operations id = s.operations id ∨
      ((scheduler α ε).perform s event).operations id = .created := by
  cases event with
  | execute args enqueuedAt now => exact .inl (congrFun (execute_operations _ args enqueuedAt now) id)
  | timerFires other now => exact .inl rfl
  | cancelCaller other now => exact .inl rfl
  | resumeCaller other now => exact .inl (congrFun (resume_tasks _ other now).operations id)
  | startLifecycle other startedAt now =>
      have launched : ((scheduler α ε).perform s (.startLifecycle other startedAt now)).operations =
          Function.update s.operations other .created := by
        simp only [scheduler, effect, startRunJob]
        split <;> rfl
      rw [launched]
      by_cases same : id = other
      · rw [same, Function.update_self]
        exact .inr rfl
      · rw [Function.update_of_ne same]
        exact .inl rfl
  | wakeLifecycle other now => exact .inl (congrFun (wake_operations _ other now) id)
  | cancelLifecycle other now => exact .inl rfl
  | startOperation other now => cases apart
  | completeOperation other ending now => cases apart
  | shutdown now => exact .inl (congrFun (shutdown_tasks _).operations id)
  | startWaiter k now => exact .inl rfl
  | wakeWaiter k now => exact .inl rfl
  | returnShutdown k now => exact .inl rfl
  | cancelShutdown k now => exact .inl rfl
  | tick now => exact .inl rfl

theorem execute_not_ran (s : State α ε) (invariant : Invariant s) (args : Arguments) (enqueuedAt now : ℚ)
    (guarded : (scheduler α ε).enabled s (.execute args enqueuedAt now)) (error : ε) :
    ((scheduler α ε).perform s (.execute args enqueuedAt now)).callers s.next ≠
      .ended (.raised (.operation error)) := by
  intro ended
  have after := invariant_step s (.execute args enqueuedAt now) rfl invariant guarded
  have owed := consistent_owed _ _ (after.consistent s.next) _ ended
  obtain ⟨_, _, _, completedAt, _, done, _⟩ := owed
  have kept := congrFun (execute_operations (s.at now) args enqueuedAt now) s.next
  have fresh := congrArg View.operation (invariant.fresh s.next (Nat.le_refl _))
  cases done.symm.trans (kept.trans fresh)

def Caller.cancelPending : Caller α ε → Bool
  | .waitingStarted _ cancelRequested => cancelRequested
  | .waitingResult cancelRequested => cancelRequested
  | _ => false

theorem stage_started_error (clock : ℚ) (job : Job α ε) (lifecycle : Lifecycle)
    (operation : Operation α ε) (ledger : Ledger) (error : ε)
    (stage : JobStage clock job lifecycle operation ledger) :
    job.started ≠ .exception (.operation error) := by
  cases stage with
  | absent same => simp [same, Job.absent]
  | queued admittedAt state started result timely => simp [started]
  | created admittedAt dispatchedAt state started result timely live past => simp [started]
  | waiting admittedAt dispatchedAt startedAt _ state started result timely live past known =>
      simp [started]
  | draining admittedAt dispatchedAt startedAt gaveUpAt _ state started result timely live past known
      overdue told after =>
      simp [started]
  | ran admittedAt dispatchedAt startedAt completedAt gaveUpAt ending state started timely live past
      known verdict =>
      simp [started]
  | expired admittedAt expiredAt state started result overdue late past => simp [started]
  | removed admittedAt byShutdown state started result timely => simp [started]

theorem cancelled_outcome (v : View α ε) (outcome : Outcome α ε)
    (ended : v.callerCancelled.caller = .ended outcome) : outcome = .raised .cancelled := by
  unfold View.callerCancelled at ended
  split at ended <;> cases ended <;> rfl

theorem await_error (v : View α ε) (error : ε) :
    v.awaitResult.caller = .ended (.raised (.operation error)) ↔
      v.job.result = .exception (.operation error) := by
  unfold View.awaitResult
  split
  · rename_i pending
    simp [pending]
  · rename_i value result
    simp [result, View.finish]
  · rename_i other result
    simp [result, View.finish]
  · rename_i cancelled
    refine ⟨fun ended => ?_, fun result => by simp [cancelled] at result⟩
    cases cancelled_outcome v _ ended

theorem resume_error (clock now : ℚ) (v : View α ε) (error : ε) (consistent : Consistent clock v)
    (waiting : v.caller.waiting = true) :
    (v.resume now).caller = .ended (.raised (.operation error)) ↔
      v.job.result = .exception (.operation error) ∧ v.caller.cancelPending = false := by
  unfold View.resume
  cases caller : v.caller with
  | absent => simp [caller, Caller.waiting] at waiting
  | ended outcome => simp [caller, Caller.waiting] at waiting
  | waitingResult cancelRequested =>
      cases cancelRequested with
      | true =>
          refine ⟨fun ended => ?_, fun free => by cases free.2⟩
          cases cancelled_outcome v _ ended
      | false => simpa [Caller.cancelPending] using await_error v error
  | waitingStarted timerFired cancelRequested =>
      cases cancelRequested with
      | true =>
          refine ⟨fun ended => ?_, fun free => by cases free.2⟩
          cases cancelled_outcome v _ ended
      | false =>
          have known := stage_operation_error clock _ _ _ _ error consistent.stage
          cases timerFired with
          | true =>
              simp only [Bool.false_eq_true, if_false, if_true, Caller.cancelPending, and_true,
                View.queueTimerExpired]
              by_cases queued : v.job.state = .queued
              · rw [if_pos queued]
                refine ⟨fun ended => by simp [View.expire, View.finish] at ended, fun result => ?_⟩
                cases queued.symm.trans (known result).1
              · rw [if_neg queued]
                by_cases late : v.job.queueTimedOut = true
                · rw [if_pos late]
                  refine ⟨fun ended => by simp [View.finish] at ended, fun result => ?_⟩
                  cases late.symm.trans (known result).2.2.1
                · rw [if_neg late]
                  exact await_error v error
          | false =>
              simp only [Bool.false_eq_true, if_false, Caller.cancelPending, and_true]
              cases started : v.job.started with
              | pending =>
                  refine ⟨fun ended => by simp [caller] at ended, fun result => ?_⟩
                  cases started.symm.trans (known result).2.1
              | result value => exact await_error v error
              | exception other =>
                  refine ⟨fun ended => ?_, fun result => ?_⟩
                  · have same : other = .operation error := by simpa [View.finish] using ended
                    rw [same] at started
                    exact absurd started (stage_started_error clock _ _ _ _ error consistent.stage)
                  · cases started.symm.trans (known result).2.1
              | cancelled =>
                  refine ⟨fun ended => ?_, fun result => ?_⟩
                  · cases cancelled_outcome v _ ended
                  · cases started.symm.trans (known result).2.1

end SchwabGateway.Scheduler
