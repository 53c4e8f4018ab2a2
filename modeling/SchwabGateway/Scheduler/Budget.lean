import SchwabGateway.Scheduler.Outcomes

set_option autoImplicit false

namespace SchwabGateway.Scheduler

open SchwabGateway.Library SchwabGateway.Python

variable {α ε : Type}

theorem validate_deadline (args : Arguments) (request : Request) (deadline : ℚ)
    (given : args.requestDeadline = some (.finite deadline)) (valid : validate args = .ok request) :
    request.requestDeadline = some deadline := by
  simp only [validate, given, finiteDeadline] at valid
  split at valid
  · cases valid
  · cases queue : finitePositive args.queueTimeoutSeconds "queue timeout" with
    | error message => rw [queue] at valid; cases valid
    | ok queueTimeout =>
        rw [queue] at valid
        cases execution : finitePositive args.executionTimeoutSeconds "execution timeout" with
        | error message => rw [execution] at valid; cases valid
        | ok executionTimeout =>
            rw [execution] at valid
            cases valid
            rfl

def BoundTo (deadline : ℚ) (v : View α ε) : Prop :=
  v.ledger.admittedAt = none ∨
    v.job.requestDeadline = some deadline ∧ v.job.queueDeadline ≤ deadline

theorem bound_keeps (deadline : ℚ) (v w : View α ε) (keeps : Keeps v w) (bound : BoundTo deadline v) :
    BoundTo deadline w := by
  cases bound with
  | inl refused => exact .inl (keeps.admittedAt.trans refused)
  | inr bound =>
      refine .inr ⟨keeps.requestDeadline.trans bound.1, ?_⟩
      rw [keeps.queueDeadline]
      exact bound.2

theorem execute_bound (s : State α ε) (invariant : Invariant s) (args : Arguments)
    (enqueuedAt now deadline : ℚ) (given : args.requestDeadline = some (.finite deadline)) :
    BoundTo deadline (view ((scheduler α ε).perform s (.execute args enqueuedAt now)) s.next) := by
  have performed : (scheduler α ε).perform s (.execute args enqueuedAt now) =
      execute (s.at now) args enqueuedAt now := rfl
  have fresh : s.ledger s.next = {} := congrArg View.ledger (invariant.fresh s.next (Nat.le_refl _))
  rw [performed]
  cases valid : validate args with
  | error message => exact .inl (by simp [execute, valid, endCall, State.setCaller, State.at, view, fresh])
  | ok request =>
      by_cases accepting : s.accepting = true
      · by_cases room : s.allocated request.priority < s.limits request.priority
        · rw [execute_room (s.at now) args request enqueuedAt now valid accepting room]
          have own := (admission_spec (s.at now) (balanced_at s now invariant.balanced)
            (invariant.fresh s.next (Nat.le_refl _)) request enqueuedAt accepting room _ rfl).2.2.1
          have kept := keeps_steps _ _ _ own (consistent_enqueue now request enqueuedAt)
          have asked := validate_deadline args request deadline given valid
          apply bound_keeps deadline _ _ kept
          refine .inr ⟨asked, ?_⟩
          simp only [View.enqueue, newJob, asked]
          exact min_le_right _ _
        · have full : (s.limits request.priority : Int) ≤ s.allocated request.priority := by omega
          exact .inl (by
            simp [execute, valid, endCall, State.setCaller, State.at, accepting, full, view, fresh])
      · exact .inl (by simp [execute, valid, endCall, State.setCaller, State.at, accepting, view, fresh])

theorem stage_dispatched_live (clock : ℚ) (job : Job α ε) (lifecycle : Lifecycle)
    (operation : Operation α ε) (ledger : Ledger) (dispatchedAt : ℚ)
    (stage : JobStage clock job lifecycle operation ledger)
    (dispatched : ledger.dispatchedAt = some dispatchedAt) : dispatchedAt < job.queueDeadline := by
  cases stage with
  | absent same => cases dispatched
  | queued admittedAt state started result timely => cases dispatched
  | created admittedAt at_ state started result timely live past => cases dispatched; exact live
  | waiting admittedAt at_ startedAt _ state started result timely live past known =>
      cases dispatched
      exact live
  | draining admittedAt at_ startedAt gaveUpAt _ state started result timely live past known overdue
      told after =>
      cases dispatched
      exact live
  | ran admittedAt at_ startedAt completedAt gaveUpAt ending state started timely live past known
      verdict =>
      cases dispatched
      exact live
  | expired admittedAt expiredAt state started result overdue late past => cases dispatched
  | removed admittedAt byShutdown state started result timely => cases dispatched

theorem bound_dispatched (clock deadline dispatchedAt : ℚ) (v : View α ε) (consistent : Consistent clock v)
    (bound : BoundTo deadline v) (dispatched : v.ledger.dispatchedAt = some dispatchedAt) :
    dispatchedAt < deadline := by
  have live := stage_dispatched_live clock _ _ _ _ dispatchedAt consistent.stage dispatched
  cases bound with
  | inl refused =>
      have admitted := dispatched_admitted clock v consistent.stage
      exact absurd refused (admitted (by simp [dispatched]))
  | inr bound => exact lt_of_lt_of_le live bound.2

theorem bound_returned (clock deadline : ℚ) (v : View α ε) (value : α) (consistent : Consistent clock v)
    (bound : BoundTo deadline v) (returned : v.caller = .ended (.returned value)) :
    ∃ completedAt, v.operation = .done (.value value) completedAt ∧ completedAt ≤ deadline := by
  have owed := consistent_owed clock v consistent (.returned value) returned
  obtain ⟨dispatched, _, startedAt, completedAt, _, done, early⟩ := owed
  refine ⟨completedAt, done, le_trans early ?_⟩
  cases bound with
  | inl refused => exact absurd refused (dispatched_admitted clock v consistent.stage dispatched)
  | inr bound =>
      simp only [executionDeadline, bound.1]
      exact min_le_right _ _

theorem operation_error_released (clock : ℚ) (v : View α ε) (error : ε) (consistent : Consistent clock v)
    (ended : v.caller = .ended (.raised (.operation error))) :
    v.job.state = .finished ∧ v.ledger.allocationReleases = 1 ∧ v.ledger.slotReleases = 1 := by
  have caller := consistent.caller
  rw [ended] at caller
  obtain ⟨finished, _, _, allocation, slot⟩ := stage_operation_error clock _ _ _ _ error consistent.stage caller
  exact ⟨finished, allocation, slot⟩

end SchwabGateway.Scheduler
