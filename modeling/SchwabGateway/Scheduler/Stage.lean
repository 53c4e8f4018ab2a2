import SchwabGateway.Scheduler.Dispatch

set_option autoImplicit false

namespace SchwabGateway.Scheduler

variable {α ε : Type}

def Operation.invocations : Operation α ε → Nat
  | .running => 1
  | .done _ _ => 1
  | _ => 0

def Operation.Live (clock : ℚ) : Operation α ε → Prop
  | .notCreated => False
  | .created => True
  | .running => True
  | .done _ completedAt => completedAt ≤ clock

-- How _run_job settles the result of an operation that ended at completedAt.
-- gaveUpAt is the reading at which it stopped waiting for it.
inductive Verdict (result : Future α ε) (ending : Ending α ε) (completedAt deadline : ℚ) :
    Option ℚ → Prop where
  | inBudget (early : completedAt ≤ deadline) (settled : result = settledFuture ending) :
      Verdict result ending completedAt deadline none
  | late (late : deadline < completedAt)
      (settled : result = .exception (.upstreamTimeout executionTimedOut)) :
      Verdict result ending completedAt deadline none
  | gaveUp (gaveUpAt : ℚ) (overdue : deadline ≤ gaveUpAt) (before : gaveUpAt ≤ completedAt)
      (settled : result = .exception (.upstreamTimeout executionTimedOut)) :
      Verdict result ending completedAt deadline (some gaveUpAt)

-- The life of one job. Every field of the job that _run_job, the dispatcher or
-- an expiry writes is determined by the stage, and so is the whole ledger.
inductive JobStage (clock : ℚ) (job : Job α ε) : Lifecycle → Operation α ε → Ledger → Prop where
  | absent (same : job = .absent) : JobStage clock job .none .notCreated {}
  | queued (admittedAt : ℚ) (state : job.state = .queued) (started : job.started = .pending)
      (result : job.result = .pending) (timely : job.queueTimedOut = false) :
      JobStage clock job .none .notCreated { admittedAt := some admittedAt }
  | created (admittedAt dispatchedAt : ℚ) (state : job.state = .running)
      (started : job.started = .result ()) (result : job.result = .pending)
      (timely : job.queueTimedOut = false) (live : dispatchedAt < job.queueDeadline)
      (past : dispatchedAt ≤ clock) :
      JobStage clock job .created .notCreated
        { admittedAt := some admittedAt, dispatchedAt := some dispatchedAt }
  | waiting (admittedAt dispatchedAt startedAt : ℚ) (operation : Operation α ε)
      (state : job.state = .running) (started : job.started = .result ())
      (result : job.result = .pending) (timely : job.queueTimedOut = false)
      (live : dispatchedAt < job.queueDeadline) (past : dispatchedAt ≤ startedAt)
      (known : operation.Live clock) :
      JobStage clock job (.waiting startedAt (executionDeadline job startedAt)) operation
        { admittedAt := some admittedAt, dispatchedAt := some dispatchedAt,
          invocations := operation.invocations }
  | draining (admittedAt dispatchedAt startedAt gaveUpAt : ℚ) (operation : Operation α ε)
      (state : job.state = .running) (started : job.started = .result ())
      (result : job.result = .exception (.upstreamTimeout executionTimedOut))
      (timely : job.queueTimedOut = false) (live : dispatchedAt < job.queueDeadline)
      (past : dispatchedAt ≤ startedAt) (known : operation.Live clock)
      (overdue : executionDeadline job startedAt ≤ gaveUpAt) (told : gaveUpAt ≤ clock)
      (after : ∀ ending completedAt, operation = .done ending completedAt → gaveUpAt ≤ completedAt) :
      JobStage clock job (.draining startedAt (executionDeadline job startedAt)) operation
        { admittedAt := some admittedAt, dispatchedAt := some dispatchedAt,
          invocations := operation.invocations, gaveUpAt := some gaveUpAt }
  | ran (admittedAt dispatchedAt startedAt completedAt : ℚ) (gaveUpAt : Option ℚ) (ending : Ending α ε)
      (state : job.state = .finished) (started : job.started = .result ())
      (timely : job.queueTimedOut = false) (live : dispatchedAt < job.queueDeadline)
      (past : dispatchedAt ≤ startedAt) (known : completedAt ≤ clock)
      (verdict : Verdict job.result ending completedAt (executionDeadline job startedAt) gaveUpAt) :
      JobStage clock job (.ended startedAt (executionDeadline job startedAt)) (.done ending completedAt)
        { admittedAt := some admittedAt, dispatchedAt := some dispatchedAt, invocations := 1,
          gaveUpAt := gaveUpAt, allocationReleases := 1, slotReleases := 1 }
  | expired (admittedAt expiredAt : ℚ) (state : job.state = .finished)
      (started : job.started = .exception (.queueTimeout queueWaitTimedOut))
      (result : job.result = .cancelled) (overdue : job.queueTimedOut = true)
      (late : job.queueDeadline ≤ expiredAt) (past : expiredAt ≤ clock) :
      JobStage clock job .none .notCreated
        { admittedAt := some admittedAt, expiredAt := some expiredAt, allocationReleases := 1 }
  | removed (admittedAt : ℚ) (byShutdown : Bool) (state : job.state = .finished)
      (started : job.started = .cancelled) (result : job.result = .cancelled)
      (timely : job.queueTimedOut = false) :
      JobStage clock job .none .notCreated
        { admittedAt := some admittedAt, removed := true, removedByShutdown := byShutdown,
          allocationReleases := 1 }

theorem operation_live_mono (clock now : ℚ) (later : clock ≤ now) (operation : Operation α ε)
    (known : operation.Live clock) : operation.Live now := by
  cases operation with
  | notCreated => exact known
  | created => trivial
  | running => trivial
  | done ending completedAt => exact le_trans known later

theorem job_stage_mono (clock now : ℚ) (later : clock ≤ now) (job : Job α ε) (lifecycle : Lifecycle)
    (operation : Operation α ε) (ledger : Ledger) (stage : JobStage clock job lifecycle operation ledger) :
    JobStage now job lifecycle operation ledger := by
  cases stage with
  | absent same => exact .absent same
  | queued admittedAt state started result timely => exact .queued admittedAt state started result timely
  | created admittedAt dispatchedAt state started result timely live past =>
      exact .created admittedAt dispatchedAt state started result timely live (le_trans past later)
  | waiting admittedAt dispatchedAt startedAt _ state started result timely live past known =>
      exact .waiting admittedAt dispatchedAt startedAt operation state started result timely live past
        (operation_live_mono clock now later operation known)
  | draining admittedAt dispatchedAt startedAt gaveUpAt _ state started result timely live past known
      overdue told after =>
      exact .draining admittedAt dispatchedAt startedAt gaveUpAt operation state started result timely
        live past (operation_live_mono clock now later operation known) overdue (le_trans told later) after
  | ran admittedAt dispatchedAt startedAt completedAt gaveUpAt ending state started timely live past
      known verdict =>
      exact .ran admittedAt dispatchedAt startedAt completedAt gaveUpAt ending state started timely live
        past (le_trans known later) verdict
  | expired admittedAt expiredAt state started result overdue late past =>
      exact .expired admittedAt expiredAt state started result overdue late (le_trans past later)
  | removed admittedAt byShutdown state started result timely =>
      exact .removed admittedAt byShutdown state started result timely

-- What a caller is owed by the futures of its job. A future that is done
-- never changes, so this keeps holding after the caller has ended.
def Justified (job : Job α ε) (ledger : Ledger) (cancelRequested : Bool) : Outcome α ε → Prop
  | .returned value => job.result = .result value
  | .raised (.operation error) => job.result = .exception (.operation error)
  | .raised (.upstreamTimeout message) => job.result = .exception (.upstreamTimeout message)
  | .raised (.queueTimeout message) => message = queueWaitTimedOut ∧ job.queueTimedOut = true
  | .raised (.capacity _) => ledger.admittedAt = none
  | .raised (.valueError _) => ledger.admittedAt = none
  | .raised .cancelled =>
      cancelRequested = true ∨ ledger.removedByShutdown = true ∨
        (job.result = .cancelled ∧ ledger.slotReleases = 1)

def CallerStage (clock : ℚ) (job : Job α ε) (ledger : Ledger) (cancelRequested : Bool) :
    Caller α ε → Prop
  | .absent => ledger.admittedAt = none
  | .waitingStarted timerFired cancelled =>
      cancelled = cancelRequested ∧ ledger.admittedAt ≠ none ∧
        (timerFired = true → job.queueDeadline ≤ clock) ∧
        (ledger.removed = true → ledger.removedByShutdown = true)
  | .waitingResult cancelled =>
      cancelled = cancelRequested ∧ ledger.admittedAt ≠ none ∧ job.state ≠ .queued ∧
        job.queueTimedOut = false ∧ (ledger.removed = true → ledger.removedByShutdown = true)
  | .ended outcome => Justified job ledger cancelRequested outcome

structure Consistent (clock : ℚ) (v : View α ε) : Prop where
  stage : JobStage clock v.job v.lifecycle v.operation v.ledger
  caller : CallerStage clock v.job v.ledger v.cancelRequested v.caller

end SchwabGateway.Scheduler
