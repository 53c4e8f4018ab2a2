import SchwabGateway.Reads.Cooldown
import SchwabGateway.Scheduler.Budget

set_option autoImplicit false

namespace SchwabGateway.Reads

open SchwabGateway.Library

variable {V : Type}

-- Why a read may have a second attempt: the first one ended with a connect
-- timeout, and enough of the deadline was left when that was observed.
def RetryJustified (scheduler : Scheduler.State V Failure) (read : Read V) : Prop :=
  ∃ job retry, read.first = some job ∧ read.retry = some retry ∧
    scheduler.callers job = .ended (.raised (.operation retry.failure)) ∧
    retry.failure.head.exceptionClass = .upstreamUnavailable ∧
    (classify retry.failure retry.wall).cause = .connectTimeout ∧
    read.operationName ∈ retryableOperations ∧ retryReserve ≤ read.deadline - retry.observedAt

structure Budgeted (settings : Settings) (scheduler : Scheduler.State V Failure) (read : Read V) : Prop where
  deadline : read.stage ≠ .absent → read.deadline = read.startedAt + settings.upstreamTimeout
  known : ∀ attempt job, read.job attempt = some job → job < scheduler.next
  unused : read.stage = .absent → read.first = none ∧ read.second = none
  executing : read.stage = .executing .first → read.second = none
  backoff : ∀ wakeAt, read.stage = .backoff wakeAt → read.second = none ∧ RetryJustified scheduler read
  second : ∀ job, read.second = some job →
    RetryJustified scheduler read ∧ Scheduler.BoundTo read.deadline (Scheduler.view scheduler job)
  returned : ∀ value, read.stage = .answered (.json value) → ∃ attempt job, read.job attempt = some job ∧
    scheduler.callers job = .ended (.returned value) ∧ (attempt = .first → read.second = none)

theorem caller_kept (s t : Scheduler.State V Failure) (invariant : Scheduler.Invariant s) (runs : Runs s t)
    (job : Nat) (outcome : Scheduler.Outcome V Failure) (ended : s.callers job = .ended outcome) :
    t.callers job = .ended outcome :=
  (Scheduler.keeps_reaches s t invariant runs job
    (Scheduler.ended_known s invariant job outcome ended)).outcome outcome ended

theorem justified_runs (s t : Scheduler.State V Failure) (invariant : Scheduler.Invariant s) (runs : Runs s t)
    (read : Read V) (justified : RetryJustified s read) : RetryJustified t read := by
  obtain ⟨job, retry, first, recorded, ended, rest⟩ := justified
  exact ⟨job, retry, first, recorded, caller_kept s t invariant runs job _ ended, rest⟩

theorem budgeted_runs (settings : Settings) (s t : Scheduler.State V Failure)
    (invariant : Scheduler.Invariant s) (runs : Runs s t) (read : Read V)
    (budgeted : Budgeted settings s read) : Budgeted settings t read where
  deadline := budgeted.deadline
  known := by
    intro attempt job same
    exact lt_of_lt_of_le (budgeted.known attempt job same) (Scheduler.next_mono_reaches s t invariant runs)
  unused := budgeted.unused
  executing := budgeted.executing
  backoff := by
    intro wakeAt waiting
    obtain ⟨none, justified⟩ := budgeted.backoff wakeAt waiting
    exact ⟨none, justified_runs s t invariant runs read justified⟩
  second := by
    intro job same
    obtain ⟨justified, bound⟩ := budgeted.second job same
    have known := budgeted.known .second job same
    have kept := Scheduler.keeps_reaches s t invariant runs job known
    exact ⟨justified_runs s t invariant runs read justified,
      Scheduler.bound_keeps read.deadline _ _ kept bound⟩
  returned := by
    intro value answered
    obtain ⟨attempt, job, same, ended, last⟩ := budgeted.returned value answered
    exact ⟨attempt, job, same, caller_kept s t invariant runs job _ ended, last⟩

theorem budgeted_fresh (settings : Settings) (scheduler : Scheduler.State V Failure) (read : Read V)
    (stage : read.stage = .absent) (jobs : ∀ attempt, read.job attempt = none) :
    Budgeted settings scheduler read where
  deadline := fun present => absurd stage present
  known := fun attempt job same => by cases (jobs attempt).symm.trans same
  unused := fun _ => ⟨jobs .first, jobs .second⟩
  executing := fun executing => by cases stage.symm.trans executing
  backoff := fun _ waiting => by cases stage.symm.trans waiting
  second := fun job same => by cases (jobs .second).symm.trans same
  returned := fun _ answered => by cases stage.symm.trans answered

theorem budgeted_finish (settings : Settings) (scheduler : Scheduler.State V Failure) (read : Read V)
    (budgeted : Budgeted settings scheduler read)
    (deadline : read.deadline = read.startedAt + settings.upstreamTimeout) (stage : Stage V)
    (rejected admitted : Bool)
    (past : stage = .cancelled ∨ ∃ response, stage = .answered response ∧ ∀ value, response ≠ .json value) :
    Budgeted settings scheduler (read.finish stage rejected admitted) where
  deadline := fun _ => deadline
  known := budgeted.known
  unused := by
    intro absent
    have same : stage = .absent := absent
    rcases past with cancelled | ⟨response, answered, _⟩ <;> simp_all
  executing := by
    intro executing
    have same : stage = .executing .first := executing
    rcases past with cancelled | ⟨response, answered, _⟩ <;> simp_all
  backoff := by
    intro wakeAt waiting
    have same : stage = .backoff wakeAt := waiting
    rcases past with cancelled | ⟨response, answered, _⟩ <;> simp_all
  second := budgeted.second
  returned := by
    intro value answered
    have same : stage = .answered (.json value) := answered
    rcases past with cancelled | ⟨response, answered, other⟩ <;> simp_all

theorem budgeted_error (settings : Settings) (scheduler : Scheduler.State V Failure) (read : Read V)
    (budgeted : Budgeted settings scheduler read)
    (deadline : read.deadline = read.startedAt + settings.upstreamTimeout) (response : Response V)
    (rejected admitted : Bool) (failed : ∀ value, response ≠ .json value) :
    Budgeted settings scheduler (read.finish (.answered response) rejected admitted) :=
  budgeted_finish settings scheduler read budgeted deadline _ rejected admitted (.inr ⟨response, rfl, failed⟩)

theorem failure_response_error (cooldownUntil : ℚ) (failure : Failure) (message : String) (now wall : ℚ)
    (value : V) : (failureResponse cooldownUntil failure message now wall).2 ≠ .json value := by
  simp only [failureResponse]
  cases (classify failure wall).cause with
  | rateLimited | connectTimeout | schedulerTimeout | other =>
      intro same
      cases same

theorem awaits_attempt (settings : Settings) (scheduler : Scheduler.State V Failure) (read : Read V)
    (attempt : Attempt) (job : Nat) (budgeted : Budgeted settings scheduler read)
    (awaits : read.awaits attempt job) : read.stage ≠ .absent ∧ (attempt = .first → read.second = none) := by
  refine ⟨by simp [awaits.1], ?_⟩
  intro first
  rw [first] at awaits
  exact budgeted.executing awaits.1

theorem budgeted_unavailable (settings : Settings) (scheduler : Scheduler.State V Failure)
    (cooldownUntil : ℚ) (read : Read V) (attempt : Attempt) (job : Nat) (failure : Failure) (now wall : ℚ)
    (budgeted : Budgeted settings scheduler read) (awaits : read.awaits attempt job)
    (ended : scheduler.callers job = .ended (.raised (.operation failure)))
    (unavailable : failure.head.exceptionClass = .upstreamUnavailable) :
    Budgeted settings scheduler (settleUnavailable cooldownUntil read attempt failure now wall).read := by
  obtain ⟨present, fresh⟩ := awaits_attempt settings scheduler read attempt job budgeted awaits
  have other : ∀ response : Response V, (∀ value, response ≠ .json value) →
      Budgeted settings scheduler (read.answer response) := by
    intro response failed
    exact budgeted_error settings scheduler read budgeted (budgeted.deadline present) response false true failed
  simp only [settleUnavailable]
  cases cause : (classify failure wall).cause with
  | rateLimited => exact other _ (fun value => failure_response_error cooldownUntil failure _ now wall value)
  | schedulerTimeout => exact other _ nofun
  | other => exact other _ nofun
  | connectTimeout =>
      dsimp only
      by_cases may : mayRetry read attempt now
      · rw [if_pos may]
        obtain ⟨first, listed, reserve⟩ := may
        have none := fresh first
        rw [first] at awaits
        have justified : RetryJustified scheduler (startBackoff read failure now wall) :=
          ⟨job, ⟨now, failure, wall⟩, awaits.2, rfl, ended, unavailable, cause, listed, reserve⟩
        exact
          { deadline := fun _ => budgeted.deadline present
            known := budgeted.known
            unused := nofun
            executing := nofun
            backoff := fun _ _ => ⟨none, justified⟩
            second := fun other same => by cases none.symm.trans same
            returned := nofun }
      · rw [if_neg may]
        exact other _ nofun

theorem budgeted_settle (settings : Settings) (scheduler : Scheduler.State V Failure)
    (cooldownUntil : ℚ) (read : Read V) (attempt : Attempt) (job : Nat)
    (outcome : Scheduler.Outcome V Failure) (now wall : ℚ)
    (budgeted : Budgeted settings scheduler read) (awaits : read.awaits attempt job)
    (ended : scheduler.callers job = .ended outcome) :
    Budgeted settings scheduler (settle cooldownUntil read attempt outcome now wall).read := by
  obtain ⟨present, fresh⟩ := awaits_attempt settings scheduler read attempt job budgeted awaits
  have failed : ∀ (response : Response V) (rejected admitted : Bool), (∀ value, response ≠ .json value) →
      Budgeted settings scheduler (read.finish (.answered response) rejected admitted) :=
    budgeted_error settings scheduler read budgeted (budgeted.deadline present)
  cases outcome with
  | returned value =>
      exact
        { deadline := fun _ => budgeted.deadline present
          known := budgeted.known
          unused := fun same => by cases same
          executing := fun same => by cases same
          backoff := fun _ same => by cases same
          second := budgeted.second
          returned := fun other same => by
            cases same
            exact ⟨attempt, job, awaits.2, ended, fresh⟩ }
  | raised error =>
      cases error with
      | valueError message => exact failed _ _ _ fun _ same => by cases same
      | capacity message => exact failed _ _ _ fun _ same => by cases same
      | queueTimeout message => exact failed _ _ _ fun _ same => by cases same
      | upstreamTimeout message => exact failed _ _ _ fun _ same => by cases same
      | cancelled =>
          exact budgeted_finish settings scheduler read budgeted (budgeted.deadline present) _ _ _ (.inl rfl)
      | operation failure =>
          simp only [settle]
          cases class_ : failure.head.exceptionClass with
          | upstreamUnavailable =>
              exact budgeted_unavailable settings scheduler cooldownUntil read attempt job failure now wall
                budgeted awaits ended class_
          | upstreamMalformed => exact failed _ _ _ fun _ same => by cases same
          | valueError => exact failed _ _ _ fun _ same => by cases same
          | other => exact failed _ _ _ fun _ same => by cases same

theorem settle_jobs (cooldownUntil : ℚ) (read : Read V) (attempt : Attempt)
    (outcome : Scheduler.Outcome V Failure) (now wall : ℚ) :
    (settle cooldownUntil read attempt outcome now wall).read.first = read.first ∧
      (settle cooldownUntil read attempt outcome now wall).read.second = read.second := by
  cases outcome with
  | returned value => exact ⟨rfl, rfl⟩
  | raised error =>
      cases error with
      | valueError message => exact ⟨rfl, rfl⟩
      | capacity message => exact ⟨rfl, rfl⟩
      | queueTimeout message => exact ⟨rfl, rfl⟩
      | upstreamTimeout message => exact ⟨rfl, rfl⟩
      | cancelled => exact ⟨rfl, rfl⟩
      | operation failure =>
          simp only [settle, settleUnavailable]
          cases failure.head.exceptionClass with
          | upstreamUnavailable =>
              cases (classify failure wall).cause with
              | rateLimited => exact ⟨rfl, rfl⟩
              | connectTimeout => dsimp only; split <;> exact ⟨rfl, rfl⟩
              | schedulerTimeout => exact ⟨rfl, rfl⟩
              | other => exact ⟨rfl, rfl⟩
          | upstreamMalformed => exact ⟨rfl, rfl⟩
          | valueError => exact ⟨rfl, rfl⟩
          | other => exact ⟨rfl, rfl⟩

def proceedRead (s : State V) (id job : Nat) (attempt : Attempt) (observedAt wall : ℚ) : Read V :=
  match s.scheduler.callers job with
  | .ended outcome => (settle s.cooldownUntil (s.reads id) attempt outcome observedAt wall).read
  | _ => s.reads id

theorem proceed_frame (s : State V) (id job : Nat) (attempt : Attempt) (observedAt wall : ℚ) :
    (s.proceed id job attempt observedAt wall).reads =
        Function.update s.reads id (proceedRead s id job attempt observedAt wall) ∧
      (s.proceed id job attempt observedAt wall).owner = s.owner ∧
      (s.proceed id job attempt observedAt wall).next = s.next := by
  simp only [State.proceed, proceedRead]
  cases s.scheduler.callers job with
  | absent => exact ⟨(Function.update_eq_self id s.reads).symm, rfl, rfl⟩
  | waitingStarted timerFired cancelRequested =>
      exact ⟨(Function.update_eq_self id s.reads).symm, rfl, rfl⟩
  | waitingResult cancelRequested => exact ⟨(Function.update_eq_self id s.reads).symm, rfl, rfl⟩
  | ended outcome => exact ⟨rfl, rfl, rfl⟩

theorem proceed_read_jobs (s : State V) (id job : Nat) (attempt : Attempt) (observedAt wall : ℚ) :
    (proceedRead s id job attempt observedAt wall).first = (s.reads id).first ∧
      (proceedRead s id job attempt observedAt wall).second = (s.reads id).second := by
  unfold proceedRead
  split
  · exact settle_jobs s.cooldownUntil (s.reads id) attempt _ observedAt wall
  · exact ⟨rfl, rfl⟩

theorem budgeted_proceed (settings : Settings) (s : State V) (id job : Nat) (attempt : Attempt)
    (observedAt wall : ℚ) (budgeted : Budgeted settings s.scheduler (s.reads id))
    (awaits : (s.reads id).awaits attempt job) :
    Budgeted settings s.scheduler (proceedRead s id job attempt observedAt wall) := by
  unfold proceedRead
  split
  · rename_i outcome ended
    exact budgeted_settle settings s.scheduler s.cooldownUntil (s.reads id) attempt job outcome observedAt
      wall budgeted awaits ended
  · exact budgeted

end SchwabGateway.Reads
