import SchwabGateway.Reads.Retry
import SchwabGateway.Scheduler.Verdict

set_option autoImplicit false

namespace SchwabGateway.Reads

open SchwabGateway.Library

variable {V : Type}

def Admitted (scheduler : Scheduler.State V Failure) (read : Read V) : Prop :=
  ∃ attempt job, read.job attempt = some job ∧ scheduler.admitted job

def RefusedForCapacity (scheduler : Scheduler.State V Failure) (read : Read V) : Prop :=
  ∃ attempt job message, read.job attempt = some job ∧
    scheduler.callers job = .ended (.raised (.capacity message))

structure OneOutcome (scheduler : Scheduler.State V Failure) (read : Read V) : Prop where
  once : read.admission.length ≤ 1
  rejected : "rejected" ∈ read.admission ↔ ¬ Admitted scheduler read ∧ RefusedForCapacity scheduler read
  admitted : "admitted" ∈ read.admission ↔ Admitted scheduler read
  apart : ¬ ("rejected" ∈ read.admission ∧ "admitted" ∈ read.admission)

def CountsOnce (s : State V) : Prop :=
  ∀ id response, (s.reads id).stage = .answered response → response ≠ .serverError →
    OneOutcome s.scheduler (s.reads id)

-- The condition on a step: a first attempt passes the checks of execute, and
-- the scheduler has room for a second one, unless the cooldown stops it.
def Admissible (settings : Settings) (s : State V) : Event V → Prop
  | .begin operationName priority messages startedAt checkedAt _ _ _ _ =>
      0 < s.cooldownUntil - checkedAt ∨ ∃ request, Scheduler.validate (firstArguments settings
        ((s.arrive settings operationName priority messages startedAt).reads s.next)) = .ok request
  | .wake read checkedAt queueAt executeAt _ _ _ _ =>
      0 < s.cooldownUntil - checkedAt ∨
        ¬ s.scheduler.refuses (secondArguments settings (s.reads read) queueAt executeAt)
  | _ => True

inductive Tally (scheduler : Scheduler.State V Failure) (read : Read V) : Prop where
  | uncounted (admission : read.admission = []) (first : read.first = none) (second : read.second = none)
  | admitted (admission : read.admission = ["admitted"]) (admitted : Admitted scheduler read)
  | rejected (job : Nat) (message : String) (admission : read.admission = ["rejected"])
      (first : read.first = some job) (second : read.second = none) (unadmitted : ¬ scheduler.admitted job)
      (ended : scheduler.callers job = .ended (.raised (.capacity message)))

structure Tallied (scheduler : Scheduler.State V Failure) (read : Read V) : Prop where
  pending : read.stage.past = false → read.admission = []
  waiting : ∀ attempt job, read.awaits attempt job → scheduler.admitted job
  backoff : ∀ wakeAt, read.stage = .backoff wakeAt → Admitted scheduler read
  ended : ∀ response, read.stage = .answered response → response ≠ .serverError → Tally scheduler read

section Reads

variable (scheduler : Scheduler.State V Failure) (read : Read V)

theorem lone_unadmitted (job : Nat) (first : read.first = some job) (second : read.second = none)
    (unadmitted : ¬ scheduler.admitted job) : ¬ Admitted scheduler read := by
  rintro ⟨attempt, other, same, admitted⟩
  cases attempt with
  | first =>
      cases first.symm.trans same
      exact unadmitted admitted
  | second => cases second.symm.trans same

theorem tally_one_outcome (tally : Tally scheduler read) : OneOutcome scheduler read := by
  cases tally with
  | uncounted admission first second =>
      have none : ∀ attempt, read.job attempt = none := by
        intro attempt
        cases attempt with
        | first => exact first
        | second => exact second
      have unadmitted : ¬ Admitted scheduler read := by
        rintro ⟨attempt, job, same, _⟩
        cases (none attempt).symm.trans same
      have unrefused : ¬ RefusedForCapacity scheduler read := by
        rintro ⟨attempt, job, _, same, _⟩
        cases (none attempt).symm.trans same
      constructor
      all_goals simp [admission, unadmitted, unrefused]
  | admitted admission admitted =>
      constructor
      all_goals simp [admission, admitted]
  | rejected job message admission first second unadmitted ended =>
      have never := lone_unadmitted scheduler read job first second unadmitted
      have refused : RefusedForCapacity scheduler read := ⟨.first, job, message, first, ended⟩
      constructor
      all_goals simp [admission, never, refused]

theorem both_counted (admission : read.admission = ["rejected", "admitted"]) : ¬ OneOutcome scheduler read := by
  intro outcome
  have once := outcome.once
  rw [admission] at once
  exact absurd once (by decide)

theorem unadmitted_counted (job : Nat) (admission : read.admission = ["admitted"])
    (first : read.first = some job) (second : read.second = none) (unadmitted : ¬ scheduler.admitted job) :
    ¬ OneOutcome scheduler read := by
  intro outcome
  have member : "admitted" ∈ read.admission := by simp [admission]
  exact lone_unadmitted scheduler read job first second unadmitted (outcome.admitted.mp member)

end Reads

theorem admitted_runs (settings : Settings) (s t : Scheduler.State V Failure) (invariant : Scheduler.Invariant s)
    (runs : Runs s t) (read : Read V) (budgeted : Budgeted settings s read) (admitted : Admitted s read) :
    Admitted t read := by
  obtain ⟨attempt, job, same, admitted⟩ := admitted
  have known := budgeted.known attempt job same
  exact ⟨attempt, job, same, (Scheduler.admitted_kept s t invariant runs job known).mpr admitted⟩

theorem tally_runs (settings : Settings) (s t : Scheduler.State V Failure) (invariant : Scheduler.Invariant s)
    (runs : Runs s t) (read : Read V) (budgeted : Budgeted settings s read) (tally : Tally s read) :
    Tally t read := by
  cases tally with
  | uncounted admission first second => exact .uncounted admission first second
  | admitted admission admitted =>
      exact .admitted admission (admitted_runs settings s t invariant runs read budgeted admitted)
  | rejected job message admission first second unadmitted ended =>
      have kept := Scheduler.admitted_kept s t invariant runs job (budgeted.known .first job first)
      exact .rejected job message admission first second (fun later => unadmitted (kept.mp later))
        (caller_kept s t invariant runs job _ ended)

theorem tallied_runs (settings : Settings) (s t : Scheduler.State V Failure) (invariant : Scheduler.Invariant s)
    (runs : Runs s t) (read : Read V) (budgeted : Budgeted settings s read) (tallied : Tallied s read) :
    Tallied t read where
  pending := tallied.pending
  waiting := by
    intro attempt job awaits
    have kept := Scheduler.admitted_kept s t invariant runs job (budgeted.known attempt job awaits.2)
    exact kept.mpr (tallied.waiting attempt job awaits)
  backoff := fun wakeAt stage =>
    admitted_runs settings s t invariant runs read budgeted (tallied.backoff wakeAt stage)
  ended := fun response answered failed =>
    tally_runs settings s t invariant runs read budgeted (tallied.ended response answered failed)

section Settling

variable (scheduler : Scheduler.State V Failure) (read : Read V)

theorem tallied_over (stage : Stage V) (past : stage.past = true) (same : read.stage = stage)
    (ended : ∀ response, stage = .answered response → response ≠ .serverError → Tally scheduler read) :
    Tallied scheduler read where
  pending := fun open_ => by rw [same, past] at open_; cases open_
  waiting := fun attempt job awaits => by
    rw [← same, awaits.1] at past
    cases past
  backoff := fun wakeAt waiting => by
    rw [← same, waiting] at past
    cases past
  ended := fun response answered => ended response (same.symm.trans answered)

theorem tallied_answer (response : Response V) (pending : read.admission = [])
    (admitted : Admitted scheduler read) : Tallied scheduler (read.answer response) := by
  apply tallied_over scheduler _ (.answered response) rfl rfl
  intro _ _ _
  refine .admitted ?_ admitted
  simp [Read.answer, Read.finish, pending]

theorem tallied_aside (stage : Stage V) (past : stage.past = true) (rejected admitted : Bool)
    (aside : ∀ response, stage = .answered response → response = .serverError) :
    Tallied scheduler (read.finish stage rejected admitted) := by
  apply tallied_over scheduler _ stage past rfl
  intro response answered failed
  exact absurd (aside response answered) failed

theorem tallied_unavailable (cooldownUntil : ℚ) (attempt : Attempt) (failure : Failure) (now wall : ℚ)
    (pending : read.admission = []) (admitted : Admitted scheduler read) :
    Tallied scheduler (settleUnavailable cooldownUntil read attempt failure now wall).read := by
  have answered : ∀ response, Tallied scheduler (read.answer response) :=
    fun response => tallied_answer scheduler read response pending admitted
  rw [settleUnavailable]
  cases (classify failure wall).cause with
  | rateLimited => exact answered _
  | schedulerTimeout => exact answered _
  | other => exact answered _
  | connectTimeout =>
      dsimp only
      by_cases may : mayRetry read attempt now
      · rw [if_pos may]
        exact
          { pending := fun _ => pending
            waiting := fun _ _ awaits => by cases awaits.1
            backoff := fun _ _ => admitted
            ended := fun _ same => by cases same }
      · rw [if_neg may]
        exact answered _

theorem tallied_settle (cooldownUntil : ℚ) (attempt : Attempt) (outcome : Scheduler.Outcome V Failure)
    (now wall : ℚ) (pending : read.admission = []) (admitted : Admitted scheduler read)
    (capacity : ∀ message, outcome ≠ .raised (.capacity message)) :
    Tallied scheduler (settle cooldownUntil read attempt outcome now wall).read := by
  have answered : ∀ response, Tallied scheduler (read.answer response) :=
    fun response => tallied_answer scheduler read response pending admitted
  cases outcome with
  | returned value => exact answered _
  | raised error =>
      cases error with
      | valueError message => exact answered _
      | capacity message => exact absurd rfl (capacity message)
      | queueTimeout message => exact answered _
      | upstreamTimeout message => exact answered _
      | cancelled => exact tallied_aside scheduler read .cancelled rfl _ _ nofun
      | operation failure =>
          rw [settle]
          cases failure.head.exceptionClass with
          | upstreamUnavailable =>
              exact tallied_unavailable scheduler read cooldownUntil attempt failure now wall pending admitted
          | upstreamMalformed => exact answered _
          | valueError => exact answered _
          | other =>
              apply tallied_aside scheduler read (.answered .serverError) rfl
              intro response same
              cases same
              rfl

theorem tallied_rejected (cooldownUntil : ℚ) (job : Nat) (message : String) (now wall : ℚ)
    (pending : read.admission = []) (first : read.first = some job) (second : read.second = none)
    (unadmitted : ¬ scheduler.admitted job)
    (ended : scheduler.callers job = .ended (.raised (.capacity message))) :
    Tallied scheduler (settle cooldownUntil read .first (.raised (.capacity message)) now wall).read := by
  apply tallied_over scheduler _ (.answered (.error "gateway_capacity_exceeded"
    "gateway request capacity is unavailable" 429 none)) rfl rfl
  intro _ _ _
  refine .rejected job message ?_ first second unadmitted ended
  simp [settle, Read.finish, pending]

end Settling

end SchwabGateway.Reads
