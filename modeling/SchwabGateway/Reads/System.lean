import SchwabGateway.Reads.Model

set_option autoImplicit false

namespace SchwabGateway.Reads

open SchwabGateway.Library

variable {V : Type}

-- One event is one uninterrupted step of the event loop, with the clock
-- readings made in it; wall is a reading of the calendar clock. The steps of
-- the scheduler's own tasks come in as advance.
inductive Event (V : Type) where
  | begin (operationName : String) (priority : PriorityClass) (messages : Messages)
      (startedAt checkedAt enqueuedAt now observedAt wall : ℚ)
  | resume (read job : Nat) (attempt : Attempt) (now observedAt wall : ℚ)
  | wake (read : Nat) (checkedAt queueAt executeAt enqueuedAt now observedAt wall : ℚ)
  | cancel (read job : Nat) (now : ℚ)
  | cancelBackoff (read : Nat) (now : ℚ)
  | startOperation (job : Nat) (checkedAt now : ℚ)
  | finishBuild (job : Nat) (ending : BuildEnding V) (handledAt wall now : ℚ)
  | joined (failure : ReadFailure) (now wall : ℚ)
  | advance (event : Scheduler.Event V Failure)

def ofScheduler : Scheduler.Event V Failure → Bool
  | .timerFires _ _ => true
  | .startLifecycle _ _ _ => true
  | .wakeLifecycle _ _ => true
  | .shutdown _ => true
  | .startWaiter _ _ => true
  | .wakeWaiter _ _ => true
  | .returnShutdown _ _ => true
  | .cancelShutdown _ _ => true
  | .tick _ => true
  | _ => false

def Read.job (read : Read V) (attempt : Attempt) : Option Nat :=
  match attempt with
  | .first => read.first
  | .second => read.second

def Read.awaits (read : Read V) (attempt : Attempt) (job : Nat) : Prop :=
  read.stage = .executing attempt ∧ read.job attempt = some job

instance [DecidableEq V] (read : Read V) (attempt : Attempt) (job : Nat) :
    Decidable (read.awaits attempt job) :=
  inferInstanceAs (Decidable (_ ∧ _))

def Read.backoffOver (read : Read V) (now : ℚ) : Bool :=
  match read.stage with
  | .backoff wakeAt => wakeAt ≤ now
  | _ => false

def Read.backingOff (read : Read V) : Bool :=
  match read.stage with
  | .backoff _ => true
  | _ => false

def enabled (s : State V) : Event V → Prop
  | .begin _ _ _ startedAt checkedAt enqueuedAt now observedAt _ =>
      s.scheduler.clock ≤ startedAt ∧ startedAt ≤ checkedAt ∧ checkedAt ≤ enqueuedAt ∧
        enqueuedAt ≤ now ∧ now ≤ observedAt
  | .resume read job attempt now observedAt _ =>
      (s.reads read).awaits attempt job ∧
        (Scheduler.scheduler V Failure).enabled s.scheduler (.resumeCaller job now) ∧ now ≤ observedAt
  | .wake read checkedAt queueAt executeAt enqueuedAt now observedAt _ =>
      (s.reads read).backoffOver checkedAt = true ∧ s.scheduler.clock ≤ checkedAt ∧
        checkedAt ≤ queueAt ∧ queueAt ≤ executeAt ∧ executeAt ≤ enqueuedAt ∧ enqueuedAt ≤ now ∧
        now ≤ observedAt
  | .cancel read job now =>
      ((s.reads read).awaits .first job ∨ (s.reads read).awaits .second job) ∧
        (Scheduler.scheduler V Failure).enabled s.scheduler (.cancelCaller job now)
  | .cancelBackoff read now => (s.reads read).backingOff = true ∧ s.scheduler.clock ≤ now
  | .startOperation job checkedAt now =>
      (Scheduler.scheduler V Failure).enabled s.scheduler (.startOperation job checkedAt) ∧
        checkedAt ≤ now
  | .finishBuild job ending handledAt _ now =>
      (Scheduler.scheduler V Failure).enabled s.scheduler (.completeOperation job ending.ending now) ∧
        s.scheduler.clock ≤ handledAt ∧ handledAt ≤ now
  | .joined _ now _ => s.scheduler.clock ≤ now
  | .advance event =>
      ofScheduler event = true ∧ (Scheduler.scheduler V Failure).enabled s.scheduler event

def perform (settings : Settings) (s : State V) : Event V → State V
  | .begin operationName priority messages startedAt checkedAt enqueuedAt now observedAt wall =>
      let id := s.next
      let s := s.arrive settings operationName priority messages startedAt
      if 0 < s.cooldownUntil - checkedAt then s.refuse id .first checkedAt observedAt
      else s.submit id .first (firstArguments settings (s.reads id)) enqueuedAt now observedAt wall
  | .resume read job attempt now observedAt wall =>
      ((s.act (.resumeCaller job now)).tick observedAt).proceed read job attempt observedAt wall
  | .wake read checkedAt queueAt executeAt enqueuedAt now observedAt wall =>
      if 0 < s.cooldownUntil - checkedAt then s.refuse read .second checkedAt observedAt
      else
        s.submit read .second (secondArguments settings (s.reads read) queueAt executeAt) enqueuedAt now
          observedAt wall
  | .cancel _ job now => s.act (.cancelCaller job now)
  | .cancelBackoff read now =>
      (s.setRead read ((s.reads read).finish .cancelled false true)).tick now
  | .startOperation job checkedAt now => s.startOperation job checkedAt now
  | .finishBuild job ending handledAt wall now => s.finishBuild job ending handledAt wall now
  -- a request that joined the fetch of another one answers its failure
  | .joined failure now wall =>
      let answer : ℚ × Response V := failureResponse s.cooldownUntil failure.exception "" now wall
      { s.tick now with cooldownUntil := answer.1 }
  | .advance event => s.act event

def gateway (V : Type) (settings : Settings) : System (State V) (Event V) where
  enabled := enabled
  perform := perform settings

instance decidableEnabled [DecidableEq V] (settings : Settings) (s : State V) :
    (event : Event V) → Decidable ((gateway V settings).enabled s event)
  | .begin _ _ _ _ _ _ _ _ _ => inferInstanceAs (Decidable (_ ∧ _ ∧ _ ∧ _ ∧ _))
  | .resume _ _ _ _ _ _ => inferInstanceAs (Decidable (_ ∧ _ ∧ _))
  | .wake _ _ _ _ _ _ _ _ => inferInstanceAs (Decidable (_ ∧ _ ∧ _ ∧ _ ∧ _ ∧ _ ∧ _))
  | .cancel _ _ _ => inferInstanceAs (Decidable (_ ∧ _))
  | .cancelBackoff _ _ => inferInstanceAs (Decidable (_ ∧ _))
  | .startOperation _ _ _ => inferInstanceAs (Decidable (_ ∧ _))
  | .finishBuild _ _ _ _ _ => inferInstanceAs (Decidable (_ ∧ _ ∧ _))
  | .joined _ _ _ => inferInstanceAs (Decidable (_ ≤ _))
  | .advance _ => inferInstanceAs (Decidable (_ ∧ _))

def Reachable (settings : Settings) (policy : AdmissionPolicy) (clock : ℚ) (s : State V) : Prop :=
  (gateway V settings).Reaches Set.univ (initial policy clock) s

end SchwabGateway.Reads
