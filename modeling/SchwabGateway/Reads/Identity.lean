import SchwabGateway.Reads.Retry
import SchwabGateway.Scheduler.Verdict

set_option autoImplicit false

namespace SchwabGateway.Reads

open SchwabGateway.Library

variable {V : Type}

theorem runs_clock (s t : Scheduler.State V Failure) (invariant : Scheduler.Invariant s) (runs : Runs s t) :
    s.clock ≤ t.clock :=
  (Scheduler.scheduler V Failure).reaches_related Scheduler.undisturbed Scheduler.Invariant
    (fun a b => a.clock ≤ b.clock) (fun _ => le_refl _) (fun _ _ _ first second => le_trans first second)
    Scheduler.invariant_step
    (fun a event calm held guard => le_of_le_of_eq guard.1 (event_clock a event held calm guard).symm)
    s t runs invariant

structure Identity where
  operationName : String
  priority : PriorityClass
  messages : Messages
  startedAt : ℚ

def Read.identity (read : Read V) : Identity :=
  ⟨read.operationName, read.priority, read.messages, read.startedAt⟩

theorem finish_identity (read : Read V) (stage : Stage V) (rejected admitted : Bool) :
    (read.finish stage rejected admitted).identity = read.identity := rfl

theorem with_job_identity (read : Read V) (attempt : Attempt) (job : Nat) :
    (read.withJob attempt job).identity = read.identity := by
  cases attempt <;> rfl

theorem settle_unavailable_identity (cooldownUntil : ℚ) (read : Read V) (attempt : Attempt) (failure : Failure)
    (now wall : ℚ) :
    (settleUnavailable cooldownUntil read attempt failure now wall).read.identity = read.identity := by
  rw [settleUnavailable]
  cases (classify failure wall).cause with
  | rateLimited => rfl
  | connectTimeout =>
      by_cases may : mayRetry read attempt now
      · simp only [if_pos may]
        rfl
      · simp only [if_neg may]
        rfl
  | schedulerTimeout => rfl
  | other => rfl

theorem settle_identity (cooldownUntil : ℚ) (read : Read V) (attempt : Attempt)
    (outcome : Scheduler.Outcome V Failure) (now wall : ℚ) :
    (settle cooldownUntil read attempt outcome now wall).read.identity = read.identity := by
  cases outcome with
  | returned value => rfl
  | raised error =>
      cases error with
      | valueError message => rfl
      | capacity message => rfl
      | queueTimeout message => rfl
      | upstreamTimeout message => rfl
      | cancelled => rfl
      | operation failure =>
          rw [settle]
          cases failure.head.exceptionClass with
          | upstreamUnavailable =>
              exact settle_unavailable_identity cooldownUntil read attempt failure now wall
          | upstreamMalformed => rfl
          | valueError => rfl
          | other => rfl

theorem proceed_identity (s : State V) (id job : Nat) (attempt : Attempt) (observedAt wall : ℚ) :
    (proceedRead s id job attempt observedAt wall).identity = (s.reads id).identity := by
  rw [proceedRead]
  cases s.scheduler.callers job with
  | absent => rfl
  | waitingStarted timerFired cancelRequested => rfl
  | waitingResult cancelRequested => rfl
  | ended outcome => exact settle_identity s.cooldownUntil (s.reads id) attempt outcome observedAt wall

structure SameReads (s t : State V) : Prop where
  next : t.next = s.next
  identity : ∀ id, (t.reads id).identity = (s.reads id).identity

section Frames

variable (s t : State V)

theorem same_reads_frame (next : t.next = s.next) (reads : t.reads = s.reads) : SameReads s t :=
  ⟨next, fun id => by rw [reads]⟩

theorem same_reads_write (id : Nat) (read : Read V) (next : t.next = s.next)
    (reads : t.reads = Function.update s.reads id read) (own : read.identity = (s.reads id).identity) :
    SameReads s t := by
  refine ⟨next, fun other => ?_⟩
  rw [reads]
  by_cases same : other = id
  · rw [same, Function.update_self]
    exact own
  · rw [Function.update_of_ne same]

theorem same_reads_trans (u : State V) (first : SameReads s t) (second : SameReads t u) : SameReads s u :=
  ⟨second.next.trans first.next, fun id => (second.identity id).trans (first.identity id)⟩

theorem same_reads_refuse (id : Nat) (attempt : Attempt) (checkedAt now : ℚ) :
    SameReads s (s.refuse id attempt checkedAt now) :=
  same_reads_write s _ id _ rfl rfl (finish_identity _ _ _ _)

theorem same_reads_proceed (id job : Nat) (attempt : Attempt) (observedAt wall : ℚ) :
    SameReads s (s.proceed id job attempt observedAt wall) := by
  obtain ⟨reads, _, next⟩ := proceed_frame s id job attempt observedAt wall
  exact same_reads_write s _ id _ next reads (proceed_identity s id job attempt observedAt wall)

theorem same_reads_submit (id : Nat) (attempt : Attempt) (args : Scheduler.Arguments)
    (enqueuedAt now observedAt wall : ℚ) :
    SameReads s (s.submit id attempt args enqueuedAt now observedAt wall) := by
  have written : SameReads s (s.submitted id attempt args enqueuedAt now observedAt) :=
    same_reads_write s _ id _ rfl rfl (with_job_identity (s.reads id) attempt s.scheduler.next)
  exact same_reads_trans s _ _ written (same_reads_proceed _ id s.scheduler.next attempt observedAt wall)

end Frames

def Event.begins : Event V → Bool
  | .begin _ _ _ _ _ _ _ _ _ => true
  | _ => false

theorem perform_same_reads (settings : Settings) (s : State V) (event : Event V) (later : event.begins = false) :
    SameReads s (perform settings s event) := by
  cases event with
  | begin operationName priority messages startedAt checkedAt enqueuedAt now observedAt wall => cases later
  | resume read job attempt now observedAt wall =>
      have called : SameReads s ((s.act (.resumeCaller job now)).tick observedAt) := same_reads_frame s _ rfl rfl
      exact same_reads_trans s _ _ called (same_reads_proceed _ read job attempt observedAt wall)
  | wake read checkedAt queueAt executeAt enqueuedAt now observedAt wall =>
      rw [perform]
      by_cases shut : 0 < s.cooldownUntil - checkedAt
      · rw [if_pos shut]
        exact same_reads_refuse s read .second checkedAt observedAt
      · rw [if_neg shut]
        exact same_reads_submit s read .second _ enqueuedAt now observedAt wall
  | cancel read job now => exact same_reads_frame s _ rfl rfl
  | cancelBackoff read now => exact same_reads_write s _ read _ rfl rfl (finish_identity _ _ _ _)
  | startOperation job checkedAt now =>
      rw [perform, State.startOperation]
      by_cases shut : 0 < s.cooldownUntil - checkedAt
      · simp only [if_pos shut]
        exact same_reads_frame s _ rfl rfl
      · simp only [if_neg shut]
        exact same_reads_frame s _ rfl rfl
  | finishBuild job ending handledAt wall now =>
      obtain ⟨reads, _, next, _⟩ := finish_build_frame s job ending handledAt wall now
      exact same_reads_frame s _ next reads
  | joined failure now wall => exact same_reads_frame s _ rfl rfl
  | advance event => exact same_reads_frame s _ rfl rfl

structure Begun (s t : State V) (identity : Identity) : Prop where
  next : t.next = s.next + 1
  own : (t.reads s.next).identity = identity
  others : ∀ id, id ≠ s.next → (t.reads id).identity = (s.reads id).identity

theorem perform_begun (settings : Settings) (s : State V) (operationName : String) (priority : PriorityClass)
    (messages : Messages) (startedAt checkedAt enqueuedAt now observedAt wall : ℚ) :
    Begun s (perform settings s
        (.begin operationName priority messages startedAt checkedAt enqueuedAt now observedAt wall))
      ⟨operationName, priority, messages, startedAt⟩ := by
  have later : SameReads (s.arrive settings operationName priority messages startedAt) (perform settings s
      (.begin operationName priority messages startedAt checkedAt enqueuedAt now observedAt wall)) := by
    rw [perform]
    by_cases shut : 0 < (s.arrive settings operationName priority messages startedAt).cooldownUntil - checkedAt
    · rw [if_pos shut]
      exact same_reads_refuse _ s.next .first checkedAt observedAt
    · rw [if_neg shut]
      exact same_reads_submit _ s.next .first _ enqueuedAt now observedAt wall
  refine ⟨later.next, ?_, ?_⟩
  · rw [later.identity s.next, State.arrive, State.setRead]
    simp only [Function.update_self]
    rfl
  · intro id different
    rw [later.identity id, State.arrive, State.setRead]
    simp only [Function.update_of_ne different]

theorem validate_priority (args : Scheduler.Arguments) (request : Scheduler.Request)
    (valid : Scheduler.validate args = .ok request) : request.priority = args.priority := by
  rw [Scheduler.validate] at valid
  split at valid
  · cases valid
  · split at valid
    · cases valid
    · split at valid
      · cases valid
      · split at valid
        · cases valid
        · cases valid
          rfl

theorem execute_priority (s : Scheduler.State V Failure) (invariant : Scheduler.Invariant s)
    (args : Scheduler.Arguments) (enqueuedAt now : ℚ)
    (admitted : ((Scheduler.scheduler V Failure).perform s (.execute args enqueuedAt now)).admitted s.next) :
    (((Scheduler.scheduler V Failure).perform s (.execute args enqueuedAt now)).jobs s.next).priority =
      args.priority := by
  have fresh : s.ledger s.next = {} := congrArg Scheduler.View.ledger (invariant.fresh s.next (Nat.le_refl _))
  have performed : (Scheduler.scheduler V Failure).perform s (.execute args enqueuedAt now) =
      Scheduler.execute (s.at now) args enqueuedAt now := rfl
  rw [performed] at admitted ⊢
  cases valid : Scheduler.validate args with
  | error message =>
      simp [Scheduler.State.admitted, Scheduler.execute, valid, Scheduler.endCall, Scheduler.State.setCaller,
        Scheduler.State.at, fresh] at admitted
  | ok request =>
      by_cases accepting : s.accepting = true
      · by_cases room : s.allocated request.priority < s.limits request.priority
        · rw [Scheduler.execute_room (s.at now) args request enqueuedAt now valid accepting room]
          have own := (Scheduler.admission_spec (s.at now) (Scheduler.balanced_at s now invariant.balanced)
            (invariant.fresh s.next (Nat.le_refl _)) request enqueuedAt accepting room _ rfl).2.2.1
          have kept := Scheduler.keeps_steps _ _ _ own (Scheduler.consistent_enqueue now request enqueuedAt)
          exact kept.priority.trans (validate_priority args request valid)
        · have full : (s.limits request.priority : Int) ≤ s.allocated request.priority := by omega
          simp [Scheduler.State.admitted, Scheduler.execute, valid, Scheduler.endCall, Scheduler.State.setCaller,
            Scheduler.State.at, accepting, full, fresh] at admitted
      · simp [Scheduler.State.admitted, Scheduler.execute, valid, Scheduler.endCall, Scheduler.State.setCaller,
          Scheduler.State.at, accepting, fresh] at admitted

-- The calls of the scheduler before and after a step: none is new, or one is,
-- and it has the class of its read if it is admitted.
inductive Calls (s t : State V) : Prop where
  | none (next : t.scheduler.next = s.scheduler.next) (owner : t.owner = s.owner)
  | one (id : Nat) (next : t.scheduler.next = s.scheduler.next + 1)
      (owner : t.owner = Function.update s.owner s.scheduler.next id)
      (class_ : t.scheduler.admitted s.scheduler.next →
        (t.scheduler.jobs s.scheduler.next).priority = (t.reads id).priority)

theorem identity_priority (first second : Read V) (same : first.identity = second.identity) :
    first.priority = second.priority := congrArg Identity.priority same

theorem calls_submit (s : State V) (id : Nat) (attempt : Attempt) (args : Scheduler.Arguments)
    (enqueuedAt now observedAt wall : ℚ) (invariant : Scheduler.Invariant s.scheduler)
    (class_ : args.priority = (s.reads id).priority) :
    Calls s (s.submit id attempt args enqueuedAt now observedAt wall) := by
  have same := same_reads_submit s id attempt args enqueuedAt now observedAt wall
  have scheduler := submit_scheduler s id attempt args enqueuedAt now observedAt wall
  have next := Scheduler.execute_next s.scheduler invariant args enqueuedAt now
  have owner := (proceed_frame (s.submitted id attempt args enqueuedAt now observedAt) id s.scheduler.next attempt
    observedAt wall).2.1
  refine .one id ?_ owner ?_
  · rw [scheduler]
    exact next
  · rw [scheduler, identity_priority _ _ (same.identity id), ← class_]
    exact execute_priority s.scheduler invariant args enqueuedAt now

theorem perform_calls (settings : Settings) (s : State V) (event : Event V)
    (invariant : Scheduler.Invariant s.scheduler) (guard : enabled s event) :
    Calls s (perform settings s event) := by
  cases event with
  | begin operationName priority messages startedAt checkedAt enqueuedAt now observedAt wall =>
      rw [perform]
      by_cases shut : 0 < (s.arrive settings operationName priority messages startedAt).cooldownUntil - checkedAt
      · rw [if_pos shut]
        exact .none rfl rfl
      · rw [if_neg shut]
        have calls := calls_submit (s.arrive settings operationName priority messages startedAt) s.next .first
          (firstArguments settings ((s.arrive settings operationName priority messages startedAt).reads s.next))
          enqueuedAt now observedAt wall invariant rfl
        cases calls with
        | none next owner => exact .none next owner
        | one id next owner class_ => exact .one id next owner class_
  | resume read job attempt now observedAt wall =>
      have owner := (proceed_frame ((s.act (.resumeCaller job now)).tick observedAt) read job attempt observedAt
        wall).2.1
      refine .none ?_ owner
      rw [perform, proceed_scheduler]
      exact Scheduler.other_next s.scheduler (.resumeCaller job now) invariant rfl guard.2.1
        (fun _ _ _ same => by cases same)
  | wake read checkedAt queueAt executeAt enqueuedAt now observedAt wall =>
      rw [perform]
      by_cases shut : 0 < s.cooldownUntil - checkedAt
      · rw [if_pos shut]
        exact .none rfl rfl
      · rw [if_neg shut]
        exact calls_submit s read .second _ enqueuedAt now observedAt wall invariant rfl
  | cancel read job now =>
      exact .none (Scheduler.other_next s.scheduler (.cancelCaller job now) invariant rfl guard.2
        (fun _ _ _ same => by cases same)) rfl
  | cancelBackoff read now => exact .none rfl rfl
  | startOperation job checkedAt now =>
      rw [perform, State.startOperation]
      by_cases shut : 0 < s.cooldownUntil - checkedAt
      · simp only [if_pos shut]
        exact .none rfl rfl
      · simp only [if_neg shut]
        exact .none rfl rfl
  | finishBuild job ending handledAt wall now =>
      refine .none ?_ (finish_build_frame s job ending handledAt wall now).2.1
      rw [perform, finish_build_scheduler]
      exact Scheduler.other_next s.scheduler (.completeOperation job ending.ending now) invariant rfl guard.1
        (fun _ _ _ same => by cases same)
  | joined failure now wall => exact .none rfl rfl
  | advance event =>
      exact .none (Scheduler.other_next s.scheduler event invariant (of_scheduler_calm event guard.1) guard.2
        (fun _ _ _ same => by rw [same] at guard; cases guard.1)) rfl

def Classed (s : State V) : Prop :=
  ∀ job, job < s.scheduler.next → s.scheduler.admitted job →
    (s.scheduler.jobs job).priority = (s.reads (s.owner job)).priority

theorem known_reads_keep (settings : Settings) (s : State V) (event : Event V) (id : Nat) (known : id < s.next) :
    ((perform settings s event).reads id).identity = (s.reads id).identity := by
  cases begins : event.begins with
  | false => exact (perform_same_reads settings s event begins).identity id
  | true =>
      cases event with
      | begin operationName priority messages startedAt checkedAt enqueuedAt now observedAt wall =>
          exact (perform_begun settings s operationName priority messages startedAt checkedAt enqueuedAt now
            observedAt wall).others id (Nat.ne_of_lt known)
      | resume | wake | cancel | cancelBackoff | startOperation | finishBuild | joined | advance => cases begins

theorem classed_perform (settings : Settings) (s : State V) (event : Event V)
    (invariant : Scheduler.Invariant s.scheduler) (budgets : Budgets settings s) (classed : Classed s)
    (guard : enabled s event) : Classed (perform settings s event) := by
  have runs := runs_perform settings s event invariant guard
  have old : ∀ job, job < s.scheduler.next → (perform settings s event).scheduler.admitted job →
      ((perform settings s event).scheduler.jobs job).priority =
        ((perform settings s event).reads (s.owner job)).priority := by
    intro job below admitted
    have kept := Scheduler.keeps_reaches _ _ invariant runs job below
    have before := (Scheduler.admitted_kept _ _ invariant runs job below).mp admitted
    have own := known_reads_keep settings s event (s.owner job) (budgets.owner job below).1
    rw [identity_priority _ _ own]
    exact kept.priority.trans (classed job below before)
  cases perform_calls settings s event invariant guard with
  | none next owner =>
      intro job below admitted
      rw [next] at below
      rw [owner]
      exact old job below admitted
  | one id next owner class_ =>
      intro job below admitted
      rw [next] at below
      rw [owner]
      by_cases new : job = s.scheduler.next
      · subst new
        rw [Function.update_self]
        exact class_ admitted
      · rw [Function.update_of_ne new]
        exact old job (by omega) admitted

theorem classed_reachable (settings : Settings) (policy : AdmissionPolicy) (clock : ℚ) (s : State V)
    (reachable : Reachable settings policy clock s) : Classed s := by
  have all : (Scheduler.Invariant s.scheduler ∧ Budgets settings s) ∧ Classed s := by
    apply System.reaches_invariant (gateway V settings) Set.univ
      (fun a => (Scheduler.Invariant a.scheduler ∧ Budgets settings a) ∧ Classed a) _ _ s reachable
    · exact ⟨⟨Scheduler.invariant_initial policy clock, budgets_initial settings policy clock⟩,
        fun _ below => absurd below (Nat.not_lt_zero _)⟩
    · intro a event _ held guard
      exact ⟨⟨scheduler_invariant_step settings a event held.1.1 guard,
        budgets_perform settings a event held.1.1 held.1.2 guard⟩,
        classed_perform settings a event held.1.1 held.1.2 held.2 guard⟩
  exact all.2

end SchwabGateway.Reads
