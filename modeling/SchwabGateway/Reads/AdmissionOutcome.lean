import SchwabGateway.Reads.AdmissionCount

set_option autoImplicit false

namespace SchwabGateway.Reads

open SchwabGateway.Library

variable {V : Type}

structure Accounted (settings : Settings) (s : State V) : Prop where
  invariant : Scheduler.Invariant s.scheduler
  budgets : Budgets settings s
  tallied : ∀ id, Tallied s.scheduler (s.reads id)

theorem tallied_fresh (scheduler : Scheduler.State V Failure) (read : Read V) (stage : read.stage = .absent)
    (pending : read.admission = []) : Tallied scheduler read where
  pending := fun _ => pending
  waiting := fun _ _ awaits => by cases stage.symm.trans awaits.1
  backoff := fun _ backoff => by cases stage.symm.trans backoff
  ended := fun _ answered => by cases stage.symm.trans answered

theorem accounted_initial (settings : Settings) (policy : AdmissionPolicy) (clock : ℚ) :
    Accounted settings (initial policy clock : State V) where
  invariant := Scheduler.invariant_initial policy clock
  budgets := budgets_initial settings policy clock
  tallied := fun _ => tallied_fresh _ _ rfl rfl

section Frames

variable (settings : Settings) (s t : State V)

theorem tallied_frame (accounted : Accounted settings s) (runs : Runs s.scheduler t.scheduler)
    (reads : t.reads = s.reads) (id : Nat) : Tallied t.scheduler (t.reads id) := by
  rw [reads]
  exact tallied_runs settings s.scheduler t.scheduler accounted.invariant runs _ (accounted.budgets.reads id)
    (accounted.tallied id)

theorem tallied_write (accounted : Accounted settings s) (runs : Runs s.scheduler t.scheduler) (id : Nat)
    (read : Read V) (reads : t.reads = Function.update s.reads id read) (own : Tallied t.scheduler read)
    (other : Nat) : Tallied t.scheduler (t.reads other) := by
  rw [reads]
  by_cases same : other = id
  · rw [same, Function.update_self]
    exact own
  · rw [Function.update_of_ne same]
    exact tallied_runs settings s.scheduler t.scheduler accounted.invariant runs _
      (accounted.budgets.reads other) (accounted.tallied other)

end Frames

section Steps

variable (settings : Settings) (s : State V)

theorem tallied_proceed (id job : Nat) (attempt : Attempt) (observedAt wall : ℚ)
    (invariant : Scheduler.Invariant s.scheduler) (pending : (s.reads id).admission = [])
    (awaits : (s.reads id).awaits attempt job) (admitted : s.scheduler.admitted job) :
    Tallied s.scheduler (proceedRead s id job attempt observedAt wall) := by
  have still : Tallied s.scheduler (s.reads id) :=
    { pending := fun _ => pending
      waiting := fun other last same => by
        cases awaits.1.symm.trans same.1
        cases awaits.2.symm.trans same.2
        exact admitted
      backoff := fun _ backoff => by cases awaits.1.symm.trans backoff
      ended := fun _ answered => by cases awaits.1.symm.trans answered }
  rw [proceedRead]
  cases caller : s.scheduler.callers job with
  | absent => exact still
  | waitingStarted timerFired cancelRequested => exact still
  | waitingResult cancelRequested => exact still
  | ended outcome =>
      apply tallied_settle s.scheduler (s.reads id) _ attempt outcome observedAt wall pending
        ⟨attempt, job, awaits.2, admitted⟩
      rintro message rfl
      exact Scheduler.capacity_unadmitted s.scheduler invariant job message caller admitted

theorem submit_read (id : Nat) (attempt : Attempt) (args : Scheduler.Arguments)
    (enqueuedAt now observedAt wall : ℚ) :
    (s.submit id attempt args enqueuedAt now observedAt wall).reads = Function.update s.reads id
      (proceedRead (s.submitted id attempt args enqueuedAt now observedAt) id s.scheduler.next attempt observedAt
        wall) := by
  have frame := (proceed_frame (s.submitted id attempt args enqueuedAt now observedAt) id s.scheduler.next attempt
    observedAt wall).1
  have written : (s.submitted id attempt args enqueuedAt now observedAt).reads =
      Function.update s.reads id ((s.reads id).withJob attempt s.scheduler.next) := rfl
  rw [written, Function.update_idem] at frame
  exact frame

theorem submitted_read (id : Nat) (attempt : Attempt) (args : Scheduler.Arguments) (enqueuedAt now observedAt : ℚ) :
    (s.submitted id attempt args enqueuedAt now observedAt).reads id =
      (s.reads id).withJob attempt s.scheduler.next :=
  Function.update_self id _ s.reads

theorem proceed_ended (id job : Nat) (attempt : Attempt) (observedAt wall : ℚ)
    (outcome : Scheduler.Outcome V Failure) (ended : s.scheduler.callers job = .ended outcome) :
    proceedRead s id job attempt observedAt wall =
      (settle s.cooldownUntil (s.reads id) attempt outcome observedAt wall).read := by
  rw [proceedRead, ended]

end Steps

theorem with_job_admission (read : Read V) (attempt : Attempt) (job : Nat) :
    (read.withJob attempt job).admission = read.admission := by
  cases attempt <;> rfl

structure Submission (settings : Settings) (s : State V) (id : Nat) (attempt : Attempt)
    (args : Scheduler.Arguments) (enqueuedAt now observedAt : ℚ) : Prop where
  accounted : Accounted settings s
  submittable : Submittable settings s id attempt args
  pending : (s.reads id).admission = []
  admitted : attempt = .second → ∃ job, (s.reads id).first = some job ∧ s.scheduler.admitted job
  early : s.scheduler.clock ≤ enqueuedAt
  between : enqueuedAt ≤ now
  late : now ≤ observedAt

section Submissions

variable {settings : Settings} {s : State V} {id : Nat} {attempt : Attempt} {args : Scheduler.Arguments}
variable {enqueuedAt now observedAt : ℚ}

theorem submission_runs (given : Submission settings s id attempt args enqueuedAt now observedAt) :
    Runs s.scheduler (s.submitted id attempt args enqueuedAt now observedAt).scheduler :=
  runs_submitted s id attempt args enqueuedAt now observedAt given.accounted.invariant given.early given.between
    given.late

theorem submission_pending (given : Submission settings s id attempt args enqueuedAt now observedAt) :
    ((s.submitted id attempt args enqueuedAt now observedAt).reads id).admission = [] := by
  rw [submitted_read, with_job_admission]
  exact given.pending

theorem submission_admitted (given : Submission settings s id .second args enqueuedAt now observedAt) :
    Admitted (s.submitted id .second args enqueuedAt now observedAt).scheduler
      ((s.submitted id .second args enqueuedAt now observedAt).reads id) := by
  obtain ⟨job, first, admitted⟩ := given.admitted rfl
  have known := (given.accounted.budgets.reads id).known .first job first
  refine ⟨.first, job, ?_, ?_⟩
  · rw [submitted_read]
    exact first
  · exact (Scheduler.admitted_kept _ _ given.accounted.invariant (submission_runs given) job known).mpr admitted

theorem submission_alone (given : Submission settings s id .first args enqueuedAt now observedAt) :
    ((s.submitted id .first args enqueuedAt now observedAt).reads id).first = some s.scheduler.next ∧
      ((s.submitted id .first args enqueuedAt now observedAt).reads id).second = none := by
  rw [submitted_read]
  exact ⟨rfl, given.submittable.fresh rfl⟩

theorem submission_invariant (given : Submission settings s id attempt args enqueuedAt now observedAt) :
    Scheduler.Invariant (s.submitted id attempt args enqueuedAt now observedAt).scheduler :=
  runs_invariant _ _ given.accounted.invariant (submission_runs given)

theorem tallied_submission (given : Submission settings s id attempt args enqueuedAt now observedAt) (wall : ℚ)
    (passes : attempt = .first → ∃ request, Scheduler.validate args = .ok request)
    (room : attempt = .second → ¬ s.scheduler.refuses args) :
    Tallied (s.submitted id attempt args enqueuedAt now observedAt).scheduler
      (proceedRead (s.submitted id attempt args enqueuedAt now observedAt) id s.scheduler.next attempt observedAt
        wall) := by
  have invariant := submission_invariant given
  have pending := submission_pending given
  cases valid : Scheduler.validate args with
  | error message =>
      cases attempt with
      | first =>
          obtain ⟨request, passed⟩ := passes rfl
          cases valid.symm.trans passed
      | second =>
          have ended := Scheduler.execute_invalid s.scheduler args enqueuedAt now message valid
          rw [proceed_ended _ id _ .second observedAt wall _ ended]
          exact tallied_settle _ _ _ .second _ observedAt wall pending (submission_admitted given) nofun
  | ok request =>
      by_cases refused : s.scheduler.refuses args
      · cases attempt with
        | first =>
            obtain ⟨message, ended⟩ := Scheduler.execute_refused s.scheduler args enqueuedAt now refused
            obtain ⟨first, second⟩ := submission_alone given
            rw [proceed_ended _ id _ .first observedAt wall _ ended]
            exact tallied_rejected _ _ _ s.scheduler.next message observedAt wall pending first second
              (Scheduler.capacity_unadmitted _ invariant _ message ended) ended
        | second => exact absurd refused (room rfl)
      · have admitted := Scheduler.execute_admitted s.scheduler args request enqueuedAt now
          given.accounted.invariant valid refused
        apply tallied_proceed _ id s.scheduler.next attempt observedAt wall invariant pending _ admitted
        rw [submitted_read]
        exact with_job_self (s.reads id) attempt s.scheduler.next

theorem answered_once (t : State V) (once : CountsOnce t) (id : Nat) (read : Read V) (response : Response V)
    (written : t.reads id = read) (answered : read.stage = .answered response)
    (returned : response ≠ .serverError) : OneOutcome t.scheduler read := by
  rw [← written] at answered ⊢
  exact once id response answered returned

theorem invalid_miscounted (given : Submission settings s id .first args enqueuedAt now observedAt) (wall : ℚ)
    (message : String) (invalid : Scheduler.validate args = .error message) :
    ¬ CountsOnce (s.submit id .first args enqueuedAt now observedAt wall) := by
  have ended := Scheduler.execute_invalid s.scheduler args enqueuedAt now message invalid
  obtain ⟨first, second⟩ := submission_alone given
  have read : (s.submit id .first args enqueuedAt now observedAt wall).reads id =
      ((s.submitted id .first args enqueuedAt now observedAt).reads id).answer
        (malformedResponse ((s.submitted id .first args enqueuedAt now observedAt).reads id).messages) := by
    rw [submit_read, Function.update_self, proceed_ended _ id _ .first observedAt wall _ ended]
    rfl
  intro once
  refine unadmitted_counted _ _ s.scheduler.next ?_ ?_ ?_ ?_ (answered_once _ once id _ _ read rfl nofun)
  · simp [Read.answer, Read.finish, submission_pending given]
  · exact first
  · exact second
  · rw [State.submit, proceed_scheduler]
    exact Scheduler.value_error_unadmitted _ (submission_invariant given) _ message ended

theorem refused_miscounted (given : Submission settings s id .second args enqueuedAt now observedAt) (wall : ℚ)
    (refused : s.scheduler.refuses args) :
    ¬ CountsOnce (s.submit id .second args enqueuedAt now observedAt wall) := by
  obtain ⟨message, ended⟩ := Scheduler.execute_refused s.scheduler args enqueuedAt now refused
  have read : (s.submit id .second args enqueuedAt now observedAt wall).reads id =
      ((s.submitted id .second args enqueuedAt now observedAt).reads id).finish
        (.answered (.error "gateway_capacity_exceeded" "gateway request capacity is unavailable" 429 none))
        true true := by
    rw [submit_read, Function.update_self, proceed_ended _ id _ .second observedAt wall _ ended]
    rfl
  intro once
  refine both_counted _ _ ?_ (answered_once _ once id _ _ read rfl nofun)
  simp [Read.finish, submission_pending given]

end Submissions

theorem tallied_submit (settings : Settings) (s : State V) (id : Nat) (attempt : Attempt)
    (args : Scheduler.Arguments) (enqueuedAt now observedAt wall : ℚ)
    (given : Submission settings s id attempt args enqueuedAt now observedAt)
    (passes : attempt = .first → ∃ request, Scheduler.validate args = .ok request)
    (room : attempt = .second → ¬ s.scheduler.refuses args) (other : Nat) :
    Tallied (s.submit id attempt args enqueuedAt now observedAt wall).scheduler
      ((s.submit id attempt args enqueuedAt now observedAt wall).reads other) := by
  have runs := runs_submit s id attempt args enqueuedAt now observedAt wall given.accounted.invariant given.early
    given.between given.late
  have scheduler : (s.submit id attempt args enqueuedAt now observedAt wall).scheduler =
      (s.submitted id attempt args enqueuedAt now observedAt).scheduler := proceed_scheduler _ _ _ _ _ _
  apply tallied_write settings s _ given.accounted runs id _
    (submit_read s id attempt args enqueuedAt now observedAt wall)
  rw [scheduler]
  exact tallied_submission given wall passes room

theorem tallied_refuse (settings : Settings) (s : State V) (accounted : Accounted settings s) (id : Nat)
    (attempt : Attempt) (checkedAt now : ℚ) (later : s.scheduler.clock ≤ now)
    (pending : (s.reads id).admission = [])
    (fresh : attempt = .first → (s.reads id).first = none ∧ (s.reads id).second = none)
    (admitted : attempt = .second → Admitted s.scheduler (s.reads id)) (other : Nat) :
    Tallied (s.refuse id attempt checkedAt now).scheduler ((s.refuse id attempt checkedAt now).reads other) := by
  have runs : Runs s.scheduler (s.refuse id attempt checkedAt now).scheduler := runs_tick s.scheduler now later
  apply tallied_write settings s _ accounted runs id _ rfl
  apply tallied_over _ _ (.answered (rateLimitedResponse (s.reads id).messages.unavailable
    (some (s.cooldownUntil - checkedAt).ceil))) rfl rfl
  intro _ _ _
  cases attempt with
  | first =>
      obtain ⟨first, second⟩ := fresh rfl
      exact .uncounted (by simp [Read.finish, pending]) first second
  | second =>
      exact .admitted (by simp [Read.finish, pending]) (admitted_runs settings s.scheduler _ accounted.invariant runs
        (s.reads id) (accounted.budgets.reads id) (admitted rfl))

end SchwabGateway.Reads
