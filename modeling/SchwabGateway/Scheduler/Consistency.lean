import SchwabGateway.Scheduler.Stage

set_option autoImplicit false

namespace SchwabGateway.Scheduler

variable {α ε : Type}

theorem justified_keeps (job next : Job α ε) (ledger after : Ledger) (requested still : Bool)
    (outcome : Outcome α ε) (result : job.result ≠ .pending → next.result = job.result)
    (timedOut : job.queueTimedOut = true → next.queueTimedOut = true)
    (admitted : ledger.admittedAt = none → after.admittedAt = none)
    (cancelled : requested = true → still = true)
    (shutdown : ledger.removedByShutdown = true → after.removedByShutdown = true)
    (released : ledger.slotReleases = 1 → after.slotReleases = 1)
    (justified : Justified job ledger requested outcome) : Justified next after still outcome := by
  cases outcome with
  | returned value =>
      have same : job.result = .result value := justified
      exact (result (by simp [same])).trans same
  | raised error =>
      cases error with
      | valueError message => exact admitted justified
      | capacity message => exact admitted justified
      | queueTimeout message => exact ⟨justified.1, timedOut justified.2⟩
      | upstreamTimeout message =>
          have same : job.result = .exception (.upstreamTimeout message) := justified
          exact (result (by simp [same])).trans same
      | operation error =>
          have same : job.result = .exception (.operation error) := justified
          exact (result (by simp [same])).trans same
      | cancelled =>
          rcases justified with wanted | down | ⟨same, slot⟩
          · exact .inl (cancelled wanted)
          · exact .inr (.inl (shutdown down))
          · exact .inr (.inr ⟨(result (by simp [same])).trans same, released slot⟩)

theorem consistent_mono (clock now : ℚ) (later : clock ≤ now) (v : View α ε)
    (before : Consistent clock v) : Consistent now v := by
  refine ⟨job_stage_mono clock now later _ _ _ _ before.stage, ?_⟩
  have caller := before.caller
  revert caller
  cases v.caller with
  | absent => exact id
  | waitingStarted timerFired cancelled =>
      rintro ⟨same, admitted, fired, removed⟩
      exact ⟨same, admitted, fun set => le_trans (fired set) later, removed⟩
  | waitingResult cancelled => exact id
  | ended outcome => exact id

theorem consistent_absent (clock : ℚ) : Consistent clock (View.absent : View α ε) :=
  ⟨.absent rfl, rfl⟩

theorem consistent_refuse (clock : ℚ) (error : Raised ε)
    (refusal : (∃ message, error = .valueError message) ∨ ∃ message, error = .capacity message) :
    Consistent clock ((View.absent : View α ε).refuse error) := by
  refine ⟨.absent rfl, ?_⟩
  obtain ⟨message, rfl⟩ | ⟨message, rfl⟩ := refusal
  · rfl
  · rfl

theorem consistent_enqueue (clock : ℚ) (request : Request) (enqueuedAt : ℚ) :
    Consistent clock ((View.absent : View α ε).enqueue request enqueuedAt) := by
  refine ⟨.queued enqueuedAt rfl rfl rfl rfl, rfl, ?_, ?_, ?_⟩
  · simp [View.enqueue]
  · simp
  · simp [View.enqueue, View.absent]

theorem stage_queued (clock : ℚ) (job : Job α ε) (lifecycle : Lifecycle) (operation : Operation α ε)
    (ledger : Ledger) (stage : JobStage clock job lifecycle operation ledger)
    (queued : job.state = .queued) :
    lifecycle = .none ∧ operation = .notCreated ∧
      (∃ admittedAt : ℚ, ledger = { admittedAt := some admittedAt }) ∧
      job.started = .pending ∧ job.result = .pending ∧ job.queueTimedOut = false := by
  cases stage with
  | absent same => simp [same, Job.absent] at queued
  | queued admittedAt _ started result timely => exact ⟨rfl, rfl, ⟨admittedAt, rfl⟩, started, result, timely⟩
  | created _ _ state => simp [state] at queued
  | waiting _ _ _ _ state => simp [state] at queued
  | draining _ _ _ _ _ state => simp [state] at queued
  | ran _ _ _ _ _ _ state => simp [state] at queued
  | expired _ _ state => simp [state] at queued
  | removed _ _ state => simp [state] at queued

theorem caller_from_queued (clock : ℚ) (job next : Job α ε) (ledger after : Ledger) (requested : Bool)
    (caller : Caller α ε) (queued : job.state = .queued) (result : job.result = .pending)
    (timely : job.queueTimedOut = false) (fresh : ledger.slotReleases = 0)
    (deadline : next.queueDeadline = job.queueDeadline)
    (admitted : after.admittedAt = ledger.admittedAt)
    (removed : after.removed = true → after.removedByShutdown = true)
    (shutdown : ledger.removedByShutdown = true → after.removedByShutdown = true)
    (owed : CallerStage clock job ledger requested caller) :
    CallerStage clock next after requested caller := by
  cases caller with
  | absent => exact admitted.trans owed
  | waitingStarted timerFired cancelled =>
      exact ⟨owed.1, by rw [admitted]; exact owed.2.1, by rw [deadline]; exact owed.2.2.1, removed⟩
  | waitingResult cancelled => exact absurd queued owed.2.2.1
  | ended outcome =>
      exact justified_keeps job next ledger after requested requested outcome
        (fun done => absurd result done) (fun yes => by simp [timely] at yes)
        (fun none => admitted.trans none) id shutdown (fun one => by simp [fresh] at one) owed

theorem consistent_start (now : ℚ) (v : View α ε) (before : Consistent now v)
    (queued : v.job.state = .queued) (live : now < v.job.queueDeadline) : Consistent now (v.start now) := by
  obtain ⟨lifecycle, operation, ⟨admittedAt, ledger⟩, started, result, timely⟩ :=
    stage_queued now _ _ _ _ before.stage queued
  have owed := before.caller
  obtain ⟨job, caller, _, _, _, requested⟩ := v
  dsimp only at lifecycle operation ledger
  subst lifecycle operation ledger
  exact ⟨.created admittedAt now rfl rfl result timely live (le_refl now),
    caller_from_queued now job _ _ _ requested caller queued result timely rfl rfl rfl
      (fun removed => by simp [View.start] at removed) id owed⟩

theorem consistent_expire (now : ℚ) (v : View α ε) (before : Consistent now v)
    (queued : v.job.state = .queued) (late : v.job.queueDeadline ≤ now) : Consistent now (v.expire now) := by
  obtain ⟨lifecycle, operation, ⟨admittedAt, ledger⟩, started, result, timely⟩ :=
    stage_queued now _ _ _ _ before.stage queued
  have owed := before.caller
  obtain ⟨job, caller, _, _, _, requested⟩ := v
  dsimp only at lifecycle operation ledger started result
  subst lifecycle operation ledger
  refine ⟨.expired admittedAt now rfl ?_ ?_ rfl late (le_refl now),
    caller_from_queued now job _ _ _ requested caller queued result timely rfl rfl rfl ?_ id owed⟩
  · simp [View.expire, started, Future.setIfPending]
  · simp [View.expire, result, Future.cancel]
  · simp [View.expire, View.release]

theorem stage_remove (now : ℚ) (v : View α ε) (before : Consistent now v)
    (queued : v.job.state = .queued) (byShutdown : Bool) :
    JobStage now v.remove.job v.remove.lifecycle v.remove.operation
      { v.remove.ledger with removedByShutdown := byShutdown } := by
  obtain ⟨lifecycle, operation, ⟨admittedAt, ledger⟩, started, result, timely⟩ :=
    stage_queued now _ _ _ _ before.stage queued
  obtain ⟨job, caller, _, _, _, requested⟩ := v
  dsimp only at lifecycle operation ledger started result
  subst lifecycle operation ledger
  refine .removed admittedAt byShutdown rfl ?_ ?_ timely
  · simp [View.remove, started, Future.cancel]
  · simp [View.remove, result, Future.cancel]

theorem consistent_remove_for_shutdown (now : ℚ) (v : View α ε) (before : Consistent now v)
    (queued : v.job.state = .queued) : Consistent now v.removeForShutdown := by
  obtain ⟨lifecycle, operation, ⟨admittedAt, ledger⟩, started, result, timely⟩ :=
    stage_queued now _ _ _ _ before.stage queued
  refine ⟨stage_remove now v before queued true, ?_⟩
  refine caller_from_queued now v.job _ v.ledger _ v.cancelRequested v.caller queued result timely ?_ rfl
    rfl (fun _ => rfl) (fun _ => rfl) before.caller
  simp [ledger]

theorem stage_result_cancelled (clock : ℚ) (job : Job α ε) (lifecycle : Lifecycle)
    (operation : Operation α ε) (ledger : Ledger) (stage : JobStage clock job lifecycle operation ledger)
    (result : job.result = .cancelled) (timely : job.queueTimedOut = false) :
    job.state = .finished ∧ (ledger.removed = true ∨ ledger.slotReleases = 1) := by
  cases stage with
  | absent same => simp [same, Job.absent] at result
  | queued _ _ _ pending => simp [pending] at result
  | created _ _ _ _ pending => simp [pending] at result
  | waiting _ _ _ _ _ _ pending => simp [pending] at result
  | draining _ _ _ _ _ _ _ told => simp [told] at result
  | ran _ _ _ _ _ _ state => exact ⟨state, .inr rfl⟩
  | expired _ _ _ _ _ overdue => simp [overdue] at timely
  | removed _ _ state => exact ⟨state, .inl rfl⟩

theorem stage_started_cancelled (clock : ℚ) (job : Job α ε) (lifecycle : Lifecycle)
    (operation : Operation α ε) (ledger : Ledger) (stage : JobStage clock job lifecycle operation ledger)
    (started : job.started = .cancelled) : job.state = .finished ∧ ledger.removed = true := by
  cases stage with
  | absent same => simp [same, Job.absent] at started
  | queued _ _ pending => simp [pending] at started
  | created _ _ _ set => simp [set] at started
  | waiting _ _ _ _ _ set => simp [set] at started
  | draining _ _ _ _ _ _ set => simp [set] at started
  | ran _ _ _ _ _ _ _ set => simp [set] at started
  | expired _ _ _ set => simp [set] at started
  | removed _ _ state => exact ⟨state, rfl⟩

theorem stage_operation_error (clock : ℚ) (job : Job α ε) (lifecycle : Lifecycle)
    (operation : Operation α ε) (ledger : Ledger) (error : ε)
    (stage : JobStage clock job lifecycle operation ledger)
    (result : job.result = .exception (.operation error)) :
    job.state = .finished ∧ job.started = .result () ∧ job.queueTimedOut = false ∧
      ledger.allocationReleases = 1 ∧ ledger.slotReleases = 1 := by
  cases stage with
  | absent same => simp [same, Job.absent] at result
  | queued admittedAt state started waiting timely => simp [waiting] at result
  | created admittedAt dispatchedAt state started waiting timely live past => simp [waiting] at result
  | waiting admittedAt dispatchedAt startedAt _ state started waiting timely live past known =>
      simp [waiting] at result
  | draining admittedAt dispatchedAt startedAt gaveUpAt _ state started told timely live past known
      overdue past' after =>
      simp [told] at result
  | ran admittedAt dispatchedAt startedAt completedAt gaveUpAt ending state started timely live past
      known verdict =>
      exact ⟨state, started, timely, rfl, rfl⟩
  | expired admittedAt expiredAt state started cancelled overdue late past => simp [cancelled] at result
  | removed admittedAt byShutdown state started cancelled timely => simp [cancelled] at result

theorem stage_started_exception (clock : ℚ) (job : Job α ε) (lifecycle : Lifecycle)
    (operation : Operation α ε) (ledger : Ledger) (stage : JobStage clock job lifecycle operation ledger)
    (error : Raised ε) (started : job.started = .exception error) :
    error = .queueTimeout queueWaitTimedOut ∧ job.queueTimedOut = true := by
  cases stage with
  | absent same => simp [same, Job.absent] at started
  | queued _ _ pending => simp [pending] at started
  | created _ _ _ set => simp [set] at started
  | waiting _ _ _ _ _ set => simp [set] at started
  | draining _ _ _ _ _ _ set => simp [set] at started
  | ran _ _ _ _ _ _ _ set => simp [set] at started
  | expired _ _ _ set _ overdue =>
      rw [set] at started
      exact ⟨(Future.exception.inj started).symm, overdue⟩
  | removed _ _ _ set => simp [set] at started

theorem stage_started_result (clock : ℚ) (job : Job α ε) (lifecycle : Lifecycle)
    (operation : Operation α ε) (ledger : Ledger) (stage : JobStage clock job lifecycle operation ledger)
    (started : job.started = .result ()) : job.state ≠ .queued ∧ job.queueTimedOut = false := by
  cases stage with
  | absent same => simp [same, Job.absent] at started
  | queued _ _ pending => simp [pending] at started
  | created _ _ state _ _ timely => exact ⟨by simp [state], timely⟩
  | waiting _ _ _ _ state _ _ timely => exact ⟨by simp [state], timely⟩
  | draining _ _ _ _ _ state _ _ timely => exact ⟨by simp [state], timely⟩
  | ran _ _ _ _ _ _ state _ timely => exact ⟨by simp [state], timely⟩
  | expired _ _ _ set => simp [set] at started
  | removed _ _ _ set => simp [set] at started

theorem stage_result_exception (clock : ℚ) (job : Job α ε) (lifecycle : Lifecycle)
    (operation : Operation α ε) (ledger : Ledger) (stage : JobStage clock job lifecycle operation ledger)
    (error : Raised ε) (result : job.result = .exception error) :
    (∃ own, error = .operation own) ∨ error = .upstreamTimeout executionTimedOut := by
  cases stage with
  | absent same => simp [same, Job.absent] at result
  | queued _ _ _ pending => simp [pending] at result
  | created _ _ _ _ pending => simp [pending] at result
  | waiting _ _ _ _ _ _ pending => simp [pending] at result
  | draining _ _ _ _ _ _ _ told =>
      rw [told] at result
      exact .inr (Future.exception.inj result).symm
  | ran _ _ _ _ _ ending _ _ _ _ _ _ verdict =>
      cases verdict with
      | inBudget _ settled =>
          cases ending with
          | value value => simp [settled, settledFuture] at result
          | error own =>
              rw [settled] at result
              exact .inl ⟨own, (Future.exception.inj result).symm⟩
          | cancelled => simp [settled, settledFuture] at result
      | late _ settled =>
          rw [settled] at result
          exact .inr (Future.exception.inj result).symm
      | gaveUp _ _ _ settled =>
          rw [settled] at result
          exact .inr (Future.exception.inj result).symm
  | expired _ _ _ _ set => simp [set] at result
  | removed _ _ _ _ set => simp [set] at result

theorem consistent_finish (now : ℚ) (v : View α ε) (before : Consistent now v) (outcome : Outcome α ε)
    (justified : Justified v.job v.ledger v.cancelRequested outcome) : Consistent now (v.finish outcome) :=
  ⟨before.stage, justified⟩

-- callerCancelled is a field of the job that no stage mentions.
theorem stage_flag (now : ℚ) (job : Job α ε) (lifecycle : Lifecycle) (operation : Operation α ε)
    (ledger : Ledger) (stage : JobStage now job lifecycle operation ledger) (running : job.state = .running) :
    JobStage now { job with callerCancelled := true } lifecycle operation ledger := by
  cases stage with
  | absent same => simp [same, Job.absent] at running
  | queued _ state => simp [state] at running
  | created admittedAt dispatchedAt state started result timely live past =>
      exact .created admittedAt dispatchedAt state started result timely live past
  | waiting admittedAt dispatchedAt startedAt _ state started result timely live past known =>
      exact .waiting admittedAt dispatchedAt startedAt operation state started result timely live past known
  | draining admittedAt dispatchedAt startedAt gaveUpAt _ state started result timely live past known
      overdue told after =>
      exact .draining admittedAt dispatchedAt startedAt gaveUpAt operation state started result timely
        live past known overdue told after
  | ran _ _ _ _ _ _ state => simp [state] at running
  | expired _ _ state => simp [state] at running
  | removed _ _ state => simp [state] at running

theorem consistent_caller_cancelled (now : ℚ) (v : View α ε) (before : Consistent now v)
    (reason : v.cancelRequested = true ∨ (v.job.state = .finished ∧
      (v.ledger.removedByShutdown = true ∨ (v.job.result = .cancelled ∧ v.ledger.slotReleases = 1)))) :
    Consistent now v.callerCancelled := by
  have justified : ∀ job ledger, (job.result = v.job.result) → (ledger.removedByShutdown = v.ledger.removedByShutdown) →
      (ledger.slotReleases = v.ledger.slotReleases) →
      Justified job ledger v.cancelRequested (.raised .cancelled : Outcome α ε) := by
    intro job ledger result shutdown slot
    rcases reason with wanted | ⟨_, down | ⟨cancelled, one⟩⟩
    · exact .inl wanted
    · exact .inr (.inl (shutdown.trans down))
    · exact .inr (.inr ⟨result.trans cancelled, slot.trans one⟩)
  unfold View.callerCancelled
  generalize stateEq : v.job.state = state
  cases state with
  | queued =>
      rcases reason with wanted | ⟨finished, _⟩
      · have stage := stage_remove now v before stateEq false
        obtain ⟨_, _, ⟨admittedAt, ledger⟩, _, _, _⟩ := stage_queued now _ _ _ _ before.stage stateEq
        refine ⟨?_, .inl wanted⟩
        have same : v.remove.ledger = { v.remove.ledger with removedByShutdown := false } := by
          simp [View.remove, View.release, ledger]
        rw [← same] at stage
        exact stage
      · simp [stateEq] at finished
  | running =>
      exact ⟨stage_flag now _ _ _ _ before.stage stateEq, justified _ _ rfl rfl rfl⟩
  | finished => exact consistent_finish now v before _ (justified _ _ rfl rfl rfl)

theorem consistent_await_result (now : ℚ) (v : View α ε) (before : Consistent now v)
    (admitted : v.ledger.admittedAt ≠ none) (state : v.job.state ≠ .queued)
    (timely : v.job.queueTimedOut = false) (unwanted : v.cancelRequested = false)
    (removed : v.ledger.removed = true → v.ledger.removedByShutdown = true) :
    Consistent now v.awaitResult := by
  unfold View.awaitResult
  generalize resultEq : v.job.result = result
  cases result with
  | pending => exact ⟨before.stage, unwanted.symm, admitted, state, timely, removed⟩
  | result value => exact consistent_finish now v before _ resultEq
  | exception error =>
      refine consistent_finish now v before _ ?_
      obtain ⟨own, rfl⟩ | rfl := stage_result_exception now _ _ _ _ before.stage error resultEq
      · exact resultEq
      · exact resultEq
  | cancelled =>
      obtain ⟨finished, taken⟩ := stage_result_cancelled now _ _ _ _ before.stage resultEq timely
      refine consistent_caller_cancelled now v before (.inr ⟨finished, ?_⟩)
      cases taken with
      | inl taken => exact .inl (removed taken)
      | inr slot => exact .inr ⟨resultEq, slot⟩

theorem consistent_queue_timer (now : ℚ) (v : View α ε) (before : Consistent now v)
    (admitted : v.ledger.admittedAt ≠ none) (late : v.job.queueDeadline ≤ now)
    (unwanted : v.cancelRequested = false)
    (removed : v.ledger.removed = true → v.ledger.removedByShutdown = true) :
    Consistent now (v.queueTimerExpired now) := by
  unfold View.queueTimerExpired
  by_cases queued : v.job.state = .queued
  · have expired := consistent_expire now v before queued late
    simp only [if_pos queued]
    exact consistent_finish now _ expired _ ⟨rfl, rfl⟩
  · simp only [if_neg queued]
    by_cases timedOut : v.job.queueTimedOut = true
    · rw [if_pos timedOut]
      exact consistent_finish now v before _ ⟨rfl, timedOut⟩
    · rw [if_neg timedOut]
      exact consistent_await_result now v before admitted queued (by simpa using timedOut) unwanted removed

theorem consistent_resume (now : ℚ) (v : View α ε) (before : Consistent now v) :
    Consistent now (v.resume now) := by
  unfold View.resume
  have owed := before.caller
  revert owed
  generalize v.caller = caller
  intro owed
  cases caller with
  | absent => exact before
  | ended outcome => exact before
  | waitingStarted timerFired cancelled =>
      obtain ⟨wanted, admitted, fired, removed⟩ := owed
      cases cancelled with
      | true => simpa using consistent_caller_cancelled now v before (.inl wanted.symm)
      | false =>
          cases timerFired with
          | true =>
              simpa using consistent_queue_timer now v before admitted (fired rfl) wanted.symm removed
          | false =>
              simp only [Bool.false_eq_true, if_false]
              generalize startedEq : v.job.started = started
              cases started with
              | pending => exact before
              | result value =>
                  obtain ⟨state, timely⟩ := stage_started_result now _ _ _ _ before.stage startedEq
                  exact consistent_await_result now v before admitted state timely wanted.symm removed
              | exception error =>
                  obtain ⟨rfl, timedOut⟩ :=
                    stage_started_exception now _ _ _ _ before.stage error startedEq
                  exact consistent_finish now v before _ ⟨rfl, timedOut⟩
              | cancelled =>
                  obtain ⟨finished, taken⟩ :=
                    stage_started_cancelled now _ _ _ _ before.stage startedEq
                  exact consistent_caller_cancelled now v before (.inr ⟨finished, .inl (removed taken)⟩)
  | waitingResult cancelled =>
      obtain ⟨wanted, admitted, state, timely, removed⟩ := owed
      cases cancelled with
      | true => simpa using consistent_caller_cancelled now v before (.inl wanted.symm)
      | false => simpa using consistent_await_result now v before admitted state timely wanted.symm removed

theorem caller_keeps (clock : ℚ) (job next : Job α ε) (ledger after : Ledger) (requested : Bool)
    (caller : Caller α ε) (owed : CallerStage clock job ledger requested caller)
    (result : job.result ≠ .pending → next.result = job.result)
    (state : job.state ≠ .queued → next.state ≠ .queued)
    (timedOut : next.queueTimedOut = job.queueTimedOut)
    (deadline : next.queueDeadline = job.queueDeadline)
    (admitted : after.admittedAt = ledger.admittedAt) (removed : after.removed = ledger.removed)
    (shutdown : after.removedByShutdown = ledger.removedByShutdown)
    (released : ledger.slotReleases = 1 → after.slotReleases = 1) :
    CallerStage clock next after requested caller := by
  cases caller with
  | absent => exact admitted.trans owed
  | waitingStarted timerFired cancelled =>
      obtain ⟨wanted, entered, fired, taken⟩ := owed
      refine ⟨wanted, by rwa [admitted], by rwa [deadline], ?_⟩
      rwa [removed, shutdown]
  | waitingResult cancelled =>
      obtain ⟨wanted, entered, waited, timely, taken⟩ := owed
      refine ⟨wanted, by rwa [admitted], state waited, timedOut.trans timely, ?_⟩
      rwa [removed, shutdown]
  | ended outcome =>
      exact justified_keeps job next ledger after requested requested outcome result
        (fun yes => timedOut.trans yes) (fun none => admitted.trans none) id
        (fun yes => shutdown.trans yes) released owed

theorem stage_created (clock : ℚ) (job : Job α ε) (operation : Operation α ε) (ledger : Ledger)
    (stage : JobStage clock job .created operation ledger) :
    operation = .notCreated ∧ job.state = .running ∧ job.started = .result () ∧ job.result = .pending ∧
      job.queueTimedOut = false ∧ ∃ admittedAt dispatchedAt : ℚ, dispatchedAt < job.queueDeadline ∧
        ledger = { admittedAt := some admittedAt, dispatchedAt := some dispatchedAt } := by
  cases stage with
  | created admittedAt dispatchedAt state started result timely live past =>
      exact ⟨rfl, state, started, result, timely, admittedAt, dispatchedAt, live, rfl⟩

theorem stage_created_past (clock : ℚ) (job : Job α ε) (operation : Operation α ε) (ledger : Ledger)
    (stage : JobStage clock job .created operation ledger) (dispatchedAt : ℚ)
    (dispatched : ledger.dispatchedAt = some dispatchedAt) : dispatchedAt ≤ clock := by
  cases stage with
  | created admittedAt known state started result timely live past =>
      have same : known = dispatchedAt := Option.some.inj dispatched
      rwa [← same]

theorem consistent_start_run (now : ℚ) (v : View α ε) (before : Consistent now v) (startedAt : ℚ)
    (created : v.lifecycle = .created)
    (after : ∀ dispatchedAt, v.ledger.dispatchedAt = some dispatchedAt → dispatchedAt ≤ startedAt) :
    Consistent now (v.startRunJob startedAt now) := by
  have stage := before.stage
  rw [created] at stage
  obtain ⟨_, state, started, result, timely, admittedAt, dispatchedAt, live, ledger⟩ :=
    stage_created now _ _ _ stage
  have owed := before.caller
  have past := after dispatchedAt (by simp [ledger])
  obtain ⟨job, caller, _, _, _, requested⟩ := v
  dsimp only at state started result timely live ledger owed
  subst ledger
  unfold View.startRunJob
  by_cases late : executionDeadline job startedAt - now ≤ 0
  · simp only [if_pos late]
    refine ⟨?_, caller_keeps now job _ _ _ requested caller owed ?_ ?_ rfl rfl rfl rfl rfl id⟩
    · refine .draining admittedAt dispatchedAt startedAt now .created state started ?_ timely live past
        trivial (sub_nonpos.mp late) (le_refl now) (by simp)
      simp [View.giveUp, View.reportTimeout, result, Future.setIfPending]
    · exact fun done => absurd result done
    · exact fun other => other
  · simp only [if_neg late]
    refine ⟨?_, owed⟩
    exact .waiting admittedAt dispatchedAt startedAt .created state started result timely live past trivial

theorem consistent_wake_run (now : ℚ) (v : View α ε) (before : Consistent now v)
    (ready : lifecycleReady v.operation now v.lifecycle = true) : Consistent now (v.wakeRunJob now) := by
  obtain ⟨stage, owed⟩ := before
  obtain ⟨job, caller, lifecycle, operation, ledger, requested⟩ := v
  dsimp only at stage owed ready
  cases stage with
  | absent same => simp [lifecycleReady] at ready
  | queued => simp [lifecycleReady] at ready
  | created => simp [lifecycleReady] at ready
  | ran => simp [lifecycleReady] at ready
  | expired => simp [lifecycleReady] at ready
  | removed => simp [lifecycleReady] at ready
  | waiting admittedAt dispatchedAt startedAt _ state started result timely live past known =>
      have unfinished : ∀ next : Operation α ε, next.Live now → next.isDone = false →
          executionDeadline job startedAt ≤ now →
          Consistent now ((View.mk job caller (.waiting startedAt (executionDeadline job startedAt)) next
            { admittedAt := some admittedAt, dispatchedAt := some dispatchedAt,
              invocations := next.invocations } requested).giveUp startedAt
                (executionDeadline job startedAt) now) := by
        intro next alive pending overdue
        refine ⟨?_, caller_keeps now job _ _ _ requested caller owed ?_ ?_ rfl rfl rfl rfl rfl id⟩
        · refine .draining admittedAt dispatchedAt startedAt now next state started ?_ timely live past
            alive overdue (le_refl now) ?_
          · simp [View.giveUp, View.reportTimeout, result, Future.setIfPending]
          · intro ending completedAt done
            simp [done, Operation.isDone] at pending
        · exact fun done => absurd result done
        · exact fun other => other
      cases operation with
      | notCreated => exact False.elim known
      | created => exact unfinished .created known rfl (by simpa [lifecycleReady, Operation.isDone] using ready)
      | running => exact unfinished .running known rfl (by simpa [lifecycleReady, Operation.isDone] using ready)
      | done ending completedAt =>
          by_cases early : completedAt ≤ executionDeadline job startedAt
          · simp only [View.wakeRunJob, if_pos early]
            refine ⟨?_, caller_keeps now job _ _ _ requested caller owed ?_ ?_ rfl rfl rfl rfl rfl ?_⟩
            · refine .ran admittedAt dispatchedAt startedAt completedAt none ending rfl started timely live
                past known (.inBudget early ?_)
              simp [View.releaseSlot, View.settleResult, result, Future.setIfPending]
            · exact fun done => absurd result done
            · exact fun _ => by simp [View.releaseSlot, View.settleResult]
            · exact fun one => by simp at one
          · simp only [View.wakeRunJob, if_neg early]
            refine ⟨?_, caller_keeps now job _ _ _ requested caller owed ?_ ?_ rfl rfl rfl rfl rfl ?_⟩
            · refine .ran admittedAt dispatchedAt startedAt completedAt none ending rfl started timely live
                past known (.late (not_le.mp early) ?_)
              simp [View.releaseSlot, View.reportTimeout, result, Future.setIfPending]
            · exact fun done => absurd result done
            · exact fun _ => by simp [View.releaseSlot, View.reportTimeout]
            · exact fun one => by simp at one
  | draining admittedAt dispatchedAt startedAt gaveUpAt _ state started result timely live past known
      overdue told after =>
      cases operation with
      | notCreated => exact False.elim known
      | created => simp [lifecycleReady, Operation.isDone] at ready
      | running => simp [lifecycleReady, Operation.isDone] at ready
      | done ending completedAt =>
          refine ⟨?_, caller_keeps now job _ _ _ requested caller owed ?_ ?_ rfl rfl rfl rfl rfl ?_⟩
          · exact .ran admittedAt dispatchedAt startedAt completedAt (some gaveUpAt) ending rfl started
              timely live past known (.gaveUp gaveUpAt overdue (after ending completedAt rfl) result)
          · exact fun _ => rfl
          · exact fun _ => by simp [View.wakeRunJob, View.releaseSlot]
          · exact fun one => by simp at one

theorem consistent_start_operation (now : ℚ) (v : View α ε) (before : Consistent now v)
    (created : v.operation = .created) : Consistent now v.startOperation := by
  obtain ⟨stage, owed⟩ := before
  obtain ⟨job, caller, lifecycle, operation, ledger, requested⟩ := v
  dsimp only at stage owed created
  subst created
  cases stage with
  | waiting admittedAt dispatchedAt startedAt _ state started result timely live past known =>
      refine ⟨?_, caller_keeps now job _ _ _ requested caller owed (fun _ => rfl) id rfl rfl rfl rfl rfl id⟩
      exact .waiting admittedAt dispatchedAt startedAt .running state started result timely live past trivial
  | draining admittedAt dispatchedAt startedAt gaveUpAt _ state started result timely live past known
      overdue told after =>
      refine ⟨?_, caller_keeps now job _ _ _ requested caller owed (fun _ => rfl) id rfl rfl rfl rfl rfl id⟩
      exact .draining admittedAt dispatchedAt startedAt gaveUpAt .running state started result timely live
        past trivial overdue told (by simp)

theorem consistent_complete_operation (now : ℚ) (v : View α ε) (before : Consistent now v)
    (ending : Ending α ε) (running : v.operation = .running) :
    Consistent now { v with operation := .done ending now } := by
  obtain ⟨stage, owed⟩ := before
  obtain ⟨job, caller, lifecycle, operation, ledger, requested⟩ := v
  dsimp only at stage owed running
  subst running
  cases stage with
  | waiting admittedAt dispatchedAt startedAt _ state started result timely live past known =>
      exact ⟨.waiting admittedAt dispatchedAt startedAt (.done ending now) state started result timely live
        past (le_refl now), owed⟩
  | draining admittedAt dispatchedAt startedAt gaveUpAt _ state started result timely live past known
      overdue told after =>
      refine ⟨.draining admittedAt dispatchedAt startedAt gaveUpAt (.done ending now) state started result
        timely live past (le_refl now) overdue told ?_, owed⟩
      intro other completedAt same
      simp only [Operation.done.injEq] at same
      rw [← same.2]
      exact told

theorem consistent_timer (now : ℚ) (v : View α ε) (before : Consistent now v)
    (late : v.job.queueDeadline ≤ now) : Consistent now { v with caller := v.caller.fireTimer } := by
  obtain ⟨stage, owed⟩ := before
  obtain ⟨job, caller, lifecycle, operation, ledger, requested⟩ := v
  refine ⟨stage, ?_⟩
  cases caller with
  | absent => exact owed
  | waitingStarted timerFired cancelled => exact ⟨owed.1, owed.2.1, fun _ => late, owed.2.2.2⟩
  | waitingResult cancelled => exact owed
  | ended outcome => exact owed

theorem consistent_cancel (now : ℚ) (v : View α ε) (before : Consistent now v) :
    Consistent now v.requestCancel := by
  obtain ⟨stage, owed⟩ := before
  obtain ⟨job, caller, lifecycle, operation, ledger, requested⟩ := v
  refine ⟨stage, ?_⟩
  cases caller with
  | absent => exact owed
  | waitingStarted timerFired cancelled => exact ⟨rfl, owed.2⟩
  | waitingResult cancelled => exact ⟨rfl, owed.2⟩
  | ended outcome =>
      exact justified_keeps job job ledger ledger requested true outcome (fun _ => rfl) id id
        (fun _ => rfl) id id owed

theorem consistent_step (now : ℚ) (v w : View α ε) (step : ViewStep now v w)
    (before : Consistent now v) : Consistent now w := by
  cases step with
  | dispatch queued live => exact consistent_start now v before queued live
  | expire queued late => exact consistent_expire now v before queued late
  | shutdown queued => exact consistent_remove_for_shutdown now v before queued
  | timer armed late => exact consistent_timer now v before late
  | cancel waiting => exact consistent_cancel now v before
  | resume waiting => exact consistent_resume now v before
  | startRun startedAt created early after => exact consistent_start_run now v before startedAt created after
  | wakeRun ready => exact consistent_wake_run now v before ready
  | startOperation created => exact consistent_start_operation now v before created
  | completeOperation ending running => exact consistent_complete_operation now v before ending running

theorem consistent_steps (now : ℚ) (v w : View α ε) (steps : ViewSteps now v w)
    (before : Consistent now v) : Consistent now w := by
  induction steps with
  | refl => exact before
  | tail _ step ih => exact consistent_step now _ _ step ih

theorem consistent_arrival (now : ℚ) (v : View α ε) (arrival : Arrival now v) : Consistent now v := by
  cases arrival with
  | refused error refusal => exact consistent_refuse now error refusal
  | admitted request enqueuedAt early _ moved =>
      exact consistent_steps now _ v moved (consistent_enqueue now request enqueuedAt)

end SchwabGateway.Scheduler
