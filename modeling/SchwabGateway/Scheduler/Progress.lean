import SchwabGateway.Scheduler.Accounting

set_option autoImplicit false

namespace SchwabGateway.Scheduler

open SchwabGateway.Library

variable {α ε : Type}

-- The steps the event loop owes to one call once they are possible.
def lifecycleSteps (id : Nat) : Set (Event α ε) :=
  { event | (∃ startedAt now, event = .startLifecycle id startedAt now) ∨ ∃ now, event = .wakeLifecycle id now }

def operationSteps (id : Nat) : Set (Event α ε) := { event | ∃ now, event = .startOperation id now }

def callerSteps (id : Nat) : Set (Event α ε) := { event | ∃ now, event = .resumeCaller id now }

def timerSteps (id : Nat) : Set (Event α ε) := { event | ∃ now, event = .timerFires id now }

abbrev Run (α ε : Type) := (scheduler α ε).Execution undisturbed

theorem dispatched_known (s : State α ε) (invariant : Invariant s) (id : Nat)
    (dispatched : (s.ledger id).dispatchedAt ≠ none) : id < s.next := by
  by_contra late
  have absent := invariant.fresh id (Nat.le_of_not_lt late)
  have unknown : (s.ledger id).dispatchedAt = none := congrArg (fun v => v.ledger.dispatchedAt) absent
  exact dispatched unknown

theorem launched_known (s : State α ε) (invariant : Invariant s) (id : Nat)
    (launched : s.operations id ≠ .notCreated) : id < s.next := by
  by_contra late
  have absent := invariant.fresh id (Nat.le_of_not_lt late)
  exact launched (congrArg View.operation absent)

theorem stage_dispatched (clock : ℚ) (job : Job α ε) (lifecycle : Lifecycle) (operation : Operation α ε)
    (ledger : Ledger) (stage : JobStage clock job lifecycle operation ledger) :
    ledger.dispatchedAt ≠ none ↔ lifecycle = .created ∨ operation ≠ .notCreated := by
  cases stage with
  | absent same => simp
  | queued admittedAt state started result timely => simp
  | created admittedAt dispatchedAt state started result timely live past => simp
  | waiting admittedAt dispatchedAt startedAt _ state started result timely live past known =>
      have launched : operation ≠ .notCreated := by
        rintro rfl
        exact known
      simp [launched]
  | draining admittedAt dispatchedAt startedAt gaveUpAt _ state started result timely live past known =>
      have launched : operation ≠ .notCreated := by
        rintro rfl
        exact known
      simp [launched]
  | ran admittedAt dispatchedAt startedAt completedAt gaveUpAt ending state started timely live past => simp
  | expired admittedAt expiredAt state started result overdue late past => simp
  | removed admittedAt byShutdown state started result timely => simp

theorem stage_invocations (clock : ℚ) (job : Job α ε) (lifecycle : Lifecycle) (operation : Operation α ε)
    (ledger : Ledger) (stage : JobStage clock job lifecycle operation ledger) :
    ledger.invocations = operation.invocations := by
  cases stage <;> rfl

theorem start_lifecycle_enabled (s : State α ε) (id : Nat) (created : s.lifecycles id = .created) :
    ∃ event, event ∈ (lifecycleSteps id : Set (Event α ε)) ∧ (scheduler α ε).enabled s event :=
  ⟨.startLifecycle id s.clock s.clock, .inl ⟨_, _, rfl⟩, le_refl _, created, le_refl _, le_refl _⟩

theorem wake_lifecycle_enabled (s : State α ε) (id : Nat)
    (ready : lifecycleReady (s.operations id) s.clock (s.lifecycles id) = true) :
    ∃ event, event ∈ (lifecycleSteps id : Set (Event α ε)) ∧ (scheduler α ε).enabled s event :=
  ⟨.wakeLifecycle id s.clock, .inr ⟨_, rfl⟩, le_refl _, ready⟩

theorem start_run_launches (s : State α ε) (id : Nat) (startedAt now : ℚ) :
    (startRunJob s id startedAt now).operations id = .created := by
  have seen := congrArg View.operation (view_start_run_job s id id startedAt now)
  rw [if_pos rfl] at seen
  have launched : ((view s id).startRunJob startedAt now).operation = .created := by
    simp only [View.startRunJob]
    split <;> rfl
  exact seen.trans launched

theorem wake_done_finishes (s : State α ε) (invariant : Invariant s) (id : Nat) (now : ℚ) (later : s.clock ≤ now)
    (done : (s.operations id).isDone = true)
    (ready : lifecycleReady (s.operations id) now (s.lifecycles id) = true) :
    ((wakeRunJob (s.at now) id now).jobs id).state = .finished := by
  have before := consistent_mono s.clock now later _ (invariant.consistent id)
  have woken := consistent_wake_run now (view s id) before ready
  have rest := views_after_wake (s.at now) (balanced_at s now invariant.balanced) id id now ready
  rw [if_pos rfl] at rest
  refine (keeps_steps now _ _ rest woken).finished ?_
  cases operationEq : s.operations id with
  | notCreated => simp [operationEq, Operation.isDone] at done
  | created => simp [operationEq, Operation.isDone] at done
  | running => simp [operationEq, Operation.isDone] at done
  | done ending completedAt =>
      cases lifecycleEq : s.lifecycles id with
      | none => simp [lifecycleEq, lifecycleReady] at ready
      | created => simp [lifecycleEq, lifecycleReady] at ready
      | ended startedAt deadline => simp [lifecycleEq, lifecycleReady] at ready
      | cancelledBeforeStart => simp [lifecycleEq, lifecycleReady] at ready
      | waiting startedAt deadline =>
          by_cases early : completedAt ≤ deadline
          · rw [wake_in_budget (view (s.at now) id) startedAt deadline completedAt now ending lifecycleEq
              operationEq early]
            rfl
          · rw [wake_late (view (s.at now) id) startedAt deadline completedAt now ending lifecycleEq
              operationEq early]
            rfl
      | draining startedAt deadline =>
          rw [wake_drained (view (s.at now) id) startedAt deadline completedAt now ending lifecycleEq
            operationEq]
          rfl

theorem caller_cancelled_phase (v : View α ε) : v.callerCancelled.caller.phase = 4 := by
  unfold View.callerCancelled
  cases v.job.state <;> rfl

theorem await_result_phase (v : View α ε) : 3 ≤ v.awaitResult.caller.phase := by
  unfold View.awaitResult
  cases v.job.result with
  | pending => exact Nat.le_refl 3
  | result value => exact Nat.le_succ 3
  | exception error => exact Nat.le_succ 3
  | cancelled => exact le_of_le_of_eq (Nat.le_succ 3) (caller_cancelled_phase v).symm

theorem resume_after_timer (v : View α ε) (now : ℚ) (fired : v.caller.phase = 2) :
    3 ≤ (v.resume now).caller.phase := by
  cases callerEq : v.caller with
  | absent => simp [callerEq, Caller.phase] at fired
  | waitingResult cancelled => simp [callerEq, Caller.phase] at fired
  | ended outcome => simp [callerEq, Caller.phase] at fired
  | waitingStarted timerFired cancelled =>
      cases timerFired with
      | false => simp [callerEq, Caller.phase] at fired
      | true =>
          cases cancelled with
          | true =>
              have same : v.resume now = v.callerCancelled := by simp [View.resume, callerEq]
              rw [same, caller_cancelled_phase]
              exact Nat.le_succ 3
          | false =>
              have same : v.resume now = v.queueTimerExpired now := by simp [View.resume, callerEq]
              have rest : ∀ w : View α ε,
                  3 ≤ (if w.job.queueTimedOut then w.finish (.raised (.queueTimeout queueWaitTimedOut))
                    else w.awaitResult).caller.phase := by
                intro w
                split
                · exact Nat.le_succ 3
                · exact await_result_phase w
              rw [same]
              exact rest _

theorem resume_settled (v : View α ε) (now : ℚ) (waiting : v.caller.phase = 3) (done : v.job.result ≠ .pending) :
    (v.resume now).caller.phase = 4 := by
  cases callerEq : v.caller with
  | absent => simp [callerEq, Caller.phase] at waiting
  | ended outcome => simp [callerEq, Caller.phase] at waiting
  | waitingStarted timerFired cancelled => cases timerFired <;> simp [callerEq, Caller.phase] at waiting
  | waitingResult cancelled =>
      cases cancelled with
      | true =>
          have same : v.resume now = v.callerCancelled := by simp [View.resume, callerEq]
          rw [same, caller_cancelled_phase]
      | false =>
          have same : v.resume now = v.awaitResult := by simp [View.resume, callerEq]
          rw [same]
          unfold View.awaitResult
          cases resultEq : v.job.result with
          | pending => exact absurd resultEq done
          | result value => rfl
          | exception error => rfl
          | cancelled => exact caller_cancelled_phase v

theorem resume_phase (s : State α ε) (id : Nat) (now : ℚ) :
    ((resumeCaller s id now).callers id).phase = ((view s id).resume now).caller.phase := by
  have seen := congrArg View.caller (view_resume s id id now)
  rw [if_pos rfl] at seen
  exact congrArg Caller.phase seen

theorem awaiting_dispatched (clock : ℚ) (v : View α ε) (consistent : Consistent clock v)
    (waiting : v.caller.phase = 3) (pending : v.job.result = .pending) : v.ledger.dispatchedAt ≠ none := by
  obtain ⟨job, caller, lifecycle, operation, ledger, requested⟩ := v
  obtain ⟨stage, owed⟩ := consistent
  dsimp only at stage owed waiting pending ⊢
  cases caller with
  | absent => simp [Caller.phase] at waiting
  | ended outcome => simp [Caller.phase] at waiting
  | waitingStarted timerFired cancelled => cases timerFired <;> simp [Caller.phase] at waiting
  | waitingResult cancelled =>
      obtain ⟨_, admitted, state, _, _⟩ := owed
      cases stage with
      | absent => exact absurd rfl admitted
      | queued _ queued => exact absurd queued state
      | created => simp
      | waiting => simp
      | draining => simp
      | ran => simp
      | expired _ _ _ _ result => simp [pending] at result
      | removed _ _ _ _ result => simp [pending] at result

theorem launched_waiting (clock : ℚ) (job : Job α ε) (lifecycle : Lifecycle) (operation : Operation α ε)
    (ledger : Ledger) (stage : JobStage clock job lifecycle operation ledger)
    (launched : operation ≠ .notCreated) (pending : job.result = .pending) :
    ∃ startedAt deadline, lifecycle = .waiting startedAt deadline := by
  cases stage with
  | waiting _ _ startedAt => exact ⟨startedAt, _, rfl⟩
  | draining _ _ _ _ _ _ _ result => simp [pending] at result
  | ran _ _ _ _ _ ending _ _ _ _ _ _ verdict =>
      cases verdict with
      | inBudget early settled => exact absurd (settled.symm.trans pending) (settled_future_done ending)
      | late late settled => simp [pending] at settled
      | gaveUp gaveUpAt overdue before settled => simp [pending] at settled
  | absent => exact absurd rfl launched
  | queued => exact absurd rfl launched
  | created => exact absurd rfl launched
  | expired => exact absurd rfl launched
  | removed => exact absurd rfl launched

theorem wake_settles (s : State α ε) (invariant : Invariant s) (id : Nat) (now : ℚ) (later : s.clock ≤ now)
    (startedAt deadline : ℚ) (waiting : s.lifecycles id = .waiting startedAt deadline)
    (ready : lifecycleReady (s.operations id) now (s.lifecycles id) = true) :
    ((wakeRunJob (s.at now) id now).jobs id).result ≠ .pending := by
  have before := consistent_mono s.clock now later _ (invariant.consistent id)
  have woken := consistent_wake_run now (view s id) before ready
  have rest := views_after_wake (s.at now) (balanced_at s now invariant.balanced) id id now ready
  rw [if_pos rfl] at rest
  have settled : ((view s id).wakeRunJob now).job.result ≠ .pending := by
    have overrun : (s.operations id).isDone = false → ((view s id).wakeRunJob now).job.result ≠ .pending := by
      intro unfinished
      rw [wake_overrun (view s id) startedAt deadline now waiting unfinished]
      exact set_if_pending_settled _ _ (by simp)
    cases operationEq : s.operations id with
    | notCreated => exact overrun (by rw [operationEq]; rfl)
    | created => exact overrun (by rw [operationEq]; rfl)
    | running => exact overrun (by rw [operationEq]; rfl)
    | done ending completedAt =>
        by_cases early : completedAt ≤ deadline
        · rw [wake_in_budget (view s id) startedAt deadline completedAt now ending waiting operationEq early]
          exact set_if_pending_settled _ _ (settled_future_done ending)
        · rw [wake_late (view s id) startedAt deadline completedAt now ending waiting operationEq early]
          exact set_if_pending_settled _ _ (by simp)
  have same := (keeps_steps now _ _ rest woken).result settled
  intro pending
  exact settled (same.symm.trans pending)

theorem phase_bounded (caller : Caller α ε) : caller.phase ≤ 4 := by
  cases caller with
  | waitingStarted timerFired cancelled => cases timerFired <;> simp [Caller.phase]
  | absent => simp [Caller.phase]
  | waitingResult cancelled => simp [Caller.phase]
  | ended outcome => simp [Caller.phase]

theorem phase_ended (caller : Caller α ε) (done : caller.phase = 4) : ∃ outcome, caller = .ended outcome := by
  cases caller with
  | waitingStarted timerFired cancelled => cases timerFired <;> simp [Caller.phase] at done
  | absent => simp [Caller.phase] at done
  | waitingResult cancelled => simp [Caller.phase] at done
  | ended outcome => exact ⟨outcome, rfl⟩

theorem settled_ready (job : Job α ε) (caller : Caller α ε) (waiting : caller.phase = 3)
    (settled : job.result ≠ .pending) : callerReady job caller = true := by
  cases caller with
  | waitingStarted timerFired cancelled => cases timerFired <;> simp [Caller.phase] at waiting
  | absent => simp [Caller.phase] at waiting
  | ended outcome => simp [Caller.phase] at waiting
  | waitingResult cancelled =>
      have done : job.result.done = true := by
        cases resultEq : job.result <;> simp_all [Future.done]
      simp [callerReady, done]

section Fair

variable (run : Run α ε) (start : Invariant (run.state 0)) (id : Nat)

include start

theorem run_invariant (n : Nat) : Invariant (run.state n) :=
  run.invariant_always Invariant invariant_step start n

theorem run_keeps (n : Nat) (known : id < (run.state n).next) :
    Keeps (view (run.state n) id) (view (run.state (n + 1)) id) := by
  rw [run.follows n]
  exact keeps_perform _ _ (run.permitted n) (run_invariant run start n) (run.guarded n) id known

theorem run_stage (n : Nat) :
    JobStage (run.state n).clock ((run.state n).jobs id) ((run.state n).lifecycles id)
      ((run.state n).operations id) ((run.state n).ledger id) :=
  ((run_invariant run start n).consistent id).stage

theorem leads_to_launched (fair : run.WeaklyFair (lifecycleSteps id)) :
    run.LeadsTo (fun s => (s.ledger id).dispatchedAt ≠ none) (fun s => s.operations id ≠ .notCreated) := by
  have created : ∀ n, ((run.state n).ledger id).dispatchedAt ≠ none → (run.state n).operations id = .notCreated →
      (run.state n).lifecycles id = .created := by
    intro n dispatched waiting
    have either := (stage_dispatched _ _ _ _ _ (run_stage run start id n)).mp dispatched
    simpa [waiting] using either
  refine run.leads_to_cases _
    (fun s => (s.ledger id).dispatchedAt ≠ none ∧ s.operations id = .notCreated)
    (fun s => s.operations id ≠ .notCreated) _ ?_ ?_ ?_
  · refine run.leads_to_refl _ _ (fun n dispatched => ?_)
    by_cases waiting : (run.state n).operations id = .notCreated
    · exact .inl ⟨dispatched, waiting⟩
    · exact .inr waiting
  · refine run.leads_to_fair _ _ (lifecycleSteps id) fair ?_ ?_ ?_
    · intro n ⟨dispatched, _⟩
      have known := dispatched_known _ (run_invariant run start n) id dispatched
      have kept := (run_keeps run start id n known).dispatchedAt dispatched
      by_cases waiting : (run.state (n + 1)).operations id = .notCreated
      · refine .inl ⟨?_, waiting⟩
        intro lost
        exact dispatched (kept.symm.trans lost)
      · exact .inr waiting
    · exact fun n ⟨dispatched, waiting⟩ => start_lifecycle_enabled _ id (created n dispatched waiting)
    · intro n ⟨dispatched, waiting⟩ taken
      have guarded := run.guarded n
      rw [run.follows n]
      generalize run.event n = event at taken guarded
      obtain ⟨startedAt, now, rfl⟩ | ⟨now, rfl⟩ := taken
      · have launched := start_run_launches ((run.state n).at now) id startedAt now
        intro missing
        cases launched.symm.trans missing
      · have ready : lifecycleReady _ now ((run.state n).lifecycles id) = true := guarded.2
        rw [created n dispatched waiting] at ready
        cases ready
  · exact run.leads_to_self _

theorem leads_to_invoked (fair : run.WeaklyFair (operationSteps id)) :
    run.LeadsTo (fun s => s.operations id ≠ .notCreated) (fun s => (s.ledger id).invocations = 1) := by
  have split : ∀ n, (run.state n).operations id ≠ .notCreated →
      (run.state n).operations id = .created ∨ ((run.state n).ledger id).invocations = 1 := by
    intro n launched
    rw [stage_invocations _ _ _ _ _ (run_stage run start id n)]
    cases operationEq : (run.state n).operations id with
    | notCreated => exact absurd operationEq launched
    | created => exact .inl rfl
    | running => exact .inr rfl
    | done ending completedAt => exact .inr rfl
  refine run.leads_to_cases _ (fun s => s.operations id = .created) (fun s => (s.ledger id).invocations = 1) _
    (run.leads_to_refl _ _ split) ?_ (run.leads_to_self _)
  refine run.leads_to_fair _ _ (operationSteps id) fair ?_ ?_ ?_
  · intro n created
    have launched : (run.state n).operations id ≠ .notCreated := by simp [created]
    have known := launched_known _ (run_invariant run start n) id launched
    exact split (n + 1) ((run_keeps run start id n known).launched launched)
  · exact fun n created => ⟨.startOperation id (run.state n).clock, ⟨_, rfl⟩, le_refl _, created⟩
  · intro n created taken
    have stage := run_stage run start id (n + 1)
    rw [stage_invocations _ _ _ _ _ stage, run.follows n]
    generalize run.event n = event at taken
    obtain ⟨now, rfl⟩ := taken
    have seen := congrArg View.operation (view_start_operation ((run.state n).at now) id id)
    rw [if_pos rfl] at seen
    exact congrArg Operation.invocations seen

theorem leads_to_released (fair : run.WeaklyFair (lifecycleSteps id)) :
    run.LeadsTo (fun s => (s.operations id).isDone = true) (fun s => (s.ledger id).slotReleases = 1) := by
  have split : ∀ n, ((run.state n).operations id).isDone = true →
      ((run.state n).jobs id).state = .running ∧
        (∀ now, lifecycleReady ((run.state n).operations id) now ((run.state n).lifecycles id) = true) ∨
      ((run.state n).ledger id).slotReleases = 1 := by
    intro n done
    have stage := run_stage run start id n
    generalize (run.state n).operations id = operation at done stage
    generalize (run.state n).ledger id = ledger at stage
    generalize (run.state n).lifecycles id = lifecycle at stage
    cases stage with
    | waiting _ _ _ _ state => exact .inl ⟨state, fun _ => by simp [lifecycleReady, done]⟩
    | draining _ _ _ _ _ state => exact .inl ⟨state, fun _ => by simp [lifecycleReady, done]⟩
    | ran => exact .inr rfl
    | absent => cases done
    | queued => cases done
    | created => cases done
    | expired => cases done
    | removed => cases done
  have kept : ∀ n, ((run.state n).operations id).isDone = true → ((run.state (n + 1)).operations id).isDone = true := by
    intro n done
    have launched : (run.state n).operations id ≠ .notCreated := by
      intro missing
      simp [missing, Operation.isDone] at done
    have known := launched_known _ (run_invariant run start n) id launched
    have completed := (run_keeps run start id n known).completed
    cases operationEq : (run.state n).operations id with
    | notCreated => exact absurd operationEq launched
    | created => simp [operationEq, Operation.isDone] at done
    | running => simp [operationEq, Operation.isDone] at done
    | done ending completedAt =>
        have still : (run.state (n + 1)).operations id = .done ending completedAt :=
          completed ending completedAt operationEq
        rw [still]
        rfl
  refine run.leads_to_cases _
    (fun s => (s.operations id).isDone = true ∧ (s.jobs id).state = .running ∧
      ∀ now, lifecycleReady (s.operations id) now (s.lifecycles id) = true)
    (fun s => (s.ledger id).slotReleases = 1) _
    (run.leads_to_refl _ _ (fun n done => (split n done).imp_left (fun waiting => ⟨done, waiting⟩))) ?_
    (run.leads_to_self _)
  refine run.leads_to_fair _ _ (lifecycleSteps id) fair ?_ ?_ ?_
  · intro n here
    obtain ⟨done, _⟩ := here
    have still := kept n done
    exact (split (n + 1) still).imp_left (fun waiting => ⟨still, waiting⟩)
  · intro n here
    obtain ⟨_, _, ready⟩ := here
    exact wake_lifecycle_enabled _ id (ready _)
  · intro n here taken
    obtain ⟨done, _, ready⟩ := here
    have still := kept n done
    have finished : ((run.state (n + 1)).jobs id).state = .finished := by
      have guarded := run.guarded n
      rw [run.follows n]
      generalize run.event n = event at taken guarded
      obtain ⟨startedAt, now, rfl⟩ | ⟨now, rfl⟩ := taken
      · have created : (run.state n).lifecycles id = .created := guarded.2.1
        have impossible := ready now
        simp [created, lifecycleReady] at impossible
      · exact wake_done_finishes _ (run_invariant run start n) id now guarded.1 done guarded.2
    cases split (n + 1) still with
    | inl waiting => simp [finished] at waiting
    | inr released => exact released

theorem run_known (n : Nat) (known : id < (run.state n).next) : id < (run.state (n + 1)).next := by
  refine lt_of_lt_of_le known ?_
  rw [run.follows n]
  exact next_mono _ _ (run.permitted n) (run_invariant run start n) (run.guarded n)

theorem run_clock (n : Nat) : (run.state n).clock ≤ (run.state (n + 1)).clock := by
  have guarded := run.guarded n
  have spec := step_spec _ _ (run_invariant run start n) (run.permitted n) guarded
  rw [run.follows n, step_clock _ _ _ spec]
  exact guarded.1

theorem run_present (present : Present (run.state 0)) (n : Nat) : Present (run.state n) := by
  induction n with
  | zero => exact present
  | succ n ih =>
      rw [run.follows n]
      exact present_step _ _ (run.permitted n) (run_invariant run start n) ih (run.guarded n)

end Fair

-- What the event loop owes to one call over a whole run: its tasks and its
-- timer are not starved and time goes on.
structure Fair (run : Run α ε) (id : Nat) : Prop where
  lifecycle : run.WeaklyFair (lifecycleSteps id)
  caller : run.WeaklyFair (callerSteps id)
  timer : run.WeaklyFair (timerSteps id)
  time : ∀ instant, ∃ n, instant ≤ (run.state n).clock

section Callers

variable (run : Run α ε) (start : Invariant (run.state 0)) (id : Nat) (fair : Fair run id)

include start fair

theorem run_late (instant : ℚ) (n : Nat) : ∃ m, n ≤ m ∧ instant ≤ (run.state m).clock := by
  obtain ⟨m, late⟩ := fair.time instant
  refine ⟨max n m, Nat.le_max_left n m, ?_⟩
  exact run.stable (fun s => instant ≤ s.clock)
    (fun k before => le_trans before (run_clock run start k)) m late _ (Nat.le_max_right n m)

theorem leads_to_timer :
    run.LeadsTo (fun s => id < s.next ∧ (s.callers id).phase = 1) (fun s => 2 ≤ (s.callers id).phase) := by
  have persists : ∀ n, id < (run.state n).next → ((run.state n).callers id).phase = 1 →
      (id < (run.state (n + 1)).next ∧ ((run.state (n + 1)).callers id).phase = 1 ∧
        ((run.state (n + 1)).jobs id).queueDeadline = ((run.state n).jobs id).queueDeadline) ∨
        2 ≤ ((run.state (n + 1)).callers id).phase := by
    intro n known waiting
    have kept := run_keeps run start id n known
    have next : (run.state n).next ≤ (run.state (n + 1)).next := by
      rw [run.follows n]
      exact next_mono _ _ (run.permitted n) (run_invariant run start n) (run.guarded n)
    have phase : ((run.state n).callers id).phase ≤ ((run.state (n + 1)).callers id).phase := kept.phase
    rw [waiting] at phase
    rcases Nat.eq_or_lt_of_le phase with same | further
    · exact .inl ⟨lt_of_lt_of_le known next, same.symm, kept.queueDeadline⟩
    · exact .inr further
  refine run.leads_to_trans _
    (fun s => (id < s.next ∧ (s.callers id).phase = 1 ∧ (s.jobs id).queueDeadline ≤ s.clock) ∨
      2 ≤ (s.callers id).phase) _ ?_ ?_
  · intro n here
    obtain ⟨known, waiting⟩ := here
    obtain ⟨m, after, late⟩ := run_late run start id fair ((run.state n).jobs id).queueDeadline n
    rcases run.persists_or_reaches
      (fun s => id < s.next ∧ (s.callers id).phase = 1 ∧
        (s.jobs id).queueDeadline = ((run.state n).jobs id).queueDeadline)
      (fun s => 2 ≤ (s.callers id).phase)
      (fun k stays => (persists k stays.1 stays.2.1).imp_left
        (fun later => ⟨later.1, later.2.1, later.2.2.trans stays.2.2⟩))
      n ⟨known, waiting, rfl⟩ with ⟨k, later, further⟩ | kept
    · exact ⟨k, later, .inr further⟩
    · obtain ⟨next, phase, same⟩ := kept m after
      exact ⟨m, after, .inl ⟨next, phase, le_of_eq_of_le same late⟩⟩
  · refine run.leads_to_or _ _ _ ?_ (run.leads_to_self _)
    have armed : ∀ caller : Caller α ε, caller.phase = 1 → caller.timerArmed = true ∧ caller.fireTimer.phase = 2 := by
      intro caller phase
      cases caller with
      | absent => simp [Caller.phase] at phase
      | waitingStarted timerFired cancelled =>
          cases timerFired with
          | true => simp [Caller.phase] at phase
          | false => exact ⟨rfl, rfl⟩
      | waitingResult cancelled => simp [Caller.phase] at phase
      | ended outcome => simp [Caller.phase] at phase
    refine run.leads_to_fair _ _ (timerSteps id) fair.timer ?_ ?_ ?_
    · intro n here
      obtain ⟨known, waiting, late⟩ := here
      refine (persists n known waiting).imp_left (fun stays => ⟨stays.1, stays.2.1, ?_⟩)
      rw [stays.2.2]
      exact le_trans late (run_clock run start n)
    · intro n here
      obtain ⟨_, waiting, late⟩ := here
      exact ⟨.timerFires id (run.state n).clock, ⟨_, rfl⟩, le_refl _, (armed _ waiting).1, late⟩
    · intro n here taken
      obtain ⟨_, waiting, _⟩ := here
      rw [run.follows n]
      generalize run.event n = event at taken
      obtain ⟨now, rfl⟩ := taken
      have seen := congrArg View.caller (view_fire_timer ((run.state n).at now) id id)
      rw [if_pos rfl] at seen
      exact le_of_eq ((congrArg Caller.phase seen).trans (armed _ waiting).2).symm

theorem leads_to_resumed :
    run.LeadsTo (fun s => id < s.next ∧ (s.callers id).phase = 2) (fun s => 3 ≤ (s.callers id).phase) := by
  refine run.leads_to_fair _ _ (callerSteps id) fair.caller ?_ ?_ ?_
  · intro n ⟨known, fired⟩
    have kept : ((run.state n).callers id).phase ≤ _ := (run_keeps run start id n known).phase
    rw [fired] at kept
    rcases Nat.eq_or_lt_of_le kept with same | further
    · exact .inl ⟨run_known run start id n known, same.symm⟩
    · exact .inr further
  · intro n ⟨_, fired⟩
    refine ⟨.resumeCaller id (run.state n).clock, ⟨_, rfl⟩, le_refl _, ?_⟩
    show callerReady _ ((run.state n).callers id) = true
    cases callerEq : (run.state n).callers id with
    | absent => simp [callerEq, Caller.phase] at fired
    | waitingResult cancelled => simp [callerEq, Caller.phase] at fired
    | ended outcome => simp [callerEq, Caller.phase] at fired
    | waitingStarted timerFired cancelled =>
        cases timerFired with
        | false => simp [callerEq, Caller.phase] at fired
        | true => simp [callerReady]
  · intro n ⟨_, fired⟩ taken
    rw [run.follows n]
    generalize run.event n = event at taken
    obtain ⟨now, rfl⟩ := taken
    exact le_of_le_of_eq (resume_after_timer (view ((run.state n).at now) id) now fired)
      (resume_phase ((run.state n).at now) id now).symm

theorem leads_to_overrun :
    run.LeadsTo (fun s => s.operations id ≠ .notCreated)
      (fun s => (∃ startedAt deadline, s.lifecycles id = .waiting startedAt deadline ∧ deadline ≤ s.clock) ∨
        (s.jobs id).result ≠ .pending) := by
  intro n launched
  by_cases pending : ((run.state n).jobs id).result = .pending
  · obtain ⟨startedAt, deadline, waiting⟩ := launched_waiting _ _ _ _ _ (run_stage run start id n) launched pending
    have known := launched_known _ (run_invariant run start n) id launched
    obtain ⟨m, after, late⟩ := run_late run start id fair deadline n
    rcases run.persists_or_reaches
      (fun s => id < s.next ∧ s.lifecycles id = .waiting startedAt deadline)
      (fun s => (s.jobs id).result ≠ .pending)
      (fun k ⟨known, waiting⟩ =>
        ((run_keeps run start id k known).scheduled startedAt deadline waiting).imp_left
          (fun still => ⟨run_known run start id k known, still⟩))
      n ⟨known, waiting⟩ with ⟨k, later, settled⟩ | kept
    · exact ⟨k, later, .inr settled⟩
    · exact ⟨m, after, .inl ⟨startedAt, deadline, (kept m after).2, late⟩⟩
  · exact ⟨n, Nat.le_refl n, .inr pending⟩

theorem leads_to_woken :
    run.LeadsTo
      (fun s => ∃ startedAt deadline, s.lifecycles id = .waiting startedAt deadline ∧ deadline ≤ s.clock)
      (fun s => (s.jobs id).result ≠ .pending) := by
  refine run.leads_to_fair _ _ (lifecycleSteps id) fair.lifecycle ?_ ?_ ?_
  · intro n ⟨startedAt, deadline, waiting, late⟩
    have known : id < (run.state n).next := by
      by_contra fresh
      have absent := congrArg View.lifecycle ((run_invariant run start n).fresh id (Nat.le_of_not_lt fresh))
      cases waiting.symm.trans absent
    exact ((run_keeps run start id n known).scheduled startedAt deadline waiting).imp_left
      (fun still => ⟨startedAt, deadline, still, le_trans late (run_clock run start n)⟩)
  · intro n ⟨startedAt, deadline, waiting, late⟩
    exact wake_lifecycle_enabled _ id (by simp [waiting, lifecycleReady, late])
  · intro n ⟨startedAt, deadline, waiting, late⟩ taken
    have guarded := run.guarded n
    rw [run.follows n]
    generalize run.event n = event at taken guarded
    obtain ⟨other, now, rfl⟩ | ⟨now, rfl⟩ := taken
    · cases waiting.symm.trans guarded.2.1
    · exact wake_settles _ (run_invariant run start n) id now guarded.1 startedAt deadline waiting guarded.2

theorem leads_to_settled :
    run.LeadsTo (fun s => id < s.next ∧ (s.callers id).phase = 3)
      (fun s => (s.jobs id).result ≠ .pending) := by
  have settled := run.leads_to_self (fun s => (s.jobs id).result ≠ .pending)
  refine run.leads_to_trans _ (fun s => s.operations id ≠ .notCreated ∨ (s.jobs id).result ≠ .pending) _ ?_
    (run.leads_to_or _ _ _ (run.leads_to_trans _ _ _ (leads_to_overrun run start id fair)
      (run.leads_to_or _ _ _ (leads_to_woken run start id fair) settled)) settled)
  intro n ⟨known, waiting⟩
  by_cases pending : ((run.state n).jobs id).result = .pending
  · have dispatched := awaiting_dispatched _ _ ((run_invariant run start n).consistent id) waiting pending
    obtain ⟨m, after, launched⟩ := leads_to_launched run start id fair.lifecycle n dispatched
    exact ⟨m, after, .inl launched⟩
  · exact ⟨n, Nat.le_refl n, .inr pending⟩

theorem leads_to_ended_result :
    run.LeadsTo (fun s => id < s.next ∧ (s.callers id).phase = 3) (fun s => (s.callers id).phase = 4) := by
  have phases : ∀ n, id < (run.state n).next →
      ((run.state n).callers id).phase ≤ ((run.state (n + 1)).callers id).phase ∧
        (((run.state n).jobs id).result ≠ .pending → ((run.state (n + 1)).jobs id).result ≠ .pending) := by
    intro n known
    have kept := run_keeps run start id n known
    refine ⟨kept.phase, fun done => ?_⟩
    have same : ((run.state (n + 1)).jobs id).result = ((run.state n).jobs id).result := kept.result done
    rwa [same]
  have waits : ∀ n, id < (run.state n).next ∧ 3 ≤ ((run.state n).callers id).phase →
      id < (run.state (n + 1)).next ∧ 3 ≤ ((run.state (n + 1)).callers id).phase :=
    fun n ⟨known, late⟩ => ⟨run_known run start id n known, le_trans late (phases n known).1⟩
  refine run.leads_to_trans _
    (fun s => (id < s.next ∧ 3 ≤ (s.callers id).phase) ∧ (s.jobs id).result ≠ .pending) _ ?_ ?_
  · intro n ⟨known, waiting⟩
    obtain ⟨m, after, settled⟩ := leads_to_settled run start id fair n ⟨known, waiting⟩
    have late := run.stable (fun s => id < s.next ∧ 3 ≤ (s.callers id).phase) waits n
      ⟨known, le_of_eq waiting.symm⟩ m after
    exact ⟨m, after, late, settled⟩
  · refine run.leads_to_cases _
      (fun s => id < s.next ∧ (s.callers id).phase = 3 ∧ (s.jobs id).result ≠ .pending)
      (fun s => (s.callers id).phase = 4) _ (run.leads_to_refl _ _ ?_) ?_ (run.leads_to_self _)
    · intro n ⟨⟨known, late⟩, settled⟩
      have bound := phase_bounded ((run.state n).callers id)
      by_cases waiting : ((run.state n).callers id).phase = 3
      · exact .inl ⟨known, waiting, settled⟩
      · exact .inr (by omega)
    · refine run.leads_to_fair _ _ (callerSteps id) fair.caller ?_ ?_ ?_
      · intro n ⟨known, waiting, settled⟩
        obtain ⟨further, still⟩ := phases n known
        have bound := phase_bounded ((run.state (n + 1)).callers id)
        by_cases same : ((run.state (n + 1)).callers id).phase = 3
        · exact .inl ⟨run_known run start id n known, same, still settled⟩
        · exact .inr (by omega)
      · intro n ⟨_, waiting, settled⟩
        refine ⟨.resumeCaller id (run.state n).clock, ⟨_, rfl⟩, le_refl _, ?_⟩
        exact settled_ready _ _ waiting settled
      · intro n ⟨_, waiting, settled⟩ taken
        rw [run.follows n]
        generalize run.event n = event at taken
        obtain ⟨now, rfl⟩ := taken
        exact (resume_phase ((run.state n).at now) id now).trans
          (resume_settled (view ((run.state n).at now) id) now waiting settled)

theorem leads_to_ended (present : Present (run.state 0)) :
    run.LeadsTo (fun s => id < s.next) (fun s => ∃ outcome, s.callers id = .ended outcome) := by
  have kept := run_known run start id
  have third : run.LeadsTo (fun s => id < s.next ∧ 3 ≤ (s.callers id).phase)
      (fun s => (s.callers id).phase = 4) := by
    refine run.leads_to_cases _ (fun s => id < s.next ∧ (s.callers id).phase = 3)
      (fun s => (s.callers id).phase = 4) _ (run.leads_to_refl _ _ ?_)
      (leads_to_ended_result run start id fair) (run.leads_to_self _)
    intro n ⟨known, late⟩
    have bound := phase_bounded ((run.state n).callers id)
    by_cases waiting : ((run.state n).callers id).phase = 3
    · exact .inl ⟨known, waiting⟩
    · exact .inr (by omega)
  have second : run.LeadsTo (fun s => id < s.next ∧ 2 ≤ (s.callers id).phase)
      (fun s => (s.callers id).phase = 4) := by
    refine run.leads_to_cases _ (fun s => id < s.next ∧ (s.callers id).phase = 2)
      (fun s => id < s.next ∧ 3 ≤ (s.callers id).phase) _ (run.leads_to_refl _ _ ?_)
      (run.leads_to_trans _ _ _
        (run.leads_to_keep _ _ _ kept (leads_to_resumed run start id fair)) third) third
    intro n ⟨known, late⟩
    by_cases fired : ((run.state n).callers id).phase = 2
    · exact .inl ⟨known, fired⟩
    · exact .inr ⟨known, by omega⟩
  have first : run.LeadsTo (fun s => id < s.next) (fun s => (s.callers id).phase = 4) := by
    refine run.leads_to_cases _ (fun s => id < s.next ∧ (s.callers id).phase = 1)
      (fun s => id < s.next ∧ 2 ≤ (s.callers id).phase) _ (run.leads_to_refl _ _ ?_)
      (run.leads_to_trans _ _ _
        (run.leads_to_keep _ _ _ kept (leads_to_timer run start id fair)) second) second
    intro n known
    have there := run_present run start present n id known
    by_cases waiting : ((run.state n).callers id).phase = 1
    · exact .inl ⟨known, waiting⟩
    · exact .inr ⟨known, by omega⟩
  refine run.leads_to_trans _ _ _ first (run.leads_to_refl _ _ ?_)
  exact fun n done => phase_ended _ done

end Callers

end SchwabGateway.Scheduler
