import SchwabGateway.Scheduler.Order

set_option autoImplicit false

namespace SchwabGateway.Scheduler

open SchwabGateway.Library

variable {α ε : Type}

def Lifecycle.startedAt : Lifecycle → Option ℚ
  | .waiting startedAt _ => .some startedAt
  | .draining startedAt _ => .some startedAt
  | .ended startedAt _ => .some startedAt
  | _ => Option.none

namespace View

-- The operation ended by its deadline and _run_job had not given it up.
def FinishedInBudget (v : View α ε) (ending : Ending α ε) : Prop :=
  v.ledger.dispatchedAt ≠ none ∧ v.ledger.gaveUpAt = none ∧
    ∃ startedAt completedAt, v.lifecycle.startedAt = some startedAt ∧
      v.operation = .done ending completedAt ∧ completedAt ≤ executionDeadline v.job startedAt

-- The deadline has come and the operation had not ended before it. One that
-- ends in the very instant of the deadline counts only if it was given up.
def OverBudget (clock : ℚ) (v : View α ε) : Prop :=
  v.ledger.dispatchedAt ≠ none ∧
    ∃ startedAt, v.lifecycle.startedAt = some startedAt ∧ executionDeadline v.job startedAt ≤ clock ∧
      ∀ ending completedAt, v.operation = .done ending completedAt →
        executionDeadline v.job startedAt < completedAt ∨
          (executionDeadline v.job startedAt ≤ completedAt ∧ v.ledger.gaveUpAt ≠ none)

def ExpiredInQueue (v : View α ε) : Prop :=
  v.ledger.admittedAt ≠ none ∧ v.ledger.expiredAt ≠ none ∧ v.ledger.dispatchedAt = none

-- Its caller was cancelled, shutdown took it out of its queue, or the
-- operation itself ended cancelled.
def Hindered (v : View α ε) : Prop :=
  v.cancelRequested = true ∨ v.ledger.removedByShutdown = true ∨
    ∃ completedAt, v.operation = .done .cancelled completedAt

def Owed (clock : ℚ) (v : View α ε) : Outcome α ε → Prop
  | .returned value => v.FinishedInBudget (.value value)
  | .raised (.operation error) => v.FinishedInBudget (.error error)
  | .raised (.upstreamTimeout message) => message = executionTimedOut ∧ v.OverBudget clock
  | .raised (.queueTimeout message) => message = queueWaitTimedOut ∧ v.ExpiredInQueue
  | .raised (.capacity _) => v.ledger.admittedAt = none
  | .raised (.valueError _) => v.ledger.admittedAt = none
  | .raised .cancelled => v.Hindered

end View

theorem settled_future_inj (first second : Ending α ε) (same : settledFuture first = settledFuture second) :
    first = second := by
  cases first <;> cases second <;> simp_all [settledFuture]

theorem stage_finished (clock : ℚ) (v : View α ε) (stage : JobStage clock v.job v.lifecycle v.operation v.ledger)
    (ending : Ending α ε) (result : v.job.result = settledFuture ending)
    (ran : ending ≠ .cancelled ∨ v.ledger.slotReleases = 1) : v.FinishedInBudget ending := by
  obtain ⟨job, caller, lifecycle, operation, ledger, requested⟩ := v
  dsimp only at stage result ran
  have pending : job.result ≠ .pending := by
    rw [result]
    exact settled_future_done ending
  have unhindered : job.result = .cancelled → ledger.slotReleases = 1 := by
    intro cancelled
    rw [result] at cancelled
    refine ran.resolve_left (fun different => different ?_)
    exact settled_future_inj ending .cancelled cancelled
  have timely : job.result ≠ .exception (.upstreamTimeout executionTimedOut) := by
    rw [result]
    cases ending <;> simp [settledFuture]
  cases stage with
  | absent same => simp [same, Job.absent] at pending
  | queued _ _ _ waiting => exact absurd waiting pending
  | created _ _ _ _ waiting => exact absurd waiting pending
  | waiting _ _ _ _ _ _ waiting => exact absurd waiting pending
  | draining _ _ _ _ _ _ _ told => exact absurd told timely
  | ran admittedAt dispatchedAt startedAt completedAt gaveUpAt own _ _ _ _ _ _ verdict =>
      cases verdict with
      | inBudget early settled =>
          have same := settled_future_inj own ending (settled.symm.trans result)
          subst same
          exact ⟨by simp, rfl, startedAt, completedAt, rfl, rfl, early⟩
      | late late settled => exact absurd settled timely
      | gaveUp gaveUpAt overdue before settled => exact absurd settled timely
  | expired _ _ _ _ cancelled => cases unhindered cancelled
  | removed _ _ _ _ cancelled => cases unhindered cancelled

theorem stage_over_budget (clock : ℚ) (v : View α ε)
    (stage : JobStage clock v.job v.lifecycle v.operation v.ledger) (message : String)
    (result : v.job.result = .exception (.upstreamTimeout message)) :
    message = executionTimedOut ∧ v.OverBudget clock := by
  obtain ⟨job, caller, lifecycle, operation, ledger, requested⟩ := v
  dsimp only at stage result
  cases stage with
  | absent same => simp [same, Job.absent] at result
  | queued _ _ _ waiting => simp [waiting] at result
  | created _ _ _ _ waiting => simp [waiting] at result
  | waiting _ _ _ _ _ _ waiting => simp [waiting] at result
  | draining _ _ startedAt gaveUpAt _ _ _ told _ _ _ _ overdue past after =>
      have same : executionTimedOut = message := by simpa [told] using result
      refine ⟨same.symm, by simp, startedAt, rfl, le_trans overdue past, ?_⟩
      intro ending completedAt done
      exact .inr ⟨le_trans overdue (after ending completedAt done), by simp⟩
  | ran _ _ startedAt completedAt _ own _ _ _ _ _ known verdict =>
      cases verdict with
      | inBudget early settled =>
          rw [settled] at result
          cases own <;> simp [settledFuture] at result
      | late late settled =>
          have same : executionTimedOut = message := by simpa [settled] using result
          refine ⟨same.symm, by simp, startedAt, rfl, le_trans (le_of_lt late) known, ?_⟩
          intro ending other done
          cases done
          exact .inl late
      | gaveUp gaveUpAt overdue before settled =>
          have same : executionTimedOut = message := by simpa [settled] using result
          refine ⟨same.symm, by simp, startedAt, rfl, le_trans (le_trans overdue before) known, ?_⟩
          intro ending other done
          cases done
          exact .inr ⟨le_trans overdue before, by simp⟩
  | expired _ _ _ _ cancelled => simp [cancelled] at result
  | removed _ _ _ _ cancelled => simp [cancelled] at result

theorem stage_expired (clock : ℚ) (v : View α ε) (stage : JobStage clock v.job v.lifecycle v.operation v.ledger)
    (timedOut : v.job.queueTimedOut = true) : v.ExpiredInQueue := by
  obtain ⟨job, caller, lifecycle, operation, ledger, requested⟩ := v
  dsimp only at stage timedOut
  cases stage with
  | expired => exact ⟨by simp, by simp, rfl⟩
  | absent same => simp [same, Job.absent] at timedOut
  | queued _ _ _ _ timely => simp [timely] at timedOut
  | created _ _ _ _ _ timely => simp [timely] at timedOut
  | waiting _ _ _ _ _ _ _ timely => simp [timely] at timedOut
  | draining _ _ _ _ _ _ _ _ timely => simp [timely] at timedOut
  | ran _ _ _ _ _ _ _ _ timely => simp [timely] at timedOut
  | removed _ _ _ _ _ timely => simp [timely] at timedOut

theorem consistent_owed (clock : ℚ) (v : View α ε) (consistent : Consistent clock v) (outcome : Outcome α ε)
    (ended : v.caller = .ended outcome) : v.Owed clock outcome := by
  have stage := consistent.stage
  have justified : Justified v.job v.ledger v.cancelRequested outcome := by
    have owed := consistent.caller
    rwa [ended] at owed
  cases outcome with
  | returned value => exact stage_finished clock v stage (.value value) justified (.inl (by simp))
  | raised error =>
      cases error with
      | valueError message => exact justified
      | capacity message => exact justified
      | queueTimeout message => exact ⟨justified.1, stage_expired clock v stage justified.2⟩
      | upstreamTimeout message => exact stage_over_budget clock v stage message justified
      | operation error => exact stage_finished clock v stage (.error error) justified (.inl (by simp))
      | cancelled =>
          refine justified.imp_right (Or.imp_right (fun ⟨result, released⟩ => ?_))
          obtain ⟨_, _, _, completedAt, _, done, _⟩ :=
            stage_finished clock v stage .cancelled result (.inr released)
          exact ⟨completedAt, done⟩

theorem dispatched_admitted (clock : ℚ) (v : View α ε)
    (stage : JobStage clock v.job v.lifecycle v.operation v.ledger) (dispatched : v.ledger.dispatchedAt ≠ none) :
    v.ledger.admittedAt ≠ none := by
  obtain ⟨job, caller, lifecycle, operation, ledger, requested⟩ := v
  dsimp only at stage dispatched ⊢
  cases stage with
  | created => simp
  | waiting => simp
  | draining => simp
  | ran => simp
  | absent => exact absurd rfl dispatched
  | queued => exact absurd rfl dispatched
  | expired => exact absurd rfl dispatched
  | removed => exact absurd rfl dispatched

theorem finished_not_over (clock : ℚ) (v : View α ε) (ending : Ending α ε) (finished : v.FinishedInBudget ending) :
    ¬ v.OverBudget clock := by
  rintro ⟨_, startedAt, started, _, overrun⟩
  obtain ⟨_, kept, other, completedAt, same, done, early⟩ := finished
  have equal : other = startedAt := Option.some.inj (same.symm.trans started)
  subst equal
  rcases overrun ending completedAt done with late | ⟨_, gaveUp⟩
  · exact absurd early (not_le.mpr late)
  · exact gaveUp kept

theorem finished_unique (v : View α ε) (first second : Ending α ε) (left : v.FinishedInBudget first)
    (right : v.FinishedInBudget second) : first = second := by
  obtain ⟨_, _, _, _, _, done, _⟩ := left
  obtain ⟨_, _, _, _, _, again, _⟩ := right
  have same : Operation.done first _ = Operation.done second _ := done.symm.trans again
  simp only [Operation.done.injEq] at same
  exact same.1

-- Each condition belongs to one outcome, so of an unhindered call that has
-- ended any one of them tells the outcome.
structure Exactly (clock : ℚ) (v : View α ε) (outcome : Outcome α ε) : Prop where
  returned : ∀ value, outcome = .returned value ↔ v.FinishedInBudget (.value value)
  operation : ∀ error, outcome = .raised (.operation error) ↔ v.FinishedInBudget (.error error)
  upstreamTimeout : outcome = .raised (.upstreamTimeout executionTimedOut) ↔ v.OverBudget clock
  queueTimeout : outcome = .raised (.queueTimeout queueWaitTimedOut) ↔ v.ExpiredInQueue
  refused : (∃ message, outcome = .raised (.capacity message) ∨ outcome = .raised (.valueError message)) ↔
    v.ledger.admittedAt = none
  cancelled : outcome ≠ .raised .cancelled

theorem owed_exactly (clock : ℚ) (v : View α ε) (stage : JobStage clock v.job v.lifecycle v.operation v.ledger)
    (outcome : Outcome α ε) (owed : v.Owed clock outcome) (free : ¬ v.Hindered) : Exactly clock v outcome := by
  have admitted := dispatched_admitted clock v stage
  have disjoint := finished_not_over clock v
  have unique := finished_unique v
  cases outcome with
  | returned value =>
      have own : v.FinishedInBudget (.value value) := owed
      refine ⟨?_, ?_, ?_, ?_, ?_, by simp⟩
      · intro other
        refine ⟨fun same => by cases same; exact own, fun finished => ?_⟩
        cases unique _ _ own finished
        rfl
      · exact fun error => ⟨nofun, fun finished => nomatch unique _ _ own finished⟩
      · exact ⟨nofun, fun overrun => absurd overrun (disjoint _ own)⟩
      · exact ⟨nofun, fun expired => absurd expired.2.2 own.1⟩
      · refine ⟨?_, fun none => absurd none (admitted own.1)⟩
        rintro ⟨message, same | same⟩ <;> cases same
  | raised error =>
      cases error with
      | operation error =>
          have own : v.FinishedInBudget (.error error) := owed
          refine ⟨?_, ?_, ?_, ?_, ?_, by simp⟩
          · exact fun value => ⟨nofun, fun finished => nomatch unique _ _ own finished⟩
          · intro other
            refine ⟨fun same => by cases same; exact own, fun finished => ?_⟩
            cases unique _ _ own finished
            rfl
          · exact ⟨nofun, fun overrun => absurd overrun (disjoint _ own)⟩
          · exact ⟨nofun, fun expired => absurd expired.2.2 own.1⟩
          · refine ⟨?_, fun none => absurd none (admitted own.1)⟩
            rintro ⟨message, same | same⟩ <;> cases same
      | upstreamTimeout message =>
          obtain ⟨text, own⟩ : message = executionTimedOut ∧ v.OverBudget clock := owed
          subst text
          refine ⟨?_, ?_, ⟨fun _ => own, fun _ => rfl⟩, ?_, ?_, by simp⟩
          · exact fun value => ⟨nofun, fun finished => absurd own (disjoint _ finished)⟩
          · exact fun error => ⟨nofun, fun finished => absurd own (disjoint _ finished)⟩
          · exact ⟨nofun, fun expired => absurd expired.2.2 own.1⟩
          · refine ⟨?_, fun none => absurd none (admitted own.1)⟩
            rintro ⟨message, same | same⟩ <;> cases same
      | queueTimeout message =>
          obtain ⟨text, own⟩ : message = queueWaitTimedOut ∧ v.ExpiredInQueue := owed
          subst text
          refine ⟨?_, ?_, ?_, ⟨fun _ => own, fun _ => rfl⟩, ?_, by simp⟩
          · exact fun value => ⟨nofun, fun finished => absurd own.2.2 finished.1⟩
          · exact fun error => ⟨nofun, fun finished => absurd own.2.2 finished.1⟩
          · exact ⟨nofun, fun overrun => absurd own.2.2 overrun.1⟩
          · refine ⟨?_, fun none => absurd none own.1⟩
            rintro ⟨message, same | same⟩ <;> cases same
      | capacity message =>
          have own : v.ledger.admittedAt = none := owed
          refine ⟨?_, ?_, ?_, ?_, ⟨fun _ => own, fun _ => ⟨message, .inl rfl⟩⟩, by simp⟩
          · exact fun value => ⟨nofun, fun finished => absurd own (admitted finished.1)⟩
          · exact fun error => ⟨nofun, fun finished => absurd own (admitted finished.1)⟩
          · exact ⟨nofun, fun overrun => absurd own (admitted overrun.1)⟩
          · exact ⟨nofun, fun expired => absurd own expired.1⟩
      | valueError message =>
          have own : v.ledger.admittedAt = none := owed
          refine ⟨?_, ?_, ?_, ?_, ⟨fun _ => own, fun _ => ⟨message, .inr rfl⟩⟩, by simp⟩
          · exact fun value => ⟨nofun, fun finished => absurd own (admitted finished.1)⟩
          · exact fun error => ⟨nofun, fun finished => absurd own (admitted finished.1)⟩
          · exact ⟨nofun, fun overrun => absurd own (admitted overrun.1)⟩
          · exact ⟨nofun, fun expired => absurd own expired.1⟩
      | cancelled => exact absurd owed free

theorem reachable_present (policy : AdmissionPolicy) (clock : ℚ) (s : State α ε)
    (reachable : Reachable policy clock s) : Present s := by
  have held := (scheduler α ε).reaches_invariant undisturbed (fun a : State α ε => Invariant a ∧ Present a)
    (fun a event member ⟨invariant, present⟩ guarded =>
      ⟨invariant_step a event member invariant guarded, present_step a event member invariant present guarded⟩)
    _ s reachable ⟨invariant_initial policy clock, fun id known => absurd known (Nat.not_lt_zero id)⟩
  exact held.2

theorem ended_known (s : State α ε) (invariant : Invariant s) (id : Nat) (outcome : Outcome α ε)
    (ended : s.callers id = .ended outcome) : id < s.next := by
  by_contra late
  have absent := congrArg View.caller (invariant.fresh id (Nat.le_of_not_lt late))
  cases ended.symm.trans absent

theorem valid_call_refusal (s t : State α ε) (invariant : Invariant s) (args : Arguments) (request : Request)
    (enqueuedAt now : ℚ) (valid : validate args = .ok request)
    (guarded : (scheduler α ε).enabled s (.execute args enqueuedAt now))
    (reached : (scheduler α ε).Reaches undisturbed ((scheduler α ε).perform s (.execute args enqueuedAt now)) t)
    (message : String) : t.callers s.next ≠ .ended (.raised (.valueError message)) := by
  intro ended
  have after := invariant_step s (.execute args enqueuedAt now) rfl invariant guarded
  have next := execute_next s invariant args enqueuedAt now
  have kept := keeps_reaches _ t after reached s.next (by omega)
  have later := (scheduler α ε).reaches_invariant undisturbed Invariant invariant_step _ t reached after
  have refused : ∀ error, ((scheduler α ε).perform s (.execute args enqueuedAt now)).callers s.next =
      .ended (.raised error) → error = .valueError message := by
    intro error first
    have still : t.callers s.next = .ended (.raised error) := kept.outcome _ first
    simpa using still.symm.trans ended
  by_cases accepting : s.accepting = true
  · by_cases room : s.allocated request.priority < s.limits request.priority
    · have admitted := room_admitted s args request enqueuedAt now invariant valid accepting room
      have owed := consistent_owed t.clock (view t s.next) (later.consistent s.next) _ ended
      have unadmitted : (t.ledger s.next).admittedAt = none := owed
      have same : (t.ledger s.next).admittedAt = _ := kept.admittedAt
      cases unadmitted.symm.trans (same.trans admitted)
    · have full := execute_full (s.at now) args request enqueuedAt now valid accepting (le_of_not_gt room)
      cases refused _ full
  · have shut : s.accepting = false := by simpa using accepting
    have closed : (execute (s.at now) args enqueuedAt now).callers s.next =
        .ended (.raised (.capacity shuttingDown)) := by
      simp [execute, valid, shut, endCall, State.setCaller, State.at]
    cases refused _ closed

theorem caller_outcome (policy : AdmissionPolicy) (clock : ℚ) (s : State α ε)
    (reachable : Reachable policy clock s) :
    (∀ id outcome, s.callers id = .ended outcome →
      (view s id).Owed s.clock outcome ∧
        (¬ (view s id).Hindered → Exactly s.clock (view s id) outcome) ∧
        ∀ t, (scheduler α ε).Reaches undisturbed s t → t.callers id = .ended outcome) ∧
    (∀ args request enqueuedAt now t message, validate args = .ok request →
      (scheduler α ε).enabled s (.execute args enqueuedAt now) →
      (scheduler α ε).Reaches undisturbed ((scheduler α ε).perform s (.execute args enqueuedAt now)) t →
      t.callers s.next ≠ .ended (.raised (.valueError message))) ∧
    ∀ (run : Run α ε) (id : Nat), run.state 0 = s → Fair run id →
      run.LeadsTo (fun t => id < t.next) (fun t => ∃ outcome, t.callers id = .ended outcome) := by
  have invariant := reachable_invariant policy clock s reachable
  refine ⟨?_, ?_, ?_⟩
  · intro id outcome ended
    have owed := consistent_owed s.clock (view s id) (invariant.consistent id) outcome ended
    refine ⟨owed, owed_exactly s.clock (view s id) (invariant.consistent id).stage outcome owed, ?_⟩
    intro t reached
    exact (keeps_reaches s t invariant reached id (ended_known s invariant id outcome ended)).outcome _ ended
  · intro args request enqueuedAt now t message valid guarded reached
    exact valid_call_refusal s t invariant args request enqueuedAt now valid guarded reached message
  · rintro run id rfl fair
    exact leads_to_ended run invariant id fair (reachable_present policy clock _ reachable)

-- The task reads the clock at the deadline and gives up; the operation ends
-- later in the same instant.
def tieRun : List (Event Nat String) :=
  [.execute (sampleCall .background) 0 0, .startLifecycle 0 0 0, .startOperation 0 0, .wakeLifecycle 0 10,
    .completeOperation 0 (.value 7) 10, .resumeCaller 0 10]

def tieState : State Nat String := (scheduler Nat String).performAll (initial samplePolicy 0) tieRun

theorem tie_reachable : Reachable samplePolicy 0 tieState :=
  (scheduler Nat String).reaches_perform_all undisturbed _ tieRun
    (by simp [tieRun, undisturbed, Event.disturbs]) (by decide +kernel)

theorem tie_operation : tieState.operations 0 = .done (.value 7) 10 := by decide +kernel

theorem tie_unhindered : ¬ (view tieState 0).Hindered := by
  rintro (requested | removed | ⟨completedAt, cancelled⟩)
  · exact absurd requested (by decide +kernel)
  · exact absurd removed (by decide +kernel)
  · cases cancelled.symm.trans tie_operation

theorem caller_outcome_tie :
    (view tieState 0).Owed tieState.clock (.raised (.upstreamTimeout executionTimedOut)) ∧
      Exactly tieState.clock (view tieState 0) (.raised (.upstreamTimeout executionTimedOut)) :=
  have ⟨outcomes, _, _⟩ := caller_outcome samplePolicy 0 tieState tie_reachable
  have ⟨owed, exactly, _⟩ := outcomes 0 (.raised (.upstreamTimeout executionTimedOut)) (by decide +kernel)
  ⟨owed, exactly tie_unhindered⟩

theorem upstream_timeout_at_deadline :
    ¬ ∀ (s : State Nat String) (id : Nat) (message : String) (startedAt completedAt : ℚ) (ending : Ending Nat String),
      Reachable samplePolicy 0 s → s.callers id = .ended (.raised (.upstreamTimeout message)) →
      (s.lifecycles id).startedAt = some startedAt → s.operations id = .done ending completedAt →
      ¬ completedAt ≤ executionDeadline (s.jobs id) startedAt := by
  intro everywhere
  exact everywhere tieState 0 executionTimedOut 0 10 (.value 7) tie_reachable (by decide +kernel) (by decide +kernel)
    tie_operation (by decide +kernel)

end SchwabGateway.Scheduler
