import SchwabGateway.Scheduler.Accounting
import SchwabGateway.Scheduler.Progress

set_option autoImplicit false

namespace SchwabGateway.Scheduler

open SchwabGateway.Library

variable {α ε : Type}

theorem stage_operation_running (clock : ℚ) (job : Job α ε) (lifecycle : Lifecycle) (operation : Operation α ε)
    (ledger : Ledger) (stage : JobStage clock job lifecycle operation ledger) (running : operation = .running) :
    job.state = .running := by
  cases stage with
  | waiting _ _ _ _ state => exact state
  | draining _ _ _ _ _ state => exact state
  | ran => cases running
  | absent => cases running
  | queued => cases running
  | created => cases running
  | expired => cases running
  | removed => cases running

theorem stage_slot (clock : ℚ) (job : Job α ε) (lifecycle : Lifecycle) (operation : Operation α ε)
    (ledger : Ledger) (stage : JobStage clock job lifecycle operation ledger)
    (dispatched : ledger.dispatchedAt ≠ none) :
    (job.state = .running ∧ ledger.slotReleases = 0 ∧ ledger.allocationReleases = 0) ∨
      (job.state = .finished ∧ ledger.slotReleases = 1 ∧ ledger.allocationReleases = 1 ∧
        ∃ ending completedAt, operation = .done ending completedAt ∧ completedAt ≤ clock) := by
  cases stage with
  | created _ _ state => exact .inl ⟨state, rfl, rfl⟩
  | waiting _ _ _ _ state => exact .inl ⟨state, rfl, rfl⟩
  | draining _ _ _ _ _ state => exact .inl ⟨state, rfl, rfl⟩
  | ran _ _ _ completedAt _ ending state _ _ _ _ known =>
      exact .inr ⟨state, rfl, rfl, ending, completedAt, rfl, known⟩
  | absent => exact absurd rfl dispatched
  | queued => exact absurd rfl dispatched
  | expired => exact absurd rfl dispatched
  | removed => exact absurd rfl dispatched

structure SingleSlot (s : State α ε) : Prop where
  exclusive : ∀ i j, s.operations i = .running → s.operations j = .running → i = j
  atMostOnce : ∀ id, (s.ledger id).invocations ≤ 1
  invoked : ∀ id, (s.ledger id).invocations = 1 → (s.ledger id).dispatchedAt ≠ none
  pending : ∀ id, (s.ledger id).dispatchedAt ≠ none → (s.ledger id).invocations ≠ 1 →
    (s.jobs id).state = .running ∧ (s.lifecycles id = .created ∨ s.operations id = .created)
  held : ∀ id, (s.ledger id).dispatchedAt ≠ none → (s.operations id).isDone = false →
    (s.jobs id).state = .running ∧ s.workerActive = true ∧ (s.ledger id).slotReleases = 0 ∧
      (s.ledger id).allocationReleases = 0
  released : ∀ id, (s.ledger id).dispatchedAt ≠ none → (s.jobs id).state ≠ .running →
    (s.ledger id).slotReleases = 1 ∧ (s.ledger id).allocationReleases = 1 ∧
      (s.ledger id).invocations = 1 ∧ ∃ ending completedAt, s.operations id = .done ending completedAt ∧
        completedAt ≤ s.clock
  undispatched : ∀ id, (s.ledger id).dispatchedAt = none →
    (s.ledger id).slotReleases = 0 ∧ (s.ledger id).allocationReleases ≤ 1

theorem invariant_single_slot (s : State α ε) (invariant : Invariant s) : SingleSlot s := by
  obtain ⟨slot, balanced⟩ := invariant.balanced
  have running : ∀ id, (s.jobs id).state = .running ↔ slot = some id := balanced.running
  have active : s.workerActive = slot.isSome := balanced.active
  have stage : ∀ id, JobStage s.clock (s.jobs id) (s.lifecycles id) (s.operations id) (s.ledger id) :=
    fun id => (invariant.consistent id).stage
  have invocations : ∀ id, (s.ledger id).invocations = (s.operations id).invocations :=
    fun id => stage_invocations _ _ _ _ _ (stage id)
  refine ⟨?_, ?_, ?_, ?_, ?_, ?_, ?_⟩
  · intro i j first second
    have left := (running i).mp (stage_operation_running _ _ _ _ _ (stage i) first)
    have right := (running j).mp (stage_operation_running _ _ _ _ _ (stage j) second)
    exact Option.some.inj (left.symm.trans right)
  · intro id
    rw [invocations id]
    cases s.operations id <;> simp [Operation.invocations]
  · intro id once
    refine (stage_dispatched _ _ _ _ _ (stage id)).mpr (.inr ?_)
    intro missing
    rw [invocations id, missing] at once
    cases once
  · intro id dispatched never
    rw [invocations id] at never
    rcases stage_slot _ _ _ _ _ (stage id) dispatched with ⟨run, _⟩ | ⟨_, _, _, ending, completedAt, done, _⟩
    · refine ⟨run, ?_⟩
      rcases (stage_dispatched _ _ _ _ _ (stage id)).mp dispatched with created | launched
      · exact .inl created
      · refine .inr ?_
        cases operationEq : s.operations id with
        | notCreated => exact absurd operationEq launched
        | created => rfl
        | running => simp [operationEq, Operation.invocations] at never
        | done ending completedAt => simp [operationEq, Operation.invocations] at never
    · simp [done, Operation.invocations] at never
  · intro id dispatched unfinished
    rcases stage_slot _ _ _ _ _ (stage id) dispatched with ⟨run, slots, allocations⟩ | ⟨_, _, _, ending, completedAt, done, _⟩
    · refine ⟨run, ?_, slots, allocations⟩
      rw [active, (running id).mp run]
      rfl
    · simp [done, Operation.isDone] at unfinished
  · intro id dispatched gone
    rcases stage_slot _ _ _ _ _ (stage id) dispatched with ⟨run, _⟩ | ⟨_, slots, allocations, ending, completedAt, done, past⟩
    · exact absurd run gone
    · refine ⟨slots, allocations, ?_, ending, completedAt, done, past⟩
      rw [invocations id, done]
      rfl
  · intro id undispatched
    have own := stage id
    generalize s.lifecycles id = lifecycle at own
    generalize s.operations id = operation at own
    generalize s.ledger id = ledger at own undispatched
    cases own with
    | absent => exact ⟨rfl, Nat.zero_le 1⟩
    | queued => exact ⟨rfl, Nat.zero_le 1⟩
    | expired => exact ⟨rfl, Nat.le_refl 1⟩
    | removed => exact ⟨rfl, Nat.le_refl 1⟩
    | created => cases undispatched
    | waiting => cases undispatched
    | draining => cases undispatched
    | ran => cases undispatched

structure Closed (s : State α ε) : Prop where
  accepting : s.accepting = false
  operations : ∀ id, s.operations id ≠ .running
  jobs : ∀ id, (s.jobs id).state = .finished
  queues : ∀ p, s.queues p = []
  refused : ∀ args enqueuedAt now,
    (((scheduler α ε).perform s (.execute args enqueuedAt now)).ledger s.next).admittedAt = none ∧
      ∃ error, ((scheduler α ε).perform s (.execute args enqueuedAt now)).callers s.next = .ended (.raised error)

theorem idle_closed (s : State α ε) (invariant : Invariant s) (accepting : s.accepting = false)
    (idle : s.idle = true) : Closed s := by
  obtain ⟨slot, balanced⟩ := invariant.balanced
  have members : ∀ p id, id ∈ s.queues p ↔ (s.jobs id).state = .queued ∧ (s.jobs id).priority = p :=
    balanced.members
  have zero : ∀ p, s.allocated p = 0 := balanced.idleSound idle
  have allocation : ∀ p, s.allocated p = (s.queues p).length + (accounts s).occupancy slot p :=
    balanced.allocation
  have empty : ∀ p, s.queues p = [] := by
    intro p
    have nobody := allocation p
    have nonneg := occupancy_nonneg (accounts s) slot p
    rw [zero p] at nobody
    exact List.length_eq_zero_iff.mp (by omega)
  have finished : ∀ id, (s.jobs id).state = .finished := by
    intro id
    cases stateEq : (s.jobs id).state with
    | finished => rfl
    | queued =>
        have member := (members (s.jobs id).priority id).mpr ⟨stateEq, rfl⟩
        simp [empty] at member
    | running =>
        have nobody := allocation (s.jobs id).priority
        have held : (accounts s).occupancy slot (s.jobs id).priority = 1 := by
          rw [(balanced.running id).mp stateEq]
          exact if_pos rfl
        rw [zero, held] at nobody
        omega
  refine ⟨accepting, ?_, finished, empty, ?_⟩
  · intro id running
    have busy := stage_operation_running _ _ _ _ _ (invariant.consistent id).stage running
    simp [view, finished id] at busy
  · intro args enqueuedAt now
    have unknown : (s.ledger s.next).admittedAt = none :=
      congrArg (fun v => v.ledger.admittedAt) (invariant.fresh s.next (Nat.le_refl _))
    have refused : ∀ error, (endCall { s with next := s.next + 1, clock := now } s.next (.raised error)).callers s.next =
        .ended (.raised error) := fun error => by simp [endCall, State.setCaller]
    have performed : (scheduler α ε).perform s (.execute args enqueuedAt now) =
        execute (s.at now) args enqueuedAt now := rfl
    rw [performed]
    unfold execute
    cases validate args with
    | error message => exact ⟨unknown, _, refused _⟩
    | ok request =>
        have shut : (s.at now).accepting = false := accepting
        simp only [if_pos shut]
        exact ⟨unknown, _, refused _⟩

theorem closed_forever (s t : State α ε) (invariant : Invariant s) (accepting : s.accepting = false)
    (idle : s.idle = true) (reached : (scheduler α ε).Reaches undisturbed s t) : Closed t := by
  have held := (scheduler α ε).reaches_invariant undisturbed
    (fun a : State α ε => Invariant a ∧ a.accepting = false ∧ a.idle = true)
    (fun a event member ⟨before, shut, quiet⟩ guarded => by
      have spec := step_spec a event before member guarded
      have closed := steps_closed _ _ spec.lock.steps shut
      exact ⟨invariant_step a event member before guarded, closed.1, closed.2 quiet⟩)
    s t reached ⟨invariant, accepting, idle⟩
  exact idle_closed t held.1 held.2.1 held.2.2

theorem single_slot_execution (policy : AdmissionPolicy) (clock : ℚ) (s : State α ε)
    (reachable : Reachable policy clock s) :
    SingleSlot s ∧
      (∀ k t, s.shutdowns k = .returned → (scheduler α ε).Reaches undisturbed s t → Closed t) ∧
      ∀ (run : Run α ε) (id : Nat), run.state 0 = s → run.WeaklyFair (lifecycleSteps id) →
        (run.WeaklyFair (operationSteps id) →
          run.LeadsTo (fun t => (t.ledger id).dispatchedAt ≠ none) (fun t => (t.ledger id).invocations = 1)) ∧
        run.LeadsTo (fun t => (t.operations id).isDone = true) (fun t => (t.ledger id).slotReleases = 1) := by
  have invariant := reachable_invariant policy clock s reachable
  refine ⟨invariant_single_slot s invariant, ?_, ?_⟩
  · intro k t returned reached
    obtain ⟨slot, balanced⟩ := invariant.balanced
    have accepting : s.accepting = false := balanced.closing k (by simp [accounts, returned])
    have idle : s.idle = true := balanced.released k (by simp [accounts, returned, ShutdownCall.released])
    exact closed_forever s t invariant accepting idle reached
  · rintro run id rfl fair
    refine ⟨fun fairOperation => ?_, leads_to_released run invariant id fair⟩
    exact run.leads_to_trans _ _ _ (leads_to_launched run invariant id fair)
      (leads_to_invoked run invariant id fairOperation)

-- The sample run, then a shutdown that is cancelled while it drains the second
-- operation.
def drainedRun : List (Event Nat String) :=
  sampleRun ++
    [.startLifecycle 1 3 3, .startOperation 1 3, .shutdown 3, .startWaiter 0 3, .cancelShutdown 0 3,
      .completeOperation 1 (.error "refused") 4, .wakeLifecycle 1 4, .wakeWaiter 0 4, .returnShutdown 0 5]

def drainedState : State Nat String := (scheduler Nat String).performAll (initial samplePolicy 0) drainedRun

theorem drained_reachable : Reachable samplePolicy 0 drainedState :=
  (scheduler Nat String).reaches_perform_all undisturbed _ drainedRun
    (by simp [drainedRun, sampleRun, undisturbed, Event.disturbs]) (by decide +kernel)

theorem single_slot_execution_drained : SingleSlot drainedState ∧ Closed drainedState :=
  have ⟨single, closed, _⟩ := single_slot_execution samplePolicy 0 drainedState drained_reachable
  ⟨single, closed 0 drainedState (by decide +kernel) .refl⟩

end SchwabGateway.Scheduler
