import SchwabGateway.Scheduler.Operations
import SchwabGateway.Scheduler.Execution

set_option autoImplicit false

namespace SchwabGateway.Scheduler

open SchwabGateway.Library

variable {α ε : Type}

-- A cancellation that the task of _run_job is able to catch: the task has made
-- its first step.
def Deferrable (s : State α ε) : Event α ε → Prop
  | .cancelLifecycle id _ => s.lifecycles id ≠ .created
  | _ => True

def deferring (α ε : Type) : System (State α ε) (Event α ε) := (scheduler α ε).restrict Deferrable

-- A cancellation that is caught leaves only the passing of time.
def Event.deferred : Event α ε → Event α ε
  | .cancelLifecycle _ now => .tick now
  | event => event

theorem deferred_calm (event : Event α ε) : event.deferred.disturbs = false := by
  cases event <;> rfl

theorem deferred_self (event : Event α ε) (calm : event.disturbs = false) : event.deferred = event := by
  cases event <;> first | rfl | cases calm

theorem calm_deferrable (s : State α ε) (event : Event α ε) (calm : event.disturbs = false) :
    Deferrable s event := by
  cases event <;> trivial

theorem cancel_started (lifecycle : Lifecycle) (started : lifecycle ≠ .created) :
    lifecycle.cancel = lifecycle := by
  cases lifecycle <;> first | rfl | exact absurd rfl started

theorem deferred_step (s : State α ε) (event : Event α ε) (guard : (deferring α ε).enabled s event) :
    (scheduler α ε).enabled s event.deferred ∧
      (scheduler α ε).perform s event.deferred = (scheduler α ε).perform s event := by
  cases event with
  | cancelLifecycle id now =>
      have same := cancel_started (s.lifecycles id) guard.2
      refine ⟨⟨guard.1.1, trivial⟩, ?_⟩
      simp only [Event.deferred, scheduler, effect, State.setLifecycle, same, Function.update_eq_self]
      rfl
  | execute args enqueuedAt now => exact ⟨guard.1, rfl⟩
  | timerFires id now => exact ⟨guard.1, rfl⟩
  | cancelCaller id now => exact ⟨guard.1, rfl⟩
  | resumeCaller id now => exact ⟨guard.1, rfl⟩
  | startLifecycle id startedAt now => exact ⟨guard.1, rfl⟩
  | wakeLifecycle id now => exact ⟨guard.1, rfl⟩
  | startOperation id now => exact ⟨guard.1, rfl⟩
  | completeOperation id ending now => exact ⟨guard.1, rfl⟩
  | shutdown now => exact ⟨guard.1, rfl⟩
  | startWaiter k now => exact ⟨guard.1, rfl⟩
  | wakeWaiter k now => exact ⟨guard.1, rfl⟩
  | returnShutdown k now => exact ⟨guard.1, rfl⟩
  | cancelShutdown k now => exact ⟨guard.1, rfl⟩
  | tick now => exact ⟨guard.1, rfl⟩

theorem deferring_reaches (s t : State α ε) (reached : (deferring α ε).Reaches Set.univ s t) :
    (scheduler α ε).Reaches undisturbed s t := by
  apply System.reaches_project (deferring α ε) (scheduler α ε) Set.univ undisturbed id (fun _ => True)
    (fun _ _ _ _ _ => trivial) _ s t reached trivial
  intro a event _ _ guard
  obtain ⟨enabled, same⟩ := deferred_step a event guard
  exact Relation.ReflTransGen.single ⟨event.deferred, deferred_calm event, enabled, same.symm⟩

def quietRun (run : (deferring α ε).Execution Set.univ) : Run α ε where
  state := run.state
  event n := (run.event n).deferred
  permitted n := deferred_calm (run.event n)
  guarded n := (deferred_step _ _ (run.guarded n)).1
  follows n := (run.follows n).trans (deferred_step _ _ (run.guarded n)).2.symm

theorem quiet_fair (run : (deferring α ε).Execution Set.univ) (family : Set (Event α ε))
    (calm : ∀ event, event ∈ family → event.disturbs = false) (fair : run.WeaklyFair family) :
    (quietRun run).WeaklyFair family := by
  intro n possible
  have owed : ∀ m, n ≤ m → ∃ event, event ∈ family ∧ (deferring α ε).enabled (run.state m) event := by
    intro m after
    obtain ⟨event, member, guard⟩ := possible m after
    exact ⟨event, member, guard, calm_deferrable _ event (calm event member)⟩
  obtain ⟨m, after, taken⟩ := fair n owed
  refine ⟨m, after, ?_⟩
  show (run.event m).deferred ∈ family
  rw [deferred_self _ (calm _ taken)]
  exact taken

def completionSteps (id : Nat) : Set (Event α ε) :=
  { event | ∃ ending now, event = .completeOperation id ending now }

theorem leads_to_done (run : Run α ε) (start : Invariant (run.state 0)) (id : Nat)
    (fair : run.WeaklyFair (completionSteps id)) :
    run.LeadsTo (fun s => (s.ledger id).invocations = 1) (fun s => (s.operations id).isDone = true) := by
  have split : ∀ operation : Operation α ε, operation.invocations = 1 →
      operation = .running ∨ operation.isDone = true := by
    intro operation called
    cases operation with
    | notCreated => cases called
    | created => cases called
    | running => exact .inl rfl
    | done ending completedAt => exact .inr rfl
  refine run.leads_to_cases _ (fun s => s.operations id = .running)
    (fun s => (s.operations id).isDone = true) _ (run.leads_to_refl _ _ ?_) ?_ (run.leads_to_self _)
  · intro n called
    rw [stage_invocations _ _ _ _ _ (run_stage run start id n)] at called
    exact split _ called
  · refine run.leads_to_fair _ _ (completionSteps id) fair ?_ ?_ ?_
    · intro n running
      have launched : (run.state n).operations id ≠ .notCreated := by simp [running]
      have known := launched_known _ (run_invariant run start n) id launched
      have called : ((run.state n).operations id).invocations = 1 := by simp [running, Operation.invocations]
      exact split _ ((run_keeps run start id n known).called called)
    · intro n running
      exact ⟨.completeOperation id .cancelled (run.state n).clock, ⟨_, _, rfl⟩, le_refl _, running⟩
    · intro n running taken
      rw [run.follows n]
      generalize run.event n = event at taken
      obtain ⟨ending, now, rfl⟩ := taken
      simp [scheduler, effect, State.setOperation, Operation.isDone]

theorem released_complete (s : State α ε) (invariant : Invariant s) (id : Nat)
    (slot : (s.ledger id).slotReleases = 1) :
    (s.operations id).isDone = true ∧ (s.ledger id).slotReleases = 1 ∧
      (s.ledger id).allocationReleases = 1 := by
  have stage := (invariant.consistent id).stage
  have dispatched : (s.ledger id).dispatchedAt ≠ none := by
    intro never
    cases ((invariant_single_slot s invariant).undispatched id never).1.symm.trans slot
  rcases stage_slot _ _ _ _ _ stage dispatched with ⟨_, held, _⟩ | ⟨_, _, allocation, ending, completedAt, done, _⟩
  · cases held.symm.trans slot
  · have ended : s.operations id = .done ending completedAt := done
    exact ⟨by rw [ended]; rfl, slot, allocation⟩

structure Recoverable (s : State α ε) : Prop where
  single : SingleSlot s
  worker : s.workerActive = true → ∃ id, (s.jobs id).state = .running ∧ (s.lifecycles id).alive = true
  allocated : ∀ p, s.allocated p ≠ 0 → ∃ id, (s.jobs id).state = .running ∧ (s.lifecycles id).alive = true

theorem invariant_recoverable (s : State α ε) (invariant : Invariant s) : Recoverable s := by
  obtain ⟨slot, balanced⟩ := invariant.balanced
  have active : s.workerActive = slot.isSome := balanced.active
  have worker : s.workerActive = true →
      ∃ id, (s.jobs id).state = .running ∧ (s.lifecycles id).alive = true := by
    intro busy
    rw [active] at busy
    obtain ⟨id, held⟩ := Option.isSome_iff_exists.mp busy
    have running : (s.jobs id).state = .running := (balanced.running id).mpr held
    exact ⟨id, running, (balanced.alive id).mpr running⟩
  refine ⟨invariant_single_slot s invariant, worker, ?_⟩
  intro p held
  apply worker
  by_contra idle
  have free : s.workerActive = false := by simpa using idle
  have nobody : slot = none := by
    rw [active] at free
    simpa using free
  have empty : s.queues p = [] := invariant.settled.waits free p
  have allocation : s.allocated p = (s.queues p).length + (accounts s).occupancy slot p :=
    balanced.allocation p
  rw [empty, nobody] at allocation
  exact held (by simpa [Accounts.occupancy] using allocation)

-- In runs that cancel lifecycle tasks only after their first step, nothing is
-- stranded, every dispatched operation runs to its end and gives back the slot
-- and the allocation, and every caller gets its outcome.
theorem lifecycle_non_preemptible (policy : AdmissionPolicy) (clock : ℚ) (s : State α ε)
    (reached : (deferring α ε).Reaches Set.univ (initial policy clock) s) :
    Recoverable s ∧
      ∀ (run : (deferring α ε).Execution Set.univ) (id : Nat), run.state 0 = s →
        run.WeaklyFair (lifecycleSteps id) →
        (run.WeaklyFair (operationSteps id) → run.WeaklyFair (completionSteps id) →
          run.LeadsTo (fun t => (t.ledger id).dispatchedAt ≠ none)
            (fun t => (t.operations id).isDone = true ∧ (t.ledger id).slotReleases = 1 ∧
              (t.ledger id).allocationReleases = 1)) ∧
        (run.WeaklyFair (callerSteps id) → run.WeaklyFair (timerSteps id) →
          (∀ instant, ∃ n, instant ≤ (run.state n).clock) →
          run.LeadsTo (fun t => id < t.next) (fun t => ∃ outcome, t.callers id = .ended outcome)) := by
  have reachable := deferring_reaches _ _ reached
  have invariant := reachable_invariant policy clock s reachable
  refine ⟨invariant_recoverable s invariant, ?_⟩
  rintro run id rfl lifecycle
  have fairLifecycle := quiet_fair run (lifecycleSteps id)
    (by rintro event (⟨startedAt, now, rfl⟩ | ⟨now, rfl⟩) <;> rfl) lifecycle
  refine ⟨?_, ?_⟩
  · intro operation completion
    have fairOperation := quiet_fair run (operationSteps id) (by rintro event ⟨now, rfl⟩; rfl) operation
    have fairCompletion := quiet_fair run (completionSteps id)
      (by rintro event ⟨ending, now, rfl⟩; rfl) completion
    have invoked := (quietRun run).leads_to_trans _ _ _
      (leads_to_launched (quietRun run) invariant id fairLifecycle)
      (leads_to_invoked (quietRun run) invariant id fairOperation)
    have released := (quietRun run).leads_to_trans _ _ _
      ((quietRun run).leads_to_trans _ _ _ invoked (leads_to_done (quietRun run) invariant id fairCompletion))
      (leads_to_released (quietRun run) invariant id fairLifecycle)
    have complete : (quietRun run).LeadsTo (fun t => (t.ledger id).slotReleases = 1)
        (fun t => (t.operations id).isDone = true ∧ (t.ledger id).slotReleases = 1 ∧
          (t.ledger id).allocationReleases = 1) := by
      refine (quietRun run).leads_to_refl _ _ ?_
      intro n slot
      exact released_complete _ (run_invariant (quietRun run) invariant n) id slot
    exact (quietRun run).leads_to_trans _ _ _ released complete
  · intro caller timer time
    have fair : Fair (quietRun run) id :=
      ⟨fairLifecycle, quiet_fair run (callerSteps id) (by rintro event ⟨now, rfl⟩; rfl) caller,
        quiet_fair run (timerSteps id) (by rintro event ⟨now, rfl⟩; rfl) timer, time⟩
    exact leads_to_ended (quietRun run) invariant id fair (reachable_present policy clock _ reachable)

-- The slot is taken and there is no task that would give it back.
def Stranded (s : State α ε) : Prop :=
  s.workerActive = true ∧ ∀ id, (s.lifecycles id).alive = false

theorem stranded_tasks (s t : State α ε) (stranded : Stranded s) (same : SameTasks s t) : Stranded t := by
  refine ⟨same.workerActive.trans stranded.1, ?_⟩
  rw [same.lifecycles]
  exact stranded.2

theorem stranded_execute (s : State α ε) (stranded : Stranded s) (args : Arguments)
    (enqueuedAt now : ℚ) : Stranded (execute s args enqueuedAt now) := by
  unfold execute
  dsimp only
  split
  · exact stranded
  · split
    · exact stranded
    · split
      · exact stranded
      · rename_i request valid accepting room
        generalize admitted : enqueue { s with next := s.next + 1, clock := now } s.next request
          enqueuedAt = u
        have tasks : SameTasks s u := by
          rw [← admitted]
          exact ⟨rfl, rfl, rfl⟩
        have same : dispatchLocked u now = u := by
          unfold dispatchLocked
          rw [if_pos (tasks.workerActive.trans stranded.1)]
        rw [same]
        exact stranded_tasks s _ stranded (same_tasks_trans s u _ tasks (resume_tasks u s.next now))

theorem stranded_step (s : State α ε) (event : Event α ε) (stranded : Stranded s)
    (guard : (scheduler α ε).enabled s event) : Stranded ((scheduler α ε).perform s event) := by
  cases event with
  | execute args enqueuedAt now => exact stranded_execute _ stranded args enqueuedAt now
  | timerFires id now => exact stranded
  | cancelCaller id now => exact stranded
  | resumeCaller id now => exact stranded_tasks (s.at now) _ stranded (resume_tasks (s.at now) id now)
  | startLifecycle id startedAt now =>
      have created : s.lifecycles id = .created := guard.2.1
      have dead := stranded.2 id
      rw [created] at dead
      cases dead
  | wakeLifecycle id now => cases (stranded.2 id).symm.trans (lifecycle_ready_alive _ now _ guard.2)
  | cancelLifecycle id now => cases (stranded.2 id).symm.trans guard.2
  | startOperation id now => exact stranded
  | completeOperation id ending now => exact stranded
  | shutdown now => exact stranded_tasks (s.at now) _ stranded (shutdown_tasks (s.at now))
  | startWaiter k now => exact stranded
  | wakeWaiter k now => exact stranded
  | returnShutdown k now => exact stranded
  | cancelShutdown k now => exact stranded
  | tick now => exact stranded

theorem stranded_forever (s t : State α ε) (stranded : Stranded s)
    (reached : (scheduler α ε).Reaches Set.univ s t) : Stranded t :=
  (scheduler α ε).reaches_invariant Set.univ Stranded
    (fun a event _ held guard => stranded_step a event held guard) s t reached stranded

def admittedState : State Nat String :=
  (scheduler Nat String).perform (initial samplePolicy 0) (.execute (sampleCall .protected) 0 0)

theorem admitted_reachable : Reachable samplePolicy 0 admittedState :=
  (scheduler Nat String).reaches_perform undisturbed _ _ (.execute (sampleCall .protected) 0 0) .refl rfl
    (by decide +kernel)

-- The task of the first job is cancelled before its first step.
def preemptedRun : List (Event Nat String) :=
  [.execute (sampleCall .protected) 0 0, .cancelLifecycle 0 0]

def preemptedState : State Nat String :=
  (scheduler Nat String).performAll (initial samplePolicy 0) preemptedRun

theorem cancelled_before_start_strands :
    (scheduler Nat String).Reaches Set.univ (initial samplePolicy 0) preemptedState ∧
      preemptedState.allocated .protected = 1 ∧ (∀ id, preemptedState.operations id = .notCreated) ∧
      ∀ t, (scheduler Nat String).Reaches Set.univ preemptedState t →
        t.workerActive = true ∧ ∀ id, (t.lifecycles id).alive = false := by
  have fresh : ∀ id, id ≠ 0 → view admittedState id = .absent := by
    intro id other
    apply (reachable_invariant samplePolicy 0 admittedState admitted_reachable).fresh id
    have next : admittedState.next = 1 := by decide +kernel
    omega
  have lifecycles : ∀ id, (preemptedState.lifecycles id).alive = false := by
    intro id
    by_cases first : id = 0
    · rw [first]
      decide +kernel
    · have kept : preemptedState.lifecycles id = admittedState.lifecycles id := Function.update_of_ne first _ _
      have none : admittedState.lifecycles id = .none := congrArg View.lifecycle (fresh id first)
      rw [kept, none]
      rfl
  refine ⟨?_, by decide +kernel, ?_, ?_⟩
  · exact System.reaches_perform_all _ Set.univ _ preemptedRun (fun _ _ => trivial) (by decide +kernel)
  · intro id
    by_cases first : id = 0
    · rw [first]
      decide +kernel
    · exact congrArg View.operation (fresh id first)
  · intro t reached
    exact stranded_forever preemptedState t ⟨by decide +kernel, lifecycles⟩ reached

-- The same task is cancelled while it waits for its operation.
def deferredRun : List (Event Nat String) :=
  [.execute (sampleCall .protected) 0 0, .startLifecycle 0 0 0, .startOperation 0 0, .cancelLifecycle 0 1,
    .completeOperation 0 (.value 7) 2, .wakeLifecycle 0 2]

def deferredState : State Nat String :=
  (scheduler Nat String).performAll (initial samplePolicy 0) deferredRun

theorem deferred_reachable :
    (deferring Nat String).Reaches Set.univ (initial samplePolicy 0) deferredState := by
  apply System.reaches_perform_all (deferring Nat String) Set.univ _ deferredRun (fun _ _ => trivial)
  have started : ((scheduler Nat String).performAll (initial samplePolicy 0)
      (deferredRun.take 3)).lifecycles 0 ≠ .created := by decide +kernel
  refine ⟨⟨?_, trivial⟩, ⟨?_, trivial⟩, ⟨?_, trivial⟩, ⟨?_, started⟩, ⟨?_, trivial⟩, ⟨?_, trivial⟩, trivial⟩
  all_goals decide +kernel

theorem lifecycle_non_preemptible_sample :
    Recoverable deferredState ∧ (deferredState.ledger 0).slotReleases = 1 :=
  ⟨(lifecycle_non_preemptible samplePolicy 0 deferredState deferred_reachable).1, by decide +kernel⟩

end SchwabGateway.Scheduler
