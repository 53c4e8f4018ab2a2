import SchwabGateway.Scheduler.History

set_option autoImplicit false

namespace SchwabGateway.Scheduler

open SchwabGateway.Library

variable {α ε : Type}

def ClassRunning (s : State α ε) (p : PriorityClass) : Prop :=
  ∃ id, (s.jobs id).state = .running ∧ (s.jobs id).priority = p

structure Accounted (s : State α ε) : Prop where
  occupied : ∀ p, ClassRunning s p → s.allocated p = (s.queues p).length + 1
  unoccupied : ∀ p, ¬ ClassRunning s p → s.allocated p = (s.queues p).length
  limited : ∀ p, s.allocated p ≤ s.limits p
  worker : s.workerActive = true ↔ ∃! id, (s.jobs id).state = .running
  queued : ∀ id, (s.jobs id).state = .queued → (s.queues (s.jobs id).priority).count id = 1
  members : ∀ p, ∀ id ∈ s.queues p, (s.jobs id).state = .queued ∧ (s.jobs id).priority = p
  awake : s.workerActive = false → ∀ p, s.queues p = []
  idle : s.idle = true ↔ ∀ p, s.allocated p = 0

theorem invariant_accounted (s : State α ε) (invariant : Invariant s) : Accounted s := by
  obtain ⟨slot, balanced⟩ := invariant.balanced
  have allocation : ∀ p, s.allocated p = (s.queues p).length + (accounts s).occupancy slot p :=
    balanced.allocation
  have running : ∀ id, (s.jobs id).state = .running ↔ slot = some id := balanced.running
  refine
    { occupied := ?_, unoccupied := ?_, limited := balanced.bounded, worker := ?_, queued := ?_,
      members := fun p id member => (balanced.members p id).mp member, awake := invariant.settled.waits,
      idle := ⟨balanced.idleSound, invariant.settled.idleComplete⟩ }
  · intro p ⟨id, run, priority⟩
    have held : (accounts s).occupancy slot p = 1 := by
      rw [(running id).mp run]
      exact if_pos priority
    rw [allocation p, held]
  · intro p nobody
    have free : (accounts s).occupancy slot p = 0 := by
      cases slot with
      | none => rfl
      | some id => exact if_neg (fun priority => nobody ⟨id, (running id).mpr rfl, priority⟩)
    rw [allocation p, free, Int.add_zero]
  · have active : s.workerActive = slot.isSome := balanced.active
    rw [active]
    constructor
    · intro some
      obtain ⟨id, held⟩ := Option.isSome_iff_exists.mp some
      refine ⟨id, (running id).mpr held, ?_⟩
      intro other run
      exact Option.some.inj (((running other).mp run).symm.trans held)
    · rintro ⟨id, run, _⟩
      rw [(running id).mp run]
      rfl
  · intro id queued
    have distinct : (s.queues (s.jobs id).priority).Nodup := (balanced.ordered _).imp (fun less => less.ne)
    exact List.count_eq_one_of_mem distinct ((balanced.members _ id).mpr ⟨queued, rfl⟩)

theorem reachable_limits (policy : AdmissionPolicy) (clock : ℚ) (s : State α ε)
    (reachable : Reachable policy clock s) : s.limits = policy.limits := by
  have related := (scheduler α ε).reaches_related undisturbed Invariant
    (fun a b : State α ε => b.limits = a.limits) (fun _ => rfl)
    (fun _ _ _ first second => second.trans first) invariant_step
    (fun a event member held guarded =>
      (steps_frame _ _ (step_spec a event held member guarded).lock.steps).1)
    _ s reachable (invariant_initial policy clock)
  exact related

theorem execute_full (s : State α ε) (args : Arguments) (request : Request) (enqueuedAt now : ℚ)
    (valid : validate args = .ok request) (accepting : s.accepting = true)
    (full : (s.limits request.priority : Int) ≤ s.allocated request.priority) :
    (execute s args enqueuedAt now).callers s.next = .ended (.raised (.capacity capacityUnavailable)) := by
  have enough : ¬ s.accepting = false := by simp [accepting]
  simp only [execute, valid, if_neg enough, if_pos full]
  simp [endCall, State.setCaller]

theorem execute_room (s : State α ε) (args : Arguments) (request : Request) (enqueuedAt now : ℚ)
    (valid : validate args = .ok request) (accepting : s.accepting = true)
    (room : s.allocated request.priority < s.limits request.priority) :
    execute s args enqueuedAt now =
      resumeCaller (dispatchLocked (enqueue { s with next := s.next + 1, clock := now } s.next request
        enqueuedAt) now) s.next now := by
  have enough : ¬ s.accepting = false := by simp [accepting]
  have below : ¬ (s.limits request.priority : Int) ≤ s.allocated request.priority := by omega
  simp only [execute, valid, if_neg enough, if_neg below]

theorem execute_arrives (s : State α ε) (invariant : Invariant s) (args : Arguments) (enqueuedAt now : ℚ) :
    ((scheduler α ε).perform s (.execute args enqueuedAt now)).next = s.next + 1 ∧
      1 ≤ (((scheduler α ε).perform s (.execute args enqueuedAt now)).callers s.next).phase := by
  have performed : (scheduler α ε).perform s (.execute args enqueuedAt now) =
      execute (s.at now) args enqueuedAt now := rfl
  rw [performed]
  cases valid : validate args with
  | error message => simp [execute, valid, endCall, State.setCaller, State.at, Caller.phase]
  | ok request =>
      by_cases accepting : s.accepting = true
      · by_cases room : s.allocated request.priority < s.limits request.priority
        · rw [execute_room (s.at now) args request enqueuedAt now valid accepting room]
          obtain ⟨_, next, own, _⟩ := admission_spec (s.at now) (balanced_at s now invariant.balanced)
            (invariant.fresh s.next (Nat.le_refl _)) request enqueuedAt accepting room _ rfl
          exact ⟨next, (keeps_steps _ _ _ own (consistent_enqueue now request enqueuedAt)).phase⟩
        · have full : (s.limits request.priority : Int) ≤ s.allocated request.priority := by omega
          simp [execute, valid, endCall, State.setCaller, State.at, accepting, full, Caller.phase]
      · simp [execute, valid, endCall, State.setCaller, State.at, accepting, Caller.phase]

theorem execute_next (s : State α ε) (invariant : Invariant s) (args : Arguments) (enqueuedAt now : ℚ) :
    ((scheduler α ε).perform s (.execute args enqueuedAt now)).next = s.next + 1 :=
  (execute_arrives s invariant args enqueuedAt now).1

theorem other_next (s : State α ε) (event : Event α ε) (invariant : Invariant s)
    (member : event ∈ (undisturbed : Set (Event α ε))) (guarded : (scheduler α ε).enabled s event)
    (other : ∀ args enqueuedAt now, event ≠ .execute args enqueuedAt now) :
    ((scheduler α ε).perform s event).next = s.next := by
  cases event with
  | execute args enqueuedAt now => exact absurd rfl (other args enqueuedAt now)
  | resumeCaller id now => exact resume_next (s.at now) id now
  | startLifecycle id startedAt now =>
      exact congrArg Accounts.next (accounts_start_run_job (s.at now) id startedAt now guarded.2.1)
  | wakeLifecycle id now =>
      have alive : ((s.at now).lifecycles id).alive = true := lifecycle_ready_alive _ now _ guarded.2
      obtain ⟨slot, balanced⟩ := balanced_at s now invariant.balanced
      have held := lifecycle_running (s.at now) slot balanced id alive
      rcases wake_run_cases (s.at now) id now alive with same | ⟨job, startedAt, deadline, state, priority, _, finished⟩
      · exact congrArg Accounts.next same
      · have still : Balanced (accounts ((s.at now).setJob id job)) (some id) := by
          rwa [accounts_set_futures (s.at now) id job state priority]
        have vacated := balanced_finish _ id startedAt deadline still
        have performed : (scheduler α ε).perform s (.wakeLifecycle id now) = wakeRunJob (s.at now) id now := rfl
        rw [performed, finished]
        exact (dispatch_frame _ none now vacated).next
  | shutdown now =>
      have same : ∀ (ids : List Nat) (t : State α ε), (ids.foldl removeForShutdown t).next = t.next := by
        intro ids
        induction ids with
        | nil => exact fun _ => rfl
        | cons id rest ih => exact fun t => ih (removeForShutdown t id)
      exact same (queuedJobs s) { s.at now with accepting := false }
  | cancelLifecycle id now => exact absurd member (by simp [undisturbed, Event.disturbs])
  | timerFires id now => rfl
  | cancelCaller id now => rfl
  | startOperation id now => rfl
  | completeOperation id ending now => rfl
  | startWaiter k now => rfl
  | wakeWaiter k now => rfl
  | returnShutdown k now => rfl
  | cancelShutdown k now => rfl
  | tick now => rfl

def Present (s : State α ε) : Prop := ∀ id, id < s.next → 1 ≤ (s.callers id).phase

theorem present_step (s : State α ε) (event : Event α ε) (member : event ∈ (undisturbed : Set (Event α ε)))
    (invariant : Invariant s) (present : Present s) (guarded : (scheduler α ε).enabled s event) :
    Present ((scheduler α ε).perform s event) := by
  intro id known
  have kept : id < s.next → 1 ≤ (((scheduler α ε).perform s event).callers id).phase := fun earlier =>
    le_trans (present id earlier) (keeps_perform s event member invariant guarded id earlier).phase
  by_cases arrival : ∃ args enqueuedAt now, event = .execute args enqueuedAt now
  · obtain ⟨args, enqueuedAt, now, rfl⟩ := arrival
    rw [execute_next s invariant args enqueuedAt now] at known
    by_cases same : id = s.next
    · subst same
      exact (execute_arrives s invariant args enqueuedAt now).2
    · exact kept (by omega)
  · have next := other_next s event invariant member guarded
      (fun args enqueuedAt now same => arrival ⟨args, enqueuedAt, now, same⟩)
    rw [next] at known
    exact kept known

theorem room_admitted (s : State α ε) (args : Arguments) (request : Request) (enqueuedAt now : ℚ)
    (invariant : Invariant s) (valid : validate args = .ok request) (accepting : s.accepting = true)
    (room : s.allocated request.priority < s.limits request.priority) :
    (((scheduler α ε).perform s (.execute args enqueuedAt now)).ledger s.next).admittedAt = some enqueuedAt := by
  have balanced := balanced_at s now invariant.balanced
  obtain ⟨_, _, own, _⟩ := admission_spec (s.at now) balanced (invariant.fresh s.next (Nat.le_refl _)) request
    enqueuedAt accepting room _ rfl
  have kept := (keeps_steps _ _ _ own (consistent_enqueue now request enqueuedAt)).admittedAt
  have same := execute_room (s.at now) args request enqueuedAt now valid accepting room
  have performed : (scheduler α ε).perform s (.execute args enqueuedAt now) =
      execute (s.at now) args enqueuedAt now := rfl
  rw [performed, same]
  exact kept

theorem room_not_rejected (s : State α ε) (args : Arguments) (request : Request) (enqueuedAt now : ℚ)
    (invariant : Invariant s) (valid : validate args = .ok request) (accepting : s.accepting = true)
    (room : s.allocated request.priority < s.limits request.priority)
    (guarded : (scheduler α ε).enabled s (.execute args enqueuedAt now)) (message : String) :
    ((scheduler α ε).perform s (.execute args enqueuedAt now)).callers s.next ≠
      .ended (.raised (.capacity message)) := by
  intro ended
  have admitted := room_admitted s args request enqueuedAt now invariant valid accepting room
  have owed := ((invariant_step s (.execute args enqueuedAt now) rfl invariant guarded).consistent s.next).caller
  have caller : (view ((scheduler α ε).perform s (.execute args enqueuedAt now)) s.next).caller =
      .ended (.raised (.capacity message)) := ended
  rw [caller] at owed
  have unadmitted :
      (((scheduler α ε).perform s (.execute args enqueuedAt now)).ledger s.next).admittedAt = none := owed
  simp [admitted] at unadmitted

theorem scheduler_accounting (policy : AdmissionPolicy) (clock : ℚ) (s : State α ε)
    (reachable : Reachable policy clock s) :
    Accounted s ∧ s.limits = policy.limits ∧
      ∀ args request enqueuedAt now, validate args = .ok request → s.accepting = true →
        (scheduler α ε).enabled s (.execute args enqueuedAt now) →
        ((∃ message, ((scheduler α ε).perform s (.execute args enqueuedAt now)).callers s.next =
          .ended (.raised (.capacity message))) ↔
            s.allocated request.priority = policy.limits request.priority) := by
  have invariant := reachable_invariant policy clock s reachable
  have limits := reachable_limits policy clock s reachable
  refine ⟨invariant_accounted s invariant, limits, ?_⟩
  intro args request enqueuedAt now valid accepting guarded
  have below := (invariant_accounted s invariant).limited request.priority
  rw [← limits]
  constructor
  · rintro ⟨message, rejected⟩
    by_contra different
    exact room_not_rejected s args request enqueuedAt now invariant valid accepting
      (by omega) guarded message rejected
  · intro full
    exact ⟨capacityUnavailable, execute_full (s.at now) args request enqueuedAt now valid accepting
      (le_of_eq full.symm)⟩

-- A run with one slot for each class: a background call takes the slot, a
-- protected one waits behind it and is dispatched when it is done.
def samplePolicy : AdmissionPolicy := ⟨1, 1, by decide, by decide⟩

def sampleCall (p : PriorityClass) : Arguments := ⟨p, "get_account", .finite 5, .finite 10, none⟩

def sampleRun : List (Event Nat String) :=
  [.execute (sampleCall .background) 0 0, .execute (sampleCall .protected) 1 1, .startLifecycle 0 1 1,
    .startOperation 0 1, .completeOperation 0 (.value 7) 2, .wakeLifecycle 0 2, .resumeCaller 0 2]

def sampleState : State Nat String := (scheduler Nat String).performAll (initial samplePolicy 0) sampleRun

theorem sample_reachable : Reachable samplePolicy 0 sampleState :=
  (scheduler Nat String).reaches_perform_all undisturbed _ sampleRun
    (by simp [sampleRun, undisturbed, Event.disturbs]) (by decide +kernel)

def sampleRequest : Request :=
  ⟨.protected, "get_account", 5, 10, none, by decide, by decide +kernel, by decide +kernel⟩

theorem sample_valid : validate (sampleCall .protected) = .ok sampleRequest := rfl

theorem scheduler_accounting_sample : Accounted sampleState ∧
    ((∃ message, ((scheduler Nat String).perform sampleState (.execute (sampleCall .protected) 3 3)).callers
      sampleState.next = .ended (.raised (.capacity message))) ↔
        sampleState.allocated .protected = samplePolicy.limits .protected) :=
  have ⟨accounted, _, rejected⟩ := scheduler_accounting samplePolicy 0 sampleState sample_reachable
  ⟨accounted, rejected (sampleCall .protected) sampleRequest 3 3 sample_valid (by decide +kernel)
    (by decide +kernel)⟩

end SchwabGateway.Scheduler
