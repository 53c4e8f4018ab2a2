import SchwabGateway.Scheduler.Invariant

set_option autoImplicit false

namespace SchwabGateway.Scheduler

open SchwabGateway.Library

variable {α ε : Type}

-- The part of a step that is about one call: it is moved by its own steps, or
-- it arrives with this event.
inductive Moved (now : ℚ) (s t : State α ε) (id : Nat) : Prop where
  | stepped (steps : ViewSteps now (view s id) (view t id))
  | arrived (fresh : id = s.next) (later : t.next = s.next + 1) (arrival : Arrival now (view t id))

structure StepSpec (now : ℚ) (s t : State α ε) : Prop where
  lock : LockSection (accounts s) (accounts t)
  moved : ∀ id, Moved now s t id

theorem views_local (now : ℚ) (s t : State α ε) (id : Nat) (f : View α ε → View α ε)
    (only : ∀ other, view t other = if other = id then f (view s other) else view s other)
    (step : ViewStep now (view s id) (f (view s id))) (other : Nat) :
    ViewSteps now (view s other) (view t other) := by
  rw [only other]
  by_cases same : other = id
  · subst same
    rw [if_pos rfl]
    exact .single step
  · rw [if_neg same]
    exact .refl

theorem step_spec_local (now : ℚ) (s t : State α ε) (settled : Settled (accounts s))
    (same : accounts t = accounts s) (id : Nat) (f : View α ε → View α ε)
    (only : ∀ other, view t other = if other = id then f (view s other) else view s other)
    (step : ViewStep now (view s id) (f (view s id))) : StepSpec now s t := by
  refine ⟨?_, fun other => .stepped (views_local now s t id f only step other)⟩
  rw [same]
  exact lock_section_refl _ settled

theorem views_resume (s : State α ε) (id other : Nat) (now : ℚ) (waiting : (s.callers id).waiting = true) :
    ViewSteps now (view s other) (view (resumeCaller s id now) other) :=
  views_local now s _ id (fun v => v.resume now) (view_resume s id · now) (.resume _ waiting) other

theorem resume_next (s : State α ε) (id : Nat) (now : ℚ) : (resumeCaller s id now).next = s.next := by
  rcases accounts_resume s id now with same | ⟨_, released⟩
  · exact congrArg Accounts.next same
  · exact congrArg Accounts.next released

theorem accounts_start_run_job (s : State α ε) (id : Nat) (startedAt now : ℚ)
    (created : s.lifecycles id = .created) : accounts (startRunJob s id startedAt now) = accounts s := by
  have alive : (s.lifecycles id).alive = true := by rw [created]; rfl
  simp only [startRunJob]
  split
  · exact accounts_give_up (s.setOperation id .created) id _ _ now alive
  · exact accounts_set_lifecycle (s.setOperation id .created) id _ alive.symm

theorem accounts_enqueue_next (s : State α ε) (request : Request) (enqueuedAt now : ℚ) :
    accounts (enqueue { s with next := s.next + 1, clock := now } s.next request enqueuedAt) =
      { accounts { s with clock := now } with next := s.next + 1 }.enqueue request.priority s.next := by
  rw [accounts_enqueue]
  rfl

theorem balanced_admission (s : State α ε) (slot : Option Nat) (now : ℚ) (balanced : Balanced (accounts s) slot)
    (request : Request) (enqueuedAt : ℚ) (accepting : s.accepting = true)
    (room : s.allocated request.priority < s.limits request.priority) :
    Balanced (accounts (enqueue { s with next := s.next + 1, clock := now } s.next request enqueuedAt)) slot := by
  have ticked : Balanced (accounts { s with clock := now }) slot := { balanced with }
  rw [accounts_enqueue_next]
  exact balanced_enqueue _ slot ticked request.priority accepting room

theorem step_spec_refuse (now : ℚ) (s : State α ε) (settled : Settled (accounts s))
    (fresh : view s s.next = .absent) (error : Raised ε)
    (refusal : (∃ message, error = .valueError message) ∨ ∃ message, error = .capacity message) :
    StepSpec now s (endCall { s with next := s.next + 1, clock := s.clock } s.next (.raised error)) := by
  refine ⟨⟨.single (.refuse (accounts s)), settled.waits, settled.idleComplete⟩, ?_⟩
  intro id
  by_cases same : id = s.next
  · refine .arrived same rfl ?_
    subst same
    rw [view_end_call, if_pos rfl]
    have seen : view { s with next := s.next + 1, clock := s.clock } s.next = View.absent := fresh
    rw [seen]
    exact .refused error refusal
  · refine .stepped ?_
    rw [view_end_call, if_neg same]
    exact .refl

-- Admission, dispatch and the caller's first wait are one step.
theorem admission_spec (s : State α ε) (balanced : ∃ slot, Balanced (accounts s) slot)
    (fresh : view s s.next = .absent) (request : Request) (enqueuedAt : ℚ) (accepting : s.accepting = true)
    (room : s.allocated request.priority < s.limits request.priority) (t : State α ε)
    (final : t = resumeCaller (dispatchLocked (enqueue { s with next := s.next + 1, clock := s.clock } s.next
      request enqueuedAt) s.clock) s.next s.clock) :
    LockSection (accounts s) (accounts t) ∧ t.next = s.next + 1 ∧
      ViewSteps s.clock (View.absent.enqueue request enqueuedAt) (view t s.next) ∧
      ∀ id, id ≠ s.next → ViewSteps s.clock (view s id) (view t id) := by
  obtain ⟨slot, balanced⟩ := balanced
  generalize admittedEq : enqueue { s with next := s.next + 1, clock := s.clock } s.next request enqueuedAt = u
    at final
  have accountsEq : accounts u = { accounts s with next := s.next + 1 }.enqueue request.priority s.next := by
    rw [← admittedEq]
    exact accounts_enqueue_next s request enqueuedAt s.clock
  have admitted : Accounts.Step (accounts s) (accounts u) := by
    rw [accountsEq]
    exact .enqueue (accounts s) request.priority accepting room
  have held : Balanced (accounts u) slot := by
    rw [← admittedEq]
    exact balanced_admission s slot s.clock balanced request enqueuedAt accepting room
  have dispatched := dispatch_steps u slot s.clock held
  have settled := dispatch_settled u slot s.clock held
  have frame := dispatch_frame u slot s.clock held
  have after := balanced_steps _ _ dispatched ⟨slot, held⟩
  have resumed := lock_section_resume (dispatchLocked u s.clock) after settled s.next s.clock
  have waiting : ((dispatchLocked u s.clock).callers s.next).waiting = true := by
    rw [frame.callers, ← admittedEq]
    simp [enqueue, State.setCaller, State.setLedger, Caller.waiting]
  have moved : ∀ id, ViewSteps s.clock (view u id) (view t id) := fun id => by
    rw [final]
    exact (dispatch_views u slot s.clock held id).trans
      (views_resume (dispatchLocked u s.clock) s.next id s.clock waiting)
  have views : ∀ id, view u id = if id = s.next then (view s id).enqueue request enqueuedAt else view s id := by
    intro id
    rw [← admittedEq, view_enqueue]
    rfl
  refine ⟨?_, ?_, ?_, ?_⟩
  · rw [final]
    exact ⟨(Relation.ReflTransGen.head admitted dispatched).trans resumed.steps, resumed.settled⟩
  · rw [final, resume_next, frame.next, ← admittedEq]
    rfl
  · have own := moved s.next
    rwa [views, if_pos rfl, fresh] at own
  · intro id other
    have theirs := moved id
    rwa [views, if_neg other] at theirs

theorem step_spec_enqueue (s : State α ε) (balanced : ∃ slot, Balanced (accounts s) slot)
    (fresh : view s s.next = .absent) (request : Request) (enqueuedAt : ℚ)
    (early : enqueuedAt ≤ s.clock) (accepting : s.accepting = true)
    (room : s.allocated request.priority < s.limits request.priority) :
    StepSpec s.clock s
      (resumeCaller (dispatchLocked (enqueue { s with next := s.next + 1, clock := s.clock } s.next request
        enqueuedAt) s.clock) s.next s.clock) := by
  obtain ⟨lock, next, own, others⟩ :=
    admission_spec s balanced fresh request enqueuedAt accepting room _ rfl
  refine ⟨lock, fun id => ?_⟩
  by_cases same : id = s.next
  · subst same
    exact .arrived rfl next (.admitted request enqueuedAt early _ own)
  · exact .stepped (others id same)

theorem remove_all_spec (ids : List Nat) (s : State α ε) (balanced : ∃ slot, Balanced (accounts s) slot)
    (settled : Settled (accounts s)) (distinct : ids.Nodup) (queued : ∀ id ∈ ids, (s.jobs id).state = .queued) :
    LockSection (accounts s) (accounts (ids.foldl removeForShutdown s)) ∧
      ∀ id, view (ids.foldl removeForShutdown s) id =
        if id ∈ ids then (view s id).removeForShutdown else view s id := by
  induction ids generalizing s with
  | nil => exact ⟨lock_section_refl _ settled, fun id => by simp⟩
  | cons first rest ih =>
      obtain ⟨absent, distinct⟩ := List.nodup_cons.mp distinct
      have head : (accounts s).state first = .queued := queued first (by simp)
      have removed : LockSection (accounts s) (accounts (removeForShutdown s first)) := by
        rw [accounts_remove_for_shutdown]
        exact lock_section_release _ balanced settled first head
      have still : ∀ id ∈ rest, ((removeForShutdown s first).jobs id).state = .queued := by
        intro id member
        have different : id ≠ first := fun same => absent (same ▸ member)
        have seen := view_remove_for_shutdown s first id
        rw [if_neg different] at seen
        have same : (removeForShutdown s first).jobs id = s.jobs id := congrArg View.job seen
        rw [same]
        exact queued id (by simp [member])
      obtain ⟨lock, views⟩ := ih (removeForShutdown s first) (balanced_steps _ _ removed.steps balanced)
        removed.settled distinct still
      refine ⟨⟨removed.steps.trans lock.steps, lock.settled⟩, ?_⟩
      intro id
      rw [List.foldl_cons, views id, view_remove_for_shutdown]
      by_cases same : id = first
      · subst same
        simp [absent]
      · simp [same]

def queuedJobs (s : State α ε) : List Nat := s.queues .protected ++ s.queues .background

theorem mem_queued_jobs (s : State α ε) (slot : Option Nat) (balanced : Balanced (accounts s) slot) (id : Nat) :
    id ∈ queuedJobs s ↔ (s.jobs id).state = .queued := by
  have first : id ∈ s.queues .protected ↔ (s.jobs id).state = .queued ∧ (s.jobs id).priority = .protected :=
    balanced.members .protected id
  have second : id ∈ s.queues .background ↔ (s.jobs id).state = .queued ∧ (s.jobs id).priority = .background :=
    balanced.members .background id
  rw [queuedJobs, List.mem_append, first, second]
  cases (s.jobs id).priority <;> simp

theorem nodup_queued_jobs (s : State α ε) (slot : Option Nat) (balanced : Balanced (accounts s) slot) :
    (queuedJobs s).Nodup := by
  have distinct : ∀ p, (s.queues p).Nodup := fun p => (balanced.ordered p).imp (fun less => less.ne)
  refine List.Nodup.append (distinct _) (distinct _) ?_
  intro id first second
  have urgent := ((balanced.members .protected id).mp first).2
  have patient := ((balanced.members .background id).mp second).2
  simp [urgent] at patient

theorem shutdown_eq (s : State α ε) :
    shutdown s =
      { ((queuedJobs s).foldl removeForShutdown { s with accepting := false }).setShutdown
          ((queuedJobs s).foldl removeForShutdown { s with accepting := false }).nextShutdown .waiterCreated with
        nextShutdown :=
          ((queuedJobs s).foldl removeForShutdown { s with accepting := false }).nextShutdown + 1 } := rfl

theorem steps_closed (a b : Accounts) (steps : Accounts.Steps a b) (closed : a.accepting = false) :
    b.accepting = false ∧ (a.idle = true → b.idle = true) := by
  induction steps with
  | refl => exact ⟨closed, id⟩
  | tail _ step ih =>
      cases step with
      | enqueue p accepting room => exact absurd (ih.1.symm.trans accepting) (by simp)
      | refuse => exact ih
      | release id queued => exact ⟨ih.1, fun idle => by simp [Accounts.release, Accounts.settleIdle, ih.2 idle]⟩
      | start p id rest now free queue => exact ih
      | vacate id running => exact ih
      | settleIdle => exact ⟨ih.1, fun idle => by simp [Accounts.settleIdle, ih.2 idle]⟩
      | close => exact ⟨rfl, ih.2⟩
      | await k closed => exact ih
      | check k created => exact ih
      | wake k notified => exact ih
      | leave k done => exact ih

theorem step_spec_shutdown (s : State α ε) (balanced : ∃ slot, Balanced (accounts s) slot)
    (settled : Settled (accounts s)) (now : ℚ) : StepSpec now s (shutdown s) := by
  have closing : Accounts.Steps (accounts s) (accounts { s with accepting := false }) := .single (.close _)
  have closed := balanced_steps _ _ closing balanced
  obtain ⟨slot, held⟩ := balanced
  obtain ⟨lock, views⟩ := remove_all_spec (queuedJobs s) { s with accepting := false } closed
    ⟨settled.waits, settled.idleComplete⟩ (nodup_queued_jobs s slot held)
    (fun id member => (mem_queued_jobs s slot held id).mp member)
  rw [shutdown_eq]
  generalize (queuedJobs s).foldl removeForShutdown { s with accepting := false } = t at lock views
  have refused := (steps_closed _ _ lock.steps rfl).1
  refine ⟨⟨(closing.trans lock.steps).tail (.await (accounts t) t.nextShutdown refused),
    lock.settled.waits, lock.settled.idleComplete⟩, fun id => .stepped ?_⟩
  have seen : ∀ k n, view { t.setShutdown k .waiterCreated with nextShutdown := n } id = view t id :=
    fun _ _ => rfl
  rw [seen, views id]
  by_cases member : id ∈ queuedJobs s
  · rw [if_pos member]
    exact .single (.shutdown _ ((mem_queued_jobs s slot held id).mp member))
  · rw [if_neg member]
    exact .refl

theorem step_spec_execute (s : State α ε) (balanced : ∃ slot, Balanced (accounts s) slot)
    (settled : Settled (accounts s)) (fresh : view s s.next = .absent) (args : Arguments) (enqueuedAt : ℚ)
    (early : enqueuedAt ≤ s.clock) : StepSpec s.clock s (execute s args enqueuedAt s.clock) := by
  unfold execute
  cases validate args with
  | error message => exact step_spec_refuse s.clock s settled fresh _ (.inl ⟨message, rfl⟩)
  | ok request =>
      by_cases accepting : s.accepting = false
      · simp only [if_pos accepting]
        exact step_spec_refuse s.clock s settled fresh _ (.inr ⟨shuttingDown, rfl⟩)
      · by_cases full : (s.limits request.priority : Int) ≤ s.allocated request.priority
        · simp only [if_neg accepting, if_pos full]
          exact step_spec_refuse s.clock s settled fresh _ (.inr ⟨capacityUnavailable, rfl⟩)
        · simp only [if_neg accepting, if_neg full]
          exact step_spec_enqueue s balanced fresh request enqueuedAt early (by simpa using accepting)
            (by omega)

theorem step_spec_waiter (now : ℚ) (s : State α ε) (settled : Settled (accounts s)) (k : Nat)
    (call : ShutdownCall) (step : Accounts.Step (accounts s) ((accounts s).setShutdown k call)) :
    StepSpec now s (s.setShutdown k call) :=
  ⟨⟨.single step, settled.waits, settled.idleComplete⟩, fun _ => .stepped .refl⟩

theorem step_spec_refl (now : ℚ) (s : State α ε) (settled : Settled (accounts s)) : StepSpec now s s :=
  ⟨lock_section_refl _ settled, fun _ => .stepped .refl⟩

def State.at (s : State α ε) (now : ℚ) : State α ε := { s with clock := now }

theorem balanced_at (s : State α ε) (now : ℚ) (balanced : ∃ slot, Balanced (accounts s) slot) :
    ∃ slot, Balanced (accounts (s.at now)) slot := by
  obtain ⟨slot, balanced⟩ := balanced
  exact ⟨slot, { balanced with }⟩

theorem step_spec (s : State α ε) (event : Event α ε) (invariant : Invariant s)
    (member : event ∈ (undisturbed : Set (Event α ε))) (guarded : (scheduler α ε).enabled s event) :
    StepSpec event.now (s.at event.now) ((scheduler α ε).perform s event) := by
  obtain ⟨later, allowed⟩ := guarded
  have balanced := balanced_at s event.now invariant.balanced
  have settled : Settled (accounts (s.at event.now)) := ⟨invariant.settled.waits, invariant.settled.idleComplete⟩
  cases event with
  | execute args enqueuedAt now =>
      exact step_spec_execute (s.at now) balanced settled (invariant.fresh s.next (Nat.le_refl _)) args
        enqueuedAt allowed.2
  | timerFires id now =>
      exact step_spec_local now (s.at now) _ settled rfl id (fun v => { v with caller := v.caller.fireTimer })
        (view_fire_timer (s.at now) id) (.timer _ allowed.1 allowed.2)
  | cancelCaller id now =>
      exact step_spec_local now (s.at now) _ settled rfl id View.requestCancel
        (view_cancel_caller (s.at now) id) (.cancel _ allowed)
  | resumeCaller id now =>
      have waiting : ((s.at now).callers id).waiting = true := by
        have ready : callerReady (s.jobs id) (s.callers id) = true := allowed
        cases callerEq : s.callers id <;> simp_all [callerReady, State.at, Caller.waiting]
      exact ⟨lock_section_resume (s.at now) balanced settled id now,
        fun other => .stepped (views_resume (s.at now) id other now waiting)⟩
  | startLifecycle id startedAt now =>
      obtain ⟨created, early, past⟩ := allowed
      refine step_spec_local now (s.at now) _ settled (accounts_start_run_job (s.at now) id startedAt now created)
        id (fun v => v.startRunJob startedAt now) (view_start_run_job (s.at now) id · startedAt now)
        (.startRun _ startedAt created past ?_)
      intro dispatchedAt dispatched
      have stage := (invariant.consistent id).stage
      have lifecycle : (view s id).lifecycle = .created := created
      rw [lifecycle] at stage
      exact le_trans (stage_created_past _ _ _ _ stage dispatchedAt dispatched) early
  | wakeLifecycle id now =>
      exact ⟨lock_section_wake_run (s.at now) balanced settled id now allowed,
        fun other => .stepped (views_wake_run (s.at now) balanced id other now allowed)⟩
  | cancelLifecycle id now => exact absurd member (by simp [undisturbed, Event.disturbs])
  | startOperation id now =>
      have same : accounts (startOperation (s.at now) id) = accounts (s.at now) :=
        accounts_set_ledger ((s.at now).setOperation id .running) id _ rfl
      exact step_spec_local now (s.at now) _ settled same id View.startOperation
        (view_start_operation (s.at now) id) (.startOperation _ allowed)
  | completeOperation id ending now =>
      exact step_spec_local now (s.at now) _ settled rfl id (fun v => { v with operation := .done ending now })
        (view_complete_operation (s.at now) id · ending now) (.completeOperation _ ending allowed)
  | shutdown now => exact step_spec_shutdown (s.at now) balanced settled now
  | startWaiter k now => exact step_spec_waiter now (s.at now) settled k _ (.check _ k allowed)
  | wakeWaiter k now => exact step_spec_waiter now (s.at now) settled k _ (.wake _ k allowed)
  | returnShutdown k now => exact step_spec_waiter now (s.at now) settled k _ (.leave _ k allowed)
  | cancelShutdown k now => exact step_spec_refl now (s.at now) settled
  | tick now => exact step_spec_refl now (s.at now) settled

theorem view_step_absent (now : ℚ) (v : View α ε) : ¬ ViewStep now (View.absent : View α ε) v := by
  intro step
  cases step with
  | dispatch queued live => cases queued
  | expire queued late => cases queued
  | shutdown queued => cases queued
  | timer armed late => cases armed
  | cancel waiting => cases waiting
  | resume waiting => cases waiting
  | startRun startedAt created early after => cases created
  | wakeRun ready => cases ready
  | startOperation created => cases created
  | completeOperation ending running => cases running

theorem view_steps_absent (now : ℚ) (v : View α ε) (steps : ViewSteps now View.absent v) :
    v = View.absent := by
  cases Relation.ReflTransGen.cases_head steps with
  | inl same => exact same.symm
  | inr moved =>
      obtain ⟨w, step, _⟩ := moved
      exact absurd step (view_step_absent now w)

theorem step_clock (now : ℚ) (s t : State α ε) (spec : StepSpec now (s.at now) t) : t.clock = now :=
  (steps_frame _ _ spec.lock.steps).2.1

theorem invariant_step (s : State α ε) (event : Event α ε) (member : event ∈ (undisturbed : Set (Event α ε)))
    (invariant : Invariant s) (guarded : (scheduler α ε).enabled s event) :
    Invariant ((scheduler α ε).perform s event) := by
  have later : s.clock ≤ event.now := guarded.1
  have spec := step_spec s event invariant member guarded
  have next := (steps_frame _ _ spec.lock.steps).2.2
  have clock := step_clock _ _ _ spec
  generalize (scheduler α ε).perform s event = t at spec next clock
  refine ⟨balanced_steps _ _ spec.lock.steps (balanced_at s _ invariant.balanced), spec.lock.settled, ?_, ?_⟩
  · intro id late
    cases spec.moved id with
    | stepped steps =>
        have before : view (s.at event.now) id = .absent := invariant.fresh id (le_trans next late)
        rw [before] at steps
        exact view_steps_absent _ _ steps
    | arrived fresh advanced arrival =>
        have seen : (s.at event.now).next = s.next := rfl
        omega
  · intro id
    rw [clock]
    cases spec.moved id with
    | stepped steps =>
        exact consistent_steps _ _ _ steps (consistent_mono _ _ later _ (invariant.consistent id))
    | arrived fresh advanced arrival => exact consistent_arrival _ _ arrival

theorem invariant_initial (policy : AdmissionPolicy) (clock : ℚ) :
    Invariant (initial policy clock : State α ε) where
  balanced := ⟨none,
    { members := fun p id => by simp [accounts, initial, Job.absent]
      ordered := fun p => .nil
      fresh := fun id _ => rfl
      running := fun id => by simp [accounts, initial, Job.absent]
      alive := fun id => by simp [accounts, initial, Job.absent, Lifecycle.alive]
      allocation := fun p => rfl
      active := rfl
      bounded := fun p => Int.natCast_nonneg _
      idleSound := fun _ p => rfl
      known := fun id dispatched => nomatch dispatched
      recorded := fun id => by simp [accounts, initial]
      waiting := fun p id queued => nomatch queued
      served := .nil
      closing := fun k called => absurd rfl called
      released := fun k gone => nomatch gone }⟩
  settled := ⟨fun _ p => rfl, fun _ => rfl⟩
  fresh := fun id _ => rfl
  consistent := fun id => consistent_absent clock

theorem reachable_invariant (policy : AdmissionPolicy) (clock : ℚ) (s : State α ε)
    (reachable : Reachable policy clock s) : Invariant s :=
  (scheduler α ε).reaches_invariant undisturbed Invariant invariant_step _ s reachable
    (invariant_initial policy clock)

end SchwabGateway.Scheduler
