import SchwabGateway.Scheduler.Execution

set_option autoImplicit false

namespace SchwabGateway.Scheduler

open SchwabGateway.Library

variable {α ε : Type}

structure Turn (now : ℚ) (s t : State α ε) : Prop where
  request : ∀ id, (t.jobs id).priority = (s.jobs id).priority ∧
    (t.jobs id).queueDeadline = (s.jobs id).queueDeadline
  passed : ∀ id, (s.jobs id).state = .queued →
    (t.jobs id).state = .queued ∨ (t.jobs id).state = .running ∨ (s.jobs id).queueDeadline ≤ now
  started : t.dispatches = s.dispatches ∨ ∃ id, t.dispatches = id :: s.dispatches ∧
    (t.ledger id).dispatchedAt = some now ∧ (t.jobs id).state = .running ∧
    now < (t.jobs id).queueDeadline ∧ ((t.jobs id).priority = .background → t.queues .protected = [])

structure Skipping (now : ℚ) (s t : State α ε) : Prop where
  request : ∀ id, (t.jobs id).priority = (s.jobs id).priority ∧
    (t.jobs id).queueDeadline = (s.jobs id).queueDeadline
  passed : ∀ id, (s.jobs id).state = .queued →
    (t.jobs id).state = .queued ∨ (s.jobs id).queueDeadline ≤ now
  dispatches : t.dispatches = s.dispatches

theorem skipping_turn (now : ℚ) (s t : State α ε) (skipping : Skipping now s t) : Turn now s t where
  request := skipping.request
  passed := fun id queued => (skipping.passed id queued).imp_right .inr
  started := .inl skipping.dispatches

theorem skipping_expire (now : ℚ) (s t : State α ε) (id : Nat) (skipping : Skipping now s t)
    (late : (t.jobs id).queueDeadline ≤ now) : Skipping now s (expireQueuedLocked t id now) := by
  have seen : ∀ other, (expireQueuedLocked t id now).jobs other =
      if other = id then ((view t other).expire now).job else t.jobs other := by
    intro other
    have whole := congrArg View.job (view_expire t id other now)
    by_cases same : other = id
    · rw [if_pos same] at whole ⊢
      exact whole
    · rw [if_neg same] at whole ⊢
      exact whole
  refine ⟨?_, ?_, skipping.dispatches⟩
  · intro other
    rw [seen other]
    by_cases same : other = id
    · rw [if_pos same]
      exact skipping.request other
    · rw [if_neg same]
      exact skipping.request other
  · intro other queued
    rw [seen other]
    by_cases same : other = id
    · subst same
      refine .inr ?_
      rwa [← (skipping.request other).2]
    · rw [if_neg same]
      exact skipping.passed other queued

theorem skipping_start (now : ℚ) (s t : State α ε) (id : Nat) (rest : List Nat) (skipping : Skipping now s t)
    (balanced : Balanced (accounts t) none) (queue : t.queues (selectedClass t) = id :: rest)
    (live : now < (t.jobs id).queueDeadline) : Turn now s (startJob t (selectedClass t) id now) := by
  have member : id ∈ (accounts t).queues (selectedClass t) := by simp [accounts, queue]
  have priority : (t.jobs id).priority = selectedClass t := ((balanced.members _ id).mp member).2
  have seen : ∀ other, (startJob t (selectedClass t) id now).jobs other =
      if other = id then ((view t other).start now).job else t.jobs other := by
    intro other
    have whole := congrArg View.job (view_start t id other (selectedClass t) now)
    by_cases same : other = id
    · rw [if_pos same] at whole ⊢
      exact whole
    · rw [if_neg same] at whole ⊢
      exact whole
  have own := seen id
  rw [if_pos rfl] at own
  refine ⟨?_, ?_, .inr ⟨id, congrArg (List.cons id) skipping.dispatches, ?_, ?_, ?_, ?_⟩⟩
  · intro other
    rw [seen other]
    by_cases same : other = id
    · rw [if_pos same]
      exact skipping.request other
    · rw [if_neg same]
      exact skipping.request other
  · intro other queued
    rw [seen other]
    by_cases same : other = id
    · subst same
      rw [if_pos rfl]
      exact .inr (.inl rfl)
    · rw [if_neg same]
      exact (skipping.passed other queued).imp_right .inr
  · simp [startJob, State.setLedger]
  · rw [own]
    rfl
  · rw [own]
    exact live
  · intro background
    rw [own] at background
    have chosen : selectedClass t = .background := priority.symm.trans background
    have empty : t.queues .protected = [] := by
      by_contra waiting
      simp [selectedClass, waiting] at chosen
    rw [chosen]
    simpa [startJob, State.setQueue, State.setJob, State.setLifecycle, State.setLedger] using empty

theorem dispatch_turn (s : State α ε) (slot : Option Nat) (now : ℚ) (balanced : Balanced (accounts s) slot) :
    Turn now s (dispatchLocked s now) := by
  have initially : Skipping now s s := ⟨fun _ => ⟨rfl, rfl⟩, fun _ queued => .inl queued, rfl⟩
  refine dispatch_locked_rule now (Skipping now s) (Turn now s) ?_ ?_ ?_ s slot initially balanced
    (fun _ => skipping_turn now s s initially)
  · exact fun t id skipping _ _ late => skipping_expire now s t id skipping late
  · exact fun t id rest skipping before queue live => skipping_start now s t id rest skipping before queue live
  · exact fun t skipping _ _ => skipping_turn now s _ { skipping with }

structure Dispatched (now : ℚ) (s t : State α ε) (b : Nat) : Prop where
  time : (t.ledger b).dispatchedAt = some now
  live : now < (t.jobs b).queueDeadline
  first : (t.jobs b).priority = .background → t.queues .protected = [] ∧
    ∀ q, (s.jobs q).state = .queued → (s.jobs q).priority = .protected → (s.jobs q).queueDeadline ≤ now

-- before is the state at the start of the step: the queued jobs reach the call
-- of _dispatch_locked as they were.
theorem turn_dispatched (now : ℚ) (before s t : State α ε) (slot : Option Nat)
    (untouched : ∀ q, (before.jobs q).state = .queued → s.jobs q = before.jobs q)
    (turn : Turn now s t) (balanced : Balanced (accounts t) slot) :
    t.dispatches = s.dispatches ∨ ∃ b, t.dispatches = b :: s.dispatches ∧ Dispatched now before t b := by
  rcases turn.started with same | ⟨b, pushed, time, running, live, empty⟩
  · exact .inl same
  · refine .inr ⟨b, pushed, time, live, fun background => ⟨empty background, ?_⟩⟩
    intro q queued urgent
    have own := untouched q queued
    rw [← own] at queued urgent ⊢
    have priority := (turn.request q).1.trans urgent
    rcases turn.passed q queued with waiting | run | late
    · have member : q ∈ t.queues .protected := (balanced.members .protected q).mpr ⟨waiting, priority⟩
      rw [empty background] at member
      cases member
    · have same : q = b :=
        Option.some.inj (((balanced.running q).mp run).symm.trans ((balanced.running b).mp running))
      rw [same, background] at priority
      cases priority
    · exact late

theorem dispatched_resume (now : ℚ) (s t : State α ε) (id b : Nat) (waiting : (t.callers id).waiting = true)
    (dispatched : Dispatched now s t b) : Dispatched now s (resumeCaller t id now) b := by
  have kept : Keeps (view t b) (view (resumeCaller t id now) b) := by
    rw [view_resume]
    by_cases same : b = id
    · subst same
      rw [if_pos rfl]
      exact keeps_resume now (view t b) waiting
    · rw [if_neg same]
      exact keeps_refl _
  have some : (view t b).ledger.dispatchedAt ≠ none := by simp [view, dispatched.time]
  have deadline : ((resumeCaller t id now).jobs b).queueDeadline = (t.jobs b).queueDeadline := kept.queueDeadline
  have priority : ((resumeCaller t id now).jobs b).priority = (t.jobs b).priority := kept.priority
  refine ⟨(kept.dispatchedAt some).trans dispatched.time, ?_, ?_⟩
  · rw [deadline]
    exact dispatched.live
  · intro background
    rw [priority] at background
    obtain ⟨empty, late⟩ := dispatched.first background
    refine ⟨?_, late⟩
    have shrunk : (accounts (resumeCaller t id now)).queues .protected = [] := by
      rcases accounts_resume t id now with same | ⟨_, released⟩
      · rw [same]
        exact empty
      · rw [released]
        by_cases own : (t.jobs id).priority = .protected
        · simp [Accounts.release, Accounts.settleIdle, accounts, own, empty]
        · have other : PriorityClass.protected ≠ (t.jobs id).priority := Ne.symm own
          simp [Accounts.release, Accounts.settleIdle, accounts, other, empty]
    exact shrunk

theorem remove_all_dispatches (ids : List Nat) (s : State α ε) :
    (ids.foldl removeForShutdown s).dispatches = s.dispatches := by
  induction ids generalizing s with
  | nil => rfl
  | cons id rest ih => exact ih (removeForShutdown s id)

theorem admitted_dispatches (s : State α ε) (slot : Option Nat) (now : ℚ) (request : Request) (enqueuedAt : ℚ)
    (fresh : (s.jobs s.next).state = .finished) (t : State α ε)
    (admitted : t = enqueue { s with next := s.next + 1, clock := now } s.next request enqueuedAt)
    (held : Balanced (accounts t) slot) :
    (resumeCaller (dispatchLocked t now) s.next now).dispatches = s.dispatches ∨
      ∃ b, (resumeCaller (dispatchLocked t now) s.next now).dispatches = b :: s.dispatches ∧
        Dispatched now s (resumeCaller (dispatchLocked t now) s.next now) b := by
  have untouched : ∀ q, (s.jobs q).state = .queued → t.jobs q = s.jobs q := by
    intro q queued
    have different : q ≠ s.next := by
      rintro rfl
      simp [fresh] at queued
    simp [admitted, enqueue, State.setAllocated, State.setJob, State.setQueue, State.setCaller,
      State.setLedger, different]
  have waiting : ((dispatchLocked t now).callers s.next).waiting = true := by
    rw [(dispatch_frame t slot now held).callers, admitted]
    simp [enqueue, State.setCaller, State.setLedger, Caller.waiting]
  have listed : t.dispatches = s.dispatches := by
    rw [admitted]
    rfl
  obtain ⟨next, balanced⟩ := balanced_steps _ _ (dispatch_steps t slot now held) ⟨slot, held⟩
  have resumed : (resumeCaller (dispatchLocked t now) s.next now).dispatches = (dispatchLocked t now).dispatches := by
    rcases accounts_resume (dispatchLocked t now) s.next now with same | ⟨_, released⟩
    · exact congrArg Accounts.dispatches same
    · exact congrArg Accounts.dispatches released
  rw [resumed, ← listed]
  refine (turn_dispatched now s t _ next untouched (dispatch_turn t slot now held) balanced).imp_right ?_
  rintro ⟨b, pushed, dispatched⟩
  exact ⟨b, pushed, dispatched_resume now s _ s.next b waiting dispatched⟩

theorem execute_dispatches (s : State α ε) (invariant : Invariant s) (args : Arguments) (enqueuedAt now : ℚ) :
    (execute (s.at now) args enqueuedAt now).dispatches = s.dispatches ∨
      ∃ b, (execute (s.at now) args enqueuedAt now).dispatches = b :: s.dispatches ∧
        Dispatched now s (execute (s.at now) args enqueuedAt now) b := by
  cases valid : validate args with
  | error message => exact .inl (by simp [execute, valid, endCall, State.setCaller, State.at])
  | ok request =>
      by_cases accepting : s.accepting = true
      · by_cases room : s.allocated request.priority < s.limits request.priority
        · rw [execute_room (s.at now) args request enqueuedAt now valid accepting room]
          obtain ⟨slot, balanced⟩ := invariant.balanced
          have held := balanced_admission s slot now balanced request enqueuedAt accepting room
          have fresh : (s.jobs s.next).state = .finished :=
            congrArg (fun v => v.job.state) (invariant.fresh s.next (Nat.le_refl _))
          exact admitted_dispatches s slot now request enqueuedAt fresh _ rfl held
        · have full : (s.limits request.priority : Int) ≤ s.allocated request.priority := by omega
          exact .inl (by simp [execute, valid, endCall, State.setCaller, State.at, accepting, full])
      · exact .inl (by simp [execute, valid, endCall, State.setCaller, State.at, accepting])

theorem finish_dispatches (s : State α ε) (id : Nat) (startedAt deadline now : ℚ)
    (balanced : Balanced (accounts s) (some id)) :
    (finishRunJob s id startedAt deadline now).dispatches = s.dispatches ∨
      ∃ b, (finishRunJob s id startedAt deadline now).dispatches = b :: s.dispatches ∧
        Dispatched now s (finishRunJob s id startedAt deadline now) b := by
  have running : (s.jobs id).state = .running := (balanced.running id).mpr rfl
  have untouched : ∀ q, (s.jobs q).state = .queued → (vacate s id startedAt deadline).jobs q = s.jobs q := by
    intro q queued
    have different : q ≠ id := by
      rintro rfl
      simp [running] at queued
    simp [vacate, State.setJob, State.setAllocated, State.setLifecycle, State.setLedger, different]
  have vacated := balanced_finish s id startedAt deadline balanced
  obtain ⟨slot, after⟩ := balanced_steps _ _ (dispatch_steps _ none now vacated) ⟨none, vacated⟩
  rw [finish_run_job_eq]
  refine (turn_dispatched now s (vacate s id startedAt deadline) _ slot untouched
    (dispatch_turn _ none now vacated) after).imp_right ?_
  rintro ⟨b, pushed, dispatched⟩
  exact ⟨b, pushed, { dispatched with }⟩

theorem wake_dispatches (s : State α ε) (invariant : Invariant s) (id : Nat) (now : ℚ)
    (ready : lifecycleReady (s.operations id) now (s.lifecycles id) = true) :
    (wakeRunJob (s.at now) id now).dispatches = s.dispatches ∨
      ∃ b, (wakeRunJob (s.at now) id now).dispatches = b :: s.dispatches ∧
        Dispatched now s (wakeRunJob (s.at now) id now) b := by
  have alive : ((s.at now).lifecycles id).alive = true := lifecycle_ready_alive _ now _ ready
  obtain ⟨slot, balanced⟩ := balanced_at s now invariant.balanced
  have held := lifecycle_running (s.at now) slot balanced id alive
  rcases wake_run_cases (s.at now) id now alive with same | ⟨job, startedAt, deadline, state, priority, queueDeadline, finished⟩
  · exact .inl (congrArg Accounts.dispatches same)
  · rw [finished]
    have still : Balanced (accounts ((s.at now).setJob id job)) (some id) := by
      rwa [accounts_set_futures (s.at now) id job state priority]
    refine (finish_dispatches ((s.at now).setJob id job) id startedAt deadline now still).imp_right ?_
    rintro ⟨b, pushed, dispatched⟩
    refine ⟨b, pushed, { dispatched with first := fun background => ?_ }⟩
    obtain ⟨empty, late⟩ := dispatched.first background
    refine ⟨empty, fun q queued urgent => ?_⟩
    have seen : ((s.at now).setJob id job).jobs q = if q = id then job else s.jobs q := by
      by_cases same : q = id <;> simp [State.setJob, State.at, same]
    have kept := late q
    rw [seen] at kept
    by_cases same : q = id
    · subst same
      rw [if_pos rfl, state, priority, queueDeadline] at kept
      exact kept queued urgent
    · rw [if_neg same] at kept
      exact kept queued urgent

theorem step_dispatches (s : State α ε) (event : Event α ε) (invariant : Invariant s)
    (member : event ∈ (undisturbed : Set (Event α ε))) (guarded : (scheduler α ε).enabled s event) :
    ((scheduler α ε).perform s event).dispatches = s.dispatches ∨
      ∃ b, ((scheduler α ε).perform s event).dispatches = b :: s.dispatches ∧
        Dispatched event.now s ((scheduler α ε).perform s event) b := by
  cases event with
  | execute args enqueuedAt now => exact execute_dispatches s invariant args enqueuedAt now
  | wakeLifecycle id now => exact wake_dispatches s invariant id now guarded.2
  | resumeCaller id now =>
      rcases accounts_resume (s.at now) id now with same | ⟨_, released⟩
      · exact .inl (congrArg Accounts.dispatches same)
      · exact .inl (congrArg Accounts.dispatches released)
  | startLifecycle id startedAt now =>
      exact .inl (congrArg Accounts.dispatches (accounts_start_run_job (s.at now) id startedAt now guarded.2.1))
  | shutdown now => exact .inl (remove_all_dispatches (queuedJobs s) { s.at now with accepting := false })
  | cancelLifecycle id now => exact absurd member (by simp [undisturbed, Event.disturbs])
  | timerFires id now => exact .inl rfl
  | cancelCaller id now => exact .inl rfl
  | startOperation id now => exact .inl rfl
  | completeOperation id ending now => exact .inl rfl
  | startWaiter k now => exact .inl rfl
  | wakeWaiter k now => exact .inl rfl
  | returnShutdown k now => exact .inl rfl
  | cancelShutdown k now => exact .inl rfl
  | tick now => exact .inl rfl

theorem stage_running_dispatched (clock : ℚ) (job : Job α ε) (lifecycle : Lifecycle) (operation : Operation α ε)
    (ledger : Ledger) (stage : JobStage clock job lifecycle operation ledger) (running : job.state = .running) :
    ledger.dispatchedAt ≠ none := by
  cases stage with
  | created => simp
  | waiting => simp
  | draining => simp
  | ran => simp
  | absent same => simp [same, Job.absent] at running
  | queued _ state => simp [running] at state
  | expired _ _ state => simp [running] at state
  | removed _ _ state => simp [running] at state

theorem no_overtaking_step (s : State α ε) (event : Event α ε) (invariant : Invariant s)
    (member : event ∈ (undisturbed : Set (Event α ε))) (guarded : (scheduler α ε).enabled s event) (p b : Nat)
    (waiting : (((scheduler α ε).perform s event).jobs p).state = .queued)
    (urgent : (((scheduler α ε).perform s event).jobs p).priority = .protected)
    (running : (((scheduler α ε).perform s event).jobs b).state = .running)
    (background : (((scheduler α ε).perform s event).jobs b).priority = .background) :
    (s.jobs b).state = .running := by
  have after := invariant_step s event member invariant guarded
  have moved := step_dispatches s event invariant member guarded
  have kept : b < s.next → Keeps (view s b) (view ((scheduler α ε).perform s event) b) :=
    keeps_perform s event member invariant guarded b
  generalize (scheduler α ε).perform s event = t at waiting urgent running background after moved kept
  obtain ⟨slot, balanced⟩ := after.balanced
  obtain ⟨_, before⟩ := invariant.balanced
  have dispatched : b ∈ t.dispatches := by
    refine (balanced.recorded b).mpr ?_
    exact stage_running_dispatched _ _ _ _ _ (after.consistent b).stage running
  have earlier : b ∈ s.dispatches := by
    rcases moved with same | ⟨c, pushed, first⟩
    · rwa [same] at dispatched
    · rw [pushed] at dispatched
      cases List.mem_cons.mp dispatched with
      | inr earlier => exact earlier
      | inl same =>
          subst same
          have empty := (first.first background).1
          have queued : p ∈ t.queues .protected := (balanced.members .protected p).mpr ⟨waiting, urgent⟩
          rw [empty] at queued
          cases queued
  have known := before.known b earlier
  rcases stage_slot _ _ _ _ _ (invariant.consistent b).stage ((before.recorded b).mp earlier) with ⟨run, _⟩ | ⟨done, _⟩
  · exact run
  · have still : (t.jobs b).state = .finished := (kept known).finished done
    simp [running] at still

theorem running_known (s : State α ε) (invariant : Invariant s) (id : Nat) (running : (s.jobs id).state = .running) :
    id < s.next := by
  by_contra late
  have absent := invariant.fresh id (Nat.le_of_not_lt late)
  have finished : (s.jobs id).state = .finished := congrArg (fun v => v.job.state) absent
  simp [running] at finished

theorem no_overtaking (s t : State α ε) (invariant : Invariant s) (p b : Nat) (known : p < s.next)
    (reached : (scheduler α ε).Reaches undisturbed s t) (waiting : (t.jobs p).state = .queued)
    (urgent : (t.jobs p).priority = .protected) (running : (t.jobs b).state = .running)
    (background : (t.jobs b).priority = .background) : (s.jobs b).state = .running := by
  induction reached with
  | refl => exact running
  | @tail m t earlier step ih =>
      obtain ⟨event, member, guarded, rfl⟩ := step
      have held := (scheduler α ε).reaches_invariant undisturbed Invariant invariant_step s m earlier invariant
      have before := no_overtaking_step m event held member guarded p b waiting urgent running background
      have later : s.next ≤ m.next := next_mono_reaches s m invariant earlier
      have own := keeps_perform m event member held guarded p (lt_of_lt_of_le known later)
      have theirs := keeps_perform m event member held guarded b (running_known m held b before)
      exact ih (own.queued waiting) (own.priority.symm.trans urgent) before (theirs.priority.symm.trans background)

theorem stage_live (clock : ℚ) (job : Job α ε) (lifecycle : Lifecycle) (operation : Operation α ε)
    (ledger : Ledger) (stage : JobStage clock job lifecycle operation ledger) (dispatchedAt : ℚ)
    (dispatched : ledger.dispatchedAt = some dispatchedAt) : dispatchedAt < job.queueDeadline := by
  cases stage with
  | created _ known _ _ _ _ live => exact Option.some.inj dispatched ▸ live
  | waiting _ known _ _ _ _ _ _ live => exact Option.some.inj dispatched ▸ live
  | draining _ known _ _ _ _ _ _ _ live => exact Option.some.inj dispatched ▸ live
  | ran _ known _ _ _ _ _ _ _ live => exact Option.some.inj dispatched ▸ live
  | absent => cases dispatched
  | queued => cases dispatched
  | expired => cases dispatched
  | removed => cases dispatched

theorem stage_left_queue (clock : ℚ) (job : Job α ε) (lifecycle : Lifecycle) (operation : Operation α ε)
    (ledger : Ledger) (stage : JobStage clock job lifecycle operation ledger)
    (left : ledger.expiredAt ≠ none ∨ ledger.removed = true) :
    ledger.dispatchedAt = none ∧ ledger.invocations = 0 ∧ operation = .notCreated := by
  cases stage with
  | expired => exact ⟨rfl, rfl, rfl⟩
  | removed => exact ⟨rfl, rfl, rfl⟩
  | absent => simp at left
  | queued => simp at left
  | created => simp at left
  | waiting => simp at left
  | draining => simp at left
  | ran => simp at left

theorem left_queue_forever (s t : State α ε) (invariant : Invariant s) (id : Nat)
    (left : (s.ledger id).expiredAt ≠ none ∨ (s.ledger id).removed = true)
    (reached : (scheduler α ε).Reaches undisturbed s t) :
    (t.ledger id).dispatchedAt = none ∧ (t.ledger id).invocations = 0 ∧ t.operations id = .notCreated := by
  have known : id < s.next := by
    by_contra late
    have absent := congrArg View.ledger (invariant.fresh id (Nat.le_of_not_lt late))
    have empty : s.ledger id = {} := absent
    simp [empty] at left
  have kept := keeps_reaches s t invariant reached id known
  have held := (scheduler α ε).reaches_invariant undisturbed Invariant invariant_step s t reached invariant
  exact stage_left_queue _ _ _ _ _ (held.consistent id).stage (left.imp kept.expired kept.removed)

theorem dispatch_discipline (policy : AdmissionPolicy) (clock : ℚ) (s : State α ε)
    (reachable : Reachable policy clock s) :
    (∀ event ∈ (undisturbed : Set (Event α ε)), (scheduler α ε).enabled s event →
      ((scheduler α ε).perform s event).dispatches = s.dispatches ∨
        ∃ b, ((scheduler α ε).perform s event).dispatches = b :: s.dispatches ∧
          Dispatched event.now s ((scheduler α ε).perform s event) b) ∧
    (∀ args enqueuedAt now t b, (scheduler α ε).enabled s (.execute args enqueuedAt now) →
      (scheduler α ε).Reaches undisturbed ((scheduler α ε).perform s (.execute args enqueuedAt now)) t →
      (t.jobs s.next).state = .queued → (t.jobs s.next).priority = .protected →
      (t.jobs b).state = .running → (t.jobs b).priority = .background → (s.jobs b).state = .running) ∧
    (∀ id, id ∈ s.dispatches ↔ (s.ledger id).dispatchedAt ≠ none) ∧
    s.dispatches.Pairwise
      (fun later earlier => (s.jobs later).priority = (s.jobs earlier).priority → earlier < later) ∧
    (∀ id dispatchedAt, (s.ledger id).dispatchedAt = some dispatchedAt →
      dispatchedAt < (s.jobs id).queueDeadline) ∧
    ∀ id t, (s.ledger id).expiredAt ≠ none ∨ (s.ledger id).removed = true →
      (scheduler α ε).Reaches undisturbed s t →
      (t.ledger id).dispatchedAt = none ∧ (t.ledger id).invocations = 0 ∧ t.operations id = .notCreated := by
  have invariant := reachable_invariant policy clock s reachable
  obtain ⟨slot, balanced⟩ := invariant.balanced
  refine ⟨fun event member guarded => step_dispatches s event invariant member guarded, ?_, balanced.recorded,
    balanced.served, fun id => stage_live _ _ _ _ _ (invariant.consistent id).stage,
    fun id t left reached => left_queue_forever s t invariant id left reached⟩
  intro args enqueuedAt now t b guarded reached waiting urgent running background
  have known := execute_next s invariant args enqueuedAt now
  have after := invariant_step s (.execute args enqueuedAt now) rfl invariant guarded
  have first := no_overtaking_step s (.execute args enqueuedAt now) invariant rfl guarded s.next b
  generalize (scheduler α ε).perform s (.execute args enqueuedAt now) = u at known after first reached
  have own := keeps_reaches u t after reached s.next (by omega)
  have busy := no_overtaking u t after s.next b (by omega) reached waiting urgent running background
  have theirs := keeps_reaches u t after reached b (running_known u after b busy)
  exact first (own.queued waiting) (own.priority.symm.trans urgent) busy (theirs.priority.symm.trans background)

def occupiedState : State Nat String :=
  (scheduler Nat String).performAll (initial samplePolicy 0) [.execute (sampleCall .background) 0 0]

theorem occupied_reachable : Reachable samplePolicy 0 occupiedState :=
  (scheduler Nat String).reaches_perform_all undisturbed _ [.execute (sampleCall .background) 0 0]
    (by simp [undisturbed, Event.disturbs]) (by decide +kernel)

theorem dispatch_discipline_occupied : (occupiedState.jobs 0).state = .running :=
  (dispatch_discipline samplePolicy 0 occupiedState occupied_reachable).2.1 (sampleCall .protected) 1 1 _ 0
    (by decide +kernel) .refl (by decide +kernel) (by decide +kernel) (by decide +kernel) (by decide +kernel)

end SchwabGateway.Scheduler
