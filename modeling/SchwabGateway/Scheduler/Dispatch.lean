import SchwabGateway.Scheduler.Accounts

set_option autoImplicit false

namespace SchwabGateway.Scheduler

open SchwabGateway.Library (field_update field_kept)

variable {α ε : Type}

theorem accounts_set_idle_if_drained (s : State α ε) :
    accounts (setIdleIfDrained s) = (accounts s).settleIdle := rfl

theorem accounts_set_ledger (s : State α ε) (id : Nat) (ledger : Ledger)
    (dispatchedAt : ledger.dispatchedAt = (s.ledger id).dispatchedAt) :
    accounts (s.setLedger id ledger) = accounts s := by
  have times : (fun other => ((s.setLedger id ledger).ledger other).dispatchedAt) =
      fun other => (s.ledger other).dispatchedAt :=
    field_kept s.ledger Ledger.dispatchedAt id ledger dispatchedAt
  simp only [accounts, times]
  rfl

theorem accounts_release (s : State α ε) (id : Nat) :
    accounts (releaseQueuedLocked s id) = (accounts s).release id := by
  have state : (fun other => ((releaseQueuedLocked s id).jobs other).state) =
      Function.update (fun other => (s.jobs other).state) id .finished :=
    field_update s.jobs Job.state id _
  have priority : (fun other => ((releaseQueuedLocked s id).jobs other).priority) =
      fun other => (s.jobs other).priority := field_kept s.jobs Job.priority id _ rfl
  have times : (fun other => ((releaseQueuedLocked s id).ledger other).dispatchedAt) =
      fun other => (s.ledger other).dispatchedAt := field_kept s.ledger Ledger.dispatchedAt id _ rfl
  simp only [accounts, state, priority, times]
  rfl

theorem accounts_set_futures (s : State α ε) (id : Nat) (job : Job α ε)
    (state : job.state = (s.jobs id).state) (priority : job.priority = (s.jobs id).priority) :
    accounts (s.setJob id job) = accounts s := by
  have states : (fun other => ((s.setJob id job).jobs other).state) = fun other => (s.jobs other).state :=
    field_kept s.jobs Job.state id job state
  have priorities : (fun other => ((s.setJob id job).jobs other).priority) =
      fun other => (s.jobs other).priority := field_kept s.jobs Job.priority id job priority
  simp only [accounts, states, priorities]
  rfl

theorem accounts_set_lifecycle (s : State α ε) (id : Nat) (lifecycle : Lifecycle)
    (alive : lifecycle.alive = (s.lifecycles id).alive) :
    accounts (s.setLifecycle id lifecycle) = accounts s := by
  have lives : (fun other => ((s.setLifecycle id lifecycle).lifecycles other).alive) =
      fun other => (s.lifecycles other).alive := field_kept s.lifecycles Lifecycle.alive id lifecycle alive
  simp only [accounts, lives]
  rfl

theorem accounts_remove (s : State α ε) (id : Nat) :
    accounts (removeQueuedLocked s id) = (accounts s).release id := by
  rw [← accounts_release]
  refine (accounts_set_ledger _ id _ ?_).trans (accounts_set_futures (releaseQueuedLocked s id) id _ ?_ ?_)
  all_goals rfl

theorem accounts_remove_for_shutdown (s : State α ε) (id : Nat) :
    accounts (removeForShutdown s id) = (accounts s).release id := by
  refine (accounts_set_ledger _ id _ ?_).trans (accounts_remove s id)
  rfl

theorem accounts_expire (s : State α ε) (id : Nat) (now : ℚ) :
    accounts (expireQueuedLocked s id now) = (accounts s).release id := by
  rw [← accounts_release]
  refine (accounts_set_ledger _ id _ ?_).trans (accounts_set_futures (releaseQueuedLocked s id) id _ ?_ ?_)
  all_goals rfl

theorem accounts_start (s : State α ε) (p : PriorityClass) (id : Nat) (now : ℚ) :
    accounts (startJob s p id now) = (accounts s).start p id now := by
  have state : (fun other => ((startJob s p id now).jobs other).state) =
      Function.update (fun other => (s.jobs other).state) id .running :=
    field_update s.jobs Job.state id _
  have priority : (fun other => ((startJob s p id now).jobs other).priority) =
      fun other => (s.jobs other).priority := field_kept s.jobs Job.priority id _ rfl
  have alive : (fun other => ((startJob s p id now).lifecycles other).alive) =
      Function.update (fun other => (s.lifecycles other).alive) id true :=
    field_update s.lifecycles Lifecycle.alive id .created
  have times : (fun other => ((startJob s p id now).ledger other).dispatchedAt) =
      Function.update (fun other => (s.ledger other).dispatchedAt) id (some now) :=
    field_update s.ledger Ledger.dispatchedAt id _
  simp only [accounts, state, priority, alive, times]
  rfl

theorem accounts_enqueue (s : State α ε) (id : Nat) (request : Request) (enqueuedAt : ℚ) :
    accounts (enqueue s id request enqueuedAt) = (accounts s).enqueue request.priority id := by
  have state : (fun other => ((enqueue s id request enqueuedAt).jobs other).state) =
      Function.update (fun other => (s.jobs other).state) id .queued :=
    field_update s.jobs Job.state id _
  have priority : (fun other => ((enqueue s id request enqueuedAt).jobs other).priority) =
      Function.update (fun other => (s.jobs other).priority) id request.priority :=
    field_update s.jobs Job.priority id _
  have times : (fun other => ((enqueue s id request enqueuedAt).ledger other).dispatchedAt) =
      fun other => (s.ledger other).dispatchedAt := field_kept s.ledger Ledger.dispatchedAt id _ rfl
  simp only [accounts, state, priority, times]
  rfl

theorem selected_class_empty (s : State α ε) (empty : s.queues (selectedClass s) = []) (p : PriorityClass) :
    s.queues p = [] := by
  by_cases nobody : s.queues .protected = []
  · have chosen : selectedClass s = .background := by simp [selectedClass, nobody]
    rw [chosen] at empty
    cases p with
    | «protected» => exact nobody
    | background => exact empty
  · have chosen : selectedClass s = .protected := by simp [selectedClass, nobody]
    rw [chosen] at empty
    exact absurd empty nobody

def queuedTotal (s : State α ε) : Nat :=
  (s.queues .protected).length + (s.queues .background).length

theorem queued_total_expire (s : State α ε) (p : PriorityClass) (id : Nat) (rest : List Nat) (now : ℚ)
    (queue : s.queues p = id :: rest) (priority : (s.jobs id).priority = p) :
    queuedTotal (expireQueuedLocked s id now) + 1 = queuedTotal s := by
  have queues : (expireQueuedLocked s id now).queues =
      Function.update s.queues p ((s.queues p).erase id) := by
    rw [← priority]
    rfl
  simp only [queuedTotal, queues, queue, List.erase_cons_head]
  cases p with
  | «protected» => simp [queue]; omega
  | background => simp [queue]; omega

-- The rule for the loop of _dispatch_locked: kept holds at the top of every
-- turn, and the loop ends by starting a live head or with both queues empty.
theorem dispatch_loop_rule (now : ℚ) (kept final : State α ε → Prop)
    (expired : ∀ s id, kept s → Balanced (accounts s) none → (s.jobs id).state = .queued →
      (s.jobs id).queueDeadline ≤ now → kept (expireQueuedLocked s id now))
    (started : ∀ s id rest, kept s → Balanced (accounts s) none →
      s.queues (selectedClass s) = id :: rest → now < (s.jobs id).queueDeadline →
      final (startJob s (selectedClass s) id now))
    (exhausted : ∀ s, kept s → Balanced (accounts s) none → (∀ p, s.queues p = []) →
      final (setIdleIfDrained s))
    (turns : Nat) (s : State α ε) (holds : kept s) (balanced : Balanced (accounts s) none)
    (enough : queuedTotal s < turns) : final (dispatchLoop now turns s) := by
  induction turns generalizing s with
  | zero => omega
  | succ turns ih =>
      rw [dispatchLoop]
      generalize queueEq : s.queues (selectedClass s) = queue
      cases queue with
      | nil => exact exhausted s holds balanced (selected_class_empty s queueEq)
      | cons id rest =>
          by_cases live : now < (s.jobs id).queueDeadline
          · simpa only [if_pos live] using started s id rest holds balanced queueEq live
          · have late := not_lt.mp live
            have member : id ∈ (accounts s).queues (selectedClass s) := by simp [accounts, queueEq]
            obtain ⟨queued, priority⟩ := (balanced.members _ id).mp member
            have after : Balanced (accounts (expireQueuedLocked s id now)) none := by
              rw [accounts_expire]
              exact balanced_release _ none balanced id queued
            have fewer := queued_total_expire s _ id rest now queueEq priority
            simpa only [if_neg live] using
              ih (expireQueuedLocked s id now) (expired s id holds balanced queued late) after (by omega)

theorem dispatch_locked_rule (now : ℚ) (kept final : State α ε → Prop)
    (expired : ∀ s id, kept s → Balanced (accounts s) none → (s.jobs id).state = .queued →
      (s.jobs id).queueDeadline ≤ now → kept (expireQueuedLocked s id now))
    (started : ∀ s id rest, kept s → Balanced (accounts s) none →
      s.queues (selectedClass s) = id :: rest → now < (s.jobs id).queueDeadline →
      final (startJob s (selectedClass s) id now))
    (exhausted : ∀ s, kept s → Balanced (accounts s) none → (∀ p, s.queues p = []) →
      final (setIdleIfDrained s))
    (s : State α ε) (slot : Option Nat) (holds : kept s) (balanced : Balanced (accounts s) slot)
    (occupied : slot.isSome = true → final s) : final (dispatchLocked s now) := by
  have active : s.workerActive = slot.isSome := balanced.active
  cases slot with
  | some id => simpa only [dispatchLocked, active, Option.isSome_some, if_true] using occupied rfl
  | none =>
      simp only [dispatchLocked, active, Option.isSome_none, Bool.false_eq_true, if_false]
      exact dispatch_loop_rule now kept final expired started exhausted _ s holds balanced
        (Nat.lt_succ_self _)

theorem occupied_settled (a : Accounts) (id : Nat) (balanced : Balanced a (some id)) : Settled a := by
  constructor
  · intro inactive
    simp [balanced.active] at inactive
  · intro empty
    have exactly := balanced.allocation (a.priority id)
    rw [empty (a.priority id)] at exactly
    simp [Accounts.occupancy] at exactly
    omega

theorem dispatch_steps (s : State α ε) (slot : Option Nat) (now : ℚ)
    (balanced : Balanced (accounts s) slot) :
    Accounts.Steps (accounts s) (accounts (dispatchLocked s now)) := by
  refine dispatch_locked_rule now (fun t => Accounts.Steps (accounts s) (accounts t))
    (fun t => Accounts.Steps (accounts s) (accounts t)) ?_ ?_ ?_ s slot .refl balanced (fun _ => .refl)
  · intro t id earlier _ queued _
    rw [accounts_expire]
    exact earlier.tail (.release _ id queued)
  · intro t id rest earlier before queue _
    rw [accounts_start]
    exact earlier.tail (.start _ _ id rest now before.active queue)
  · intro t earlier _ _
    rw [accounts_set_idle_if_drained]
    exact earlier.tail (.settleIdle _)

theorem dispatch_settled (s : State α ε) (slot : Option Nat) (now : ℚ)
    (balanced : Balanced (accounts s) slot) : Settled (accounts (dispatchLocked s now)) := by
  refine dispatch_locked_rule now (fun _ => True) (fun t => Settled (accounts t)) ?_ ?_ ?_ s slot trivial
    balanced ?_
  · exact fun _ _ _ _ _ _ => trivial
  · intro t id rest _ before queue _
    rw [accounts_start]
    exact occupied_settled _ id (balanced_start _ before _ id rest now queue)
  · intro t _ before empty
    rw [accounts_set_idle_if_drained]
    exact ⟨fun _ p => empty p, settle_idle_complete _⟩
  · intro some
    obtain ⟨id, rfl⟩ := Option.isSome_iff_exists.mp some
    exact occupied_settled _ id balanced

theorem dispatch_views (s : State α ε) (slot : Option Nat) (now : ℚ)
    (balanced : Balanced (accounts s) slot) (id : Nat) :
    ViewSteps now (view s id) (view (dispatchLocked s now) id) := by
  refine dispatch_locked_rule now (fun t => ViewSteps now (view s id) (view t id))
    (fun t => ViewSteps now (view s id) (view t id)) ?_ ?_ ?_ s slot .refl balanced (fun _ => .refl)
  · intro t other earlier _ queued late
    rw [view_expire]
    by_cases same : id = other
    · subst same
      rw [if_pos rfl]
      exact earlier.tail (.expire (view t id) queued late)
    · rw [if_neg same]
      exact earlier
  · intro t other rest earlier before queue live
    have queued := ((before.members (selectedClass t) other).mp (by simp [accounts, queue])).1
    rw [view_start]
    by_cases same : id = other
    · subst same
      rw [if_pos rfl]
      exact earlier.tail (.dispatch (view t id) queued live)
    · rw [if_neg same]
      exact earlier
  · intro t earlier _ _
    exact earlier

structure DispatchFrame (s t : State α ε) : Prop where
  limits : t.limits = s.limits
  accepting : t.accepting = s.accepting
  clock : t.clock = s.clock
  next : t.next = s.next
  callers : t.callers = s.callers
  operations : t.operations = s.operations
  nextShutdown : t.nextShutdown = s.nextShutdown
  cancelRequested : t.cancelRequested = s.cancelRequested

theorem dispatch_frame (s : State α ε) (slot : Option Nat) (now : ℚ)
    (balanced : Balanced (accounts s) slot) : DispatchFrame s (dispatchLocked s now) := by
  refine dispatch_locked_rule now (DispatchFrame s) (DispatchFrame s) ?_ ?_ ?_ s slot
    ⟨rfl, rfl, rfl, rfl, rfl, rfl, rfl, rfl⟩ balanced (fun _ => ⟨rfl, rfl, rfl, rfl, rfl, rfl, rfl, rfl⟩)
  · exact fun t id same _ _ _ => { same with }
  · exact fun t id rest same _ _ _ => { same with }
  · exact fun t same _ _ => { same with }

end SchwabGateway.Scheduler
