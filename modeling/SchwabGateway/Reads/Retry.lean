import Mathlib.Data.List.Perm.Subperm
import SchwabGateway.Reads.Attempts
import SchwabGateway.Scheduler.Accounting

set_option autoImplicit false

namespace SchwabGateway.Reads

open SchwabGateway.Library

variable {V : Type}

theorem finish_build_frame (s : State V) (job : Nat) (ending : BuildEnding V) (handledAt wall now : ℚ) :
    (s.finishBuild job ending handledAt wall now).reads = s.reads ∧
      (s.finishBuild job ending handledAt wall now).owner = s.owner ∧
      (s.finishBuild job ending handledAt wall now).next = s.next ∧
      (s.finishBuild job ending handledAt wall now).builds = s.builds := by
  cases ending with
  | value result => exact ⟨rfl, rfl, rfl, rfl⟩
  | cancelled => exact ⟨rfl, rfl, rfl, rfl⟩
  | failure error =>
      simp only [State.finishBuild, State.act, raiseCooldown, recordHandled]
      split <;> split <;> exact ⟨rfl, rfl, rfl, rfl⟩

structure Budgets (settings : Settings) (s : State V) : Prop where
  reads : ∀ id, Budgeted settings s.scheduler (s.reads id)
  unused : ∀ id, s.next ≤ id → s.reads id = .absent
  owner : ∀ job, job < s.scheduler.next → s.owner job < s.next ∧
    ((s.reads (s.owner job)).first = some job ∨ (s.reads (s.owner job)).second = some job)
  distinct : (s.builds.map Build.job).Nodup
  built : ∀ build, build ∈ s.builds → build.job < s.scheduler.next ∧ build.read = s.owner build.job ∧
    (s.scheduler.operations build.job).invocations = 1

theorem budgets_initial (settings : Settings) (policy : AdmissionPolicy) (clock : ℚ) :
    Budgets settings (initial policy clock : State V) where
  reads := fun _ => budgeted_fresh settings _ _ rfl (fun attempt => by cases attempt <;> rfl)
  unused := fun _ _ => rfl
  owner := nofun
  distinct := List.nodup_nil
  built := nofun

theorem built_runs (s t : Scheduler.State V Failure) (invariant : Scheduler.Invariant s) (runs : Runs s t)
    (job : Nat) (known : job < s.next) (called : (s.operations job).invocations = 1) :
    job < t.next ∧ (t.operations job).invocations = 1 :=
  ⟨lt_of_lt_of_le known (Scheduler.next_mono_reaches s t invariant runs),
    (Scheduler.keeps_reaches s t invariant runs job known).called called⟩

theorem present_known (settings : Settings) (s : State V) (budgets : Budgets settings s) (id : Nat)
    (present : (s.reads id).stage ≠ .absent) : id < s.next := by
  by_contra late
  have absent := budgets.unused id (Nat.le_of_not_lt late)
  exact present (by rw [absent]; rfl)

theorem budgets_keep (settings : Settings) (s t : State V) (invariant : Scheduler.Invariant s.scheduler)
    (budgets : Budgets settings s) (runs : Runs s.scheduler t.scheduler)
    (calls : t.scheduler.next = s.scheduler.next)
    (frame : t.owner = s.owner ∧ t.next = s.next ∧ t.builds = s.builds)
    (jobs : ∀ id, (t.reads id).first = (s.reads id).first ∧ (t.reads id).second = (s.reads id).second)
    (unused : ∀ id, s.next ≤ id → t.reads id = .absent)
    (reads : ∀ id, Budgeted settings t.scheduler (t.reads id)) : Budgets settings t := by
  obtain ⟨owner, next, builds⟩ := frame
  refine ⟨reads, by rw [next]; exact unused, ?_, by rw [builds]; exact budgets.distinct, ?_⟩
  · intro job below
    rw [calls] at below
    rw [owner, next, (jobs _).1, (jobs _).2]
    exact budgets.owner job below
  · intro build member
    rw [builds] at member
    obtain ⟨below, own, called⟩ := budgets.built build member
    obtain ⟨still, once⟩ := built_runs s.scheduler t.scheduler invariant runs build.job below called
    rw [owner]
    exact ⟨still, own, once⟩

theorem budgets_frame (settings : Settings) (s t : State V) (invariant : Scheduler.Invariant s.scheduler)
    (budgets : Budgets settings s) (runs : Runs s.scheduler t.scheduler)
    (calls : t.scheduler.next = s.scheduler.next) (reads : t.reads = s.reads)
    (frame : t.owner = s.owner ∧ t.next = s.next ∧ t.builds = s.builds) : Budgets settings t := by
  apply budgets_keep settings s t invariant budgets runs calls frame
  · intro id
    rw [reads]
    exact ⟨rfl, rfl⟩
  · rw [reads]
    exact budgets.unused
  · intro id
    rw [reads]
    exact budgeted_runs settings s.scheduler t.scheduler invariant runs _ (budgets.reads id)

theorem budgets_write (settings : Settings) (s t : State V) (invariant : Scheduler.Invariant s.scheduler)
    (budgets : Budgets settings s) (runs : Runs s.scheduler t.scheduler)
    (calls : t.scheduler.next = s.scheduler.next)
    (frame : t.owner = s.owner ∧ t.next = s.next ∧ t.builds = s.builds)
    (id : Nat) (read : Read V) (known : id < s.next)
    (reads : t.reads = Function.update s.reads id read)
    (jobs : read.first = (s.reads id).first ∧ read.second = (s.reads id).second)
    (budgeted : Budgeted settings t.scheduler read) : Budgets settings t := by
  apply budgets_keep settings s t invariant budgets runs calls frame
  · intro other
    rw [reads]
    by_cases same : other = id
    · rw [same, Function.update_self]
      exact jobs
    · rw [Function.update_of_ne same]
      exact ⟨rfl, rfl⟩
  · intro other late
    rw [reads, Function.update_of_ne (by omega)]
    exact budgets.unused other late
  · intro other
    rw [reads]
    by_cases same : other = id
    · rw [same, Function.update_self]
      exact budgeted
    · rw [Function.update_of_ne same]
      exact budgeted_runs settings s.scheduler t.scheduler invariant runs _ (budgets.reads other)

structure Submittable (settings : Settings) (s : State V) (id : Nat) (attempt : Attempt)
    (args : Scheduler.Arguments) : Prop where
  known : id < s.next
  free : (s.reads id).job attempt = none
  deadline : (s.reads id).deadline = (s.reads id).startedAt + settings.upstreamTimeout
  fresh : attempt = .first → (s.reads id).second = none
  justified : attempt = .second → RetryJustified s.scheduler (s.reads id) ∧
    args.requestDeadline = some (.finite (s.reads id).deadline)

theorem with_job_kept (read : Read V) (attempt other : Attempt) (job : Nat) (different : other ≠ attempt) :
    (read.withJob attempt job).job other = read.job other := by
  cases attempt <;> cases other <;> first | rfl | exact absurd rfl different

theorem with_job_self (read : Read V) (attempt : Attempt) (job : Nat) :
    (read.withJob attempt job).awaits attempt job := by
  cases attempt <;> exact ⟨rfl, rfl⟩

theorem budgeted_with_job (settings : Settings) (s : State V) (t : Scheduler.State V Failure) (id : Nat)
    (attempt : Attempt) (args : Scheduler.Arguments) (invariant : Scheduler.Invariant s.scheduler)
    (submittable : Submittable settings s id attempt args)
    (budgeted : Budgeted settings s.scheduler (s.reads id)) (runs : Runs s.scheduler t)
    (later : s.scheduler.next < t.next)
    (bound : ∀ deadline, args.requestDeadline = some (.finite deadline) →
      Scheduler.BoundTo deadline (Scheduler.view t s.scheduler.next)) :
    Budgeted settings t ((s.reads id).withJob attempt s.scheduler.next) := by
  have known : ∀ other job, ((s.reads id).withJob attempt s.scheduler.next).job other = some job →
      job < t.next := by
    intro other job same
    by_cases own : other = attempt
    · rw [own, (with_job_self (s.reads id) attempt s.scheduler.next).2] at same
      cases same
      exact later
    · rw [with_job_kept _ _ _ _ own] at same
      exact lt_trans (budgeted.known other job same) later
  cases attempt with
  | first =>
      have none := submittable.fresh rfl
      exact
        { deadline := fun _ => submittable.deadline
          known := known
          unused := nofun
          executing := fun _ => none
          backoff := nofun
          second := fun job same => by cases none.symm.trans same
          returned := nofun }
  | second =>
      obtain ⟨justified, asked⟩ := submittable.justified rfl
      exact
        { deadline := fun _ => submittable.deadline
          known := known
          unused := nofun
          executing := nofun
          backoff := nofun
          second := fun job same => by
            cases same
            exact ⟨justified_runs s.scheduler t invariant runs (s.reads id) justified, bound _ asked⟩
          returned := nofun }

-- submit up to the point where execute has run until it first waits.
def State.submitted (s : State V) (id : Nat) (attempt : Attempt) (args : Scheduler.Arguments)
    (enqueuedAt now observedAt : ℚ) : State V :=
  let job := s.scheduler.next
  let s := { s with owner := Function.update s.owner job id }
  let s := s.setRead id ((s.reads id).withJob attempt job)
  (s.act (.execute args enqueuedAt now)).tick observedAt

theorem runs_submitted (s : State V) (id : Nat) (attempt : Attempt) (args : Scheduler.Arguments)
    (enqueuedAt now observedAt : ℚ) (invariant : Scheduler.Invariant s.scheduler)
    (early : s.scheduler.clock ≤ enqueuedAt) (between : enqueuedAt ≤ now) (late : now ≤ observedAt) :
    Runs s.scheduler (s.submitted id attempt args enqueuedAt now observedAt).scheduler :=
  runs_event_tick s.scheduler (.execute args enqueuedAt now) observedAt invariant rfl
    ⟨le_trans early between, early, between⟩ late

theorem submitted_bound (s : State V) (id : Nat) (attempt : Attempt) (args : Scheduler.Arguments)
    (enqueuedAt now observedAt deadline : ℚ) (invariant : Scheduler.Invariant s.scheduler)
    (given : args.requestDeadline = some (.finite deadline)) :
    Scheduler.BoundTo deadline
      (Scheduler.view (s.submitted id attempt args enqueuedAt now observedAt).scheduler s.scheduler.next) :=
  Scheduler.execute_bound s.scheduler invariant args enqueuedAt now deadline given

theorem submitted_next (s : State V) (id : Nat) (attempt : Attempt) (args : Scheduler.Arguments)
    (enqueuedAt now observedAt : ℚ) (invariant : Scheduler.Invariant s.scheduler) :
    (s.submitted id attempt args enqueuedAt now observedAt).scheduler.next = s.scheduler.next + 1 :=
  Scheduler.execute_next s.scheduler invariant args enqueuedAt now

theorem budgets_submitted (settings : Settings) (s : State V) (id : Nat) (attempt : Attempt)
    (args : Scheduler.Arguments) (enqueuedAt now observedAt : ℚ)
    (invariant : Scheduler.Invariant s.scheduler) (budgets : Budgets settings s)
    (submittable : Submittable settings s id attempt args)
    (early : s.scheduler.clock ≤ enqueuedAt) (between : enqueuedAt ≤ now) (late : now ≤ observedAt) :
    Budgets settings (s.submitted id attempt args enqueuedAt now observedAt) := by
  have runs := runs_submitted s id attempt args enqueuedAt now observedAt invariant early between late
  have next := submitted_next s id attempt args enqueuedAt now observedAt invariant
  refine ⟨?_, ?_, ?_, budgets.distinct, ?_⟩
  · intro other
    by_cases same : other = id
    · subst same
      have own := budgeted_with_job settings s
        (s.submitted other attempt args enqueuedAt now observedAt).scheduler other attempt args invariant
        submittable (budgets.reads other) runs (by omega)
        (fun deadline given => submitted_bound s other attempt args enqueuedAt now observedAt deadline
          invariant given)
      simpa [State.submitted, State.setRead, State.act, State.tick] using own
    · have kept := budgeted_runs settings s.scheduler _ invariant runs _ (budgets.reads other)
      simpa [State.submitted, State.setRead, State.act, State.tick, same] using kept
  · intro other unseen
    have different : other ≠ id := by
      intro same
      rw [same] at unseen
      exact absurd submittable.known (Nat.not_lt.mpr unseen)
    have absent := budgets.unused other unseen
    simpa [State.submitted, State.setRead, State.act, State.tick, different] using absent
  · intro job below
    rw [next] at below
    by_cases fresh : job = s.scheduler.next
    · subst fresh
      refine ⟨by simpa [State.submitted, State.setRead, State.act, State.tick] using submittable.known, ?_⟩
      cases attempt with
      | first => exact .inl (by simp [State.submitted, State.setRead, State.act, State.tick, Read.withJob])
      | second => exact .inr (by simp [State.submitted, State.setRead, State.act, State.tick, Read.withJob])
    · obtain ⟨owned, place⟩ := budgets.owner job (by omega)
      refine ⟨by simpa [State.submitted, State.setRead, State.act, State.tick, fresh] using owned, ?_⟩
      by_cases same : s.owner job = id
      · have free := submittable.free
        rw [same] at place
        cases attempt with
        | first =>
            rcases place with first | second
            · cases free.symm.trans first
            · cases (submittable.fresh rfl).symm.trans second
        | second =>
            rcases place with first | second
            · exact .inl (by
                simpa [State.submitted, State.setRead, State.act, State.tick, Read.withJob, fresh, same]
                  using first)
            · cases free.symm.trans second
      · simpa [State.submitted, State.setRead, State.act, State.tick, fresh, same] using place
  · intro build member
    obtain ⟨below, own, called⟩ := budgets.built build member
    obtain ⟨still, once⟩ := built_runs s.scheduler _ invariant runs build.job below called
    refine ⟨still, ?_, once⟩
    have old : build.job ≠ s.scheduler.next := by omega
    simpa [State.submitted, State.setRead, State.act, State.tick, old] using own

theorem budgets_proceed (settings : Settings) (s : State V) (id job : Nat) (attempt : Attempt)
    (observedAt wall : ℚ) (invariant : Scheduler.Invariant s.scheduler) (budgets : Budgets settings s)
    (awaits : (s.reads id).awaits attempt job) :
    Budgets settings (s.proceed id job attempt observedAt wall) := by
  obtain ⟨reads, owner, next⟩ := proceed_frame s id job attempt observedAt wall
  have same := proceed_scheduler s id job attempt observedAt wall
  have logs := proceed_logs s id job attempt observedAt wall
  apply budgets_write settings s _ invariant budgets (by rw [same]; exact .refl) (by rw [same])
    ⟨owner, next, logs.2⟩ id _ (present_known settings s budgets id (by simp [awaits.1])) reads
    (proceed_read_jobs s id job attempt observedAt wall)
  rw [same]
  exact budgeted_proceed settings s id job attempt observedAt wall (budgets.reads id) awaits

theorem budgets_submit (settings : Settings) (s : State V) (id : Nat) (attempt : Attempt)
    (args : Scheduler.Arguments) (enqueuedAt now observedAt wall : ℚ)
    (invariant : Scheduler.Invariant s.scheduler) (budgets : Budgets settings s)
    (submittable : Submittable settings s id attempt args)
    (early : s.scheduler.clock ≤ enqueuedAt) (between : enqueuedAt ≤ now) (late : now ≤ observedAt) :
    Budgets settings (s.submit id attempt args enqueuedAt now observedAt wall) := by
  have runs := runs_submitted s id attempt args enqueuedAt now observedAt invariant early between late
  have submitted := budgets_submitted settings s id attempt args enqueuedAt now observedAt invariant
    budgets submittable early between late
  have awaits : ((s.submitted id attempt args enqueuedAt now observedAt).reads id).awaits attempt
      s.scheduler.next := by
    have own := with_job_self (s.reads id) attempt s.scheduler.next
    simpa [State.submitted, State.setRead, State.act, State.tick] using own
  exact budgets_proceed settings (s.submitted id attempt args enqueuedAt now observedAt) id
    s.scheduler.next attempt observedAt wall (runs_invariant _ _ invariant runs) submitted awaits

theorem budgets_arrive (settings : Settings) (s : State V) (operationName : String)
    (priority : PriorityClass) (messages : Messages) (startedAt : ℚ) (budgets : Budgets settings s) :
    Budgets settings (s.arrive settings operationName priority messages startedAt) where
  reads := by
    intro other
    by_cases same : other = s.next
    · subst same
      simp only [State.arrive, State.setRead, Function.update_self]
      exact budgeted_fresh settings s.scheduler _ rfl (fun attempt => by cases attempt <;> rfl)
    · simp only [State.arrive, State.setRead, Function.update_of_ne same]
      exact budgets.reads other
  unused := by
    intro other late
    have later : s.next + 1 ≤ other := late
    simp only [State.arrive, State.setRead, Function.update_of_ne (show other ≠ s.next by omega)]
    exact budgets.unused other (by omega)
  owner := by
    intro job below
    obtain ⟨owned, place⟩ := budgets.owner job below
    have old : s.owner job ≠ s.next := by omega
    simp only [State.arrive, State.setRead, Function.update_of_ne old]
    exact ⟨by omega, place⟩
  distinct := budgets.distinct
  built := budgets.built

theorem budgets_refuse (settings : Settings) (s : State V) (id : Nat) (attempt : Attempt)
    (checkedAt now : ℚ) (invariant : Scheduler.Invariant s.scheduler) (budgets : Budgets settings s)
    (known : id < s.next)
    (deadline : (s.reads id).deadline = (s.reads id).startedAt + settings.upstreamTimeout)
    (later : s.scheduler.clock ≤ now) : Budgets settings (s.refuse id attempt checkedAt now) := by
  have runs := runs_tick s.scheduler now later
  apply budgets_write settings s (s.refuse id attempt checkedAt now) invariant budgets runs rfl
    ⟨rfl, rfl, rfl⟩ id _ known rfl ⟨rfl, rfl⟩
  have own := budgeted_runs settings s.scheduler _ invariant runs _ (budgets.reads id)
  exact budgeted_error settings _ (s.reads id) own deadline _ _ _ nofun

theorem arrived_submittable (settings : Settings) (s : State V) (operationName : String)
    (priority : PriorityClass) (messages : Messages) (startedAt : ℚ) (args : Scheduler.Arguments) :
    Submittable settings (s.arrive settings operationName priority messages startedAt) s.next .first args where
  known := Nat.lt_succ_self s.next
  free := by simp [State.arrive, State.setRead, Read.absent, Read.job]
  deadline := by simp [State.arrive, State.setRead, Read.absent]
  fresh := fun _ => by simp [State.arrive, State.setRead, Read.absent]
  justified := nofun

theorem backing_off (read : Read V) (now : ℚ) (past : read.backoffOver now = true) :
    ∃ wakeAt, read.stage = .backoff wakeAt := by
  unfold Read.backoffOver at past
  split at past
  · rename_i wakeAt stage
    exact ⟨wakeAt, stage⟩
  · cases past

theorem woken_submittable (settings : Settings) (s : State V) (id : Nat) (wakeAt queueAt executeAt : ℚ)
    (budgets : Budgets settings s) (backoff : (s.reads id).stage = .backoff wakeAt) :
    Submittable settings s id .second (secondArguments settings (s.reads id) queueAt executeAt) := by
  obtain ⟨none, justified⟩ := (budgets.reads id).backoff wakeAt backoff
  have present : (s.reads id).stage ≠ .absent := by simp [backoff]
  exact
    { known := present_known settings s budgets id present
      free := none
      deadline := (budgets.reads id).deadline present
      fresh := nofun
      justified := fun _ => ⟨justified, rfl⟩ }

theorem budgets_start_operation (settings : Settings) (s : State V) (job : Nat) (checkedAt now : ℚ)
    (invariant : Scheduler.Invariant s.scheduler) (budgets : Budgets settings s)
    (guard : (Scheduler.scheduler V Failure).enabled s.scheduler (.startOperation job checkedAt))
    (later : checkedAt ≤ now) : Budgets settings (s.startOperation job checkedAt now) := by
  have runs := runs_start_operation s job checkedAt now invariant guard later
  have created : s.scheduler.operations job = .created := guard.2
  simp only [State.startOperation] at runs ⊢
  split at runs
  · rename_i shut
    rw [if_pos shut]
    exact budgets_frame settings s _ invariant budgets runs rfl rfl ⟨rfl, rfl, rfl⟩
  · rename_i passed
    rw [if_neg passed]
    have frame : Budgets settings ((s.act (.startOperation job checkedAt)).tick now) :=
      budgets_frame settings s _ invariant budgets runs rfl rfl ⟨rfl, rfl, rfl⟩
    have known : job < s.scheduler.next := by
      by_contra late
      have absent := congrArg Scheduler.View.operation (invariant.fresh job (Nat.le_of_not_lt late))
      cases created.symm.trans absent
    refine ⟨frame.reads, frame.unused, frame.owner, ?_, ?_⟩
    · refine List.nodup_cons.mpr ⟨?_, budgets.distinct⟩
      intro member
      obtain ⟨build, old, same⟩ := List.mem_map.mp member
      have called := (budgets.built build old).2.2
      have same : build.job = job := same
      rw [same, created] at called
      cases called
    · intro build member
      cases List.mem_cons.mp member with
      | inl new =>
          rw [new]
          refine ⟨known, rfl, ?_⟩
          have running := start_operation_done s.scheduler job checkedAt
          exact congrArg Scheduler.Operation.invocations running
      | inr old => exact frame.built build old

theorem budgets_perform (settings : Settings) (s : State V) (event : Event V)
    (invariant : Scheduler.Invariant s.scheduler) (budgets : Budgets settings s)
    (guard : enabled s event) : Budgets settings (perform settings s event) := by
  have runs := runs_perform settings s event invariant guard
  cases event with
  | begin operationName priority messages startedAt checkedAt enqueuedAt now observedAt wall =>
      obtain ⟨first, second, third, fourth, fifth⟩ := guard
      have arrived := budgets_arrive settings s operationName priority messages startedAt budgets
      have submittable := arrived_submittable settings s operationName priority messages startedAt
      simp only [perform]
      split
      · apply budgets_refuse settings (s.arrive settings operationName priority messages startedAt) s.next
          .first checkedAt observedAt invariant arrived
          (submittable (firstArguments settings (Read.absent : Read V))).known
          (submittable (firstArguments settings (Read.absent : Read V))).deadline
        exact le_trans first (le_trans second (le_trans third (le_trans fourth fifth)))
      · exact budgets_submit settings (s.arrive settings operationName priority messages startedAt) s.next
          .first _ enqueuedAt now observedAt wall invariant arrived (submittable _)
          (le_trans first (le_trans second third)) fourth fifth
  | resume read job attempt now observedAt wall =>
      obtain ⟨awaits, resumed, late⟩ := guard
      have runs := runs_event_tick s.scheduler (.resumeCaller job now) observedAt invariant rfl resumed late
      have calls := Scheduler.other_next s.scheduler (.resumeCaller job now) invariant rfl resumed
        (by intro args enqueuedAt now same; cases same)
      have frame := budgets_frame settings s ((s.act (.resumeCaller job now)).tick observedAt) invariant
        budgets runs calls rfl ⟨rfl, rfl, rfl⟩
      exact budgets_proceed settings ((s.act (.resumeCaller job now)).tick observedAt) read job attempt
        observedAt wall (runs_invariant _ _ invariant runs) frame awaits
  | wake read checkedAt queueAt executeAt enqueuedAt now observedAt wall =>
      obtain ⟨past, first, second, third, fourth, fifth, sixth⟩ := guard
      obtain ⟨wakeAt, backoff⟩ := backing_off (s.reads read) checkedAt past
      have submittable := woken_submittable settings s read wakeAt queueAt executeAt budgets backoff
      simp only [perform]
      split
      · apply budgets_refuse settings s read .second checkedAt observedAt invariant budgets
          submittable.known submittable.deadline
        exact le_trans first (le_trans second (le_trans third (le_trans fourth (le_trans fifth sixth))))
      · exact budgets_submit settings s read .second _ enqueuedAt now observedAt wall invariant budgets
          submittable (le_trans first (le_trans second (le_trans third fourth))) fifth sixth
  | cancel read job now =>
      have calls := Scheduler.other_next s.scheduler (.cancelCaller job now) invariant rfl guard.2
        (by intro args enqueuedAt now same; cases same)
      exact budgets_frame settings s _ invariant budgets runs calls rfl ⟨rfl, rfl, rfl⟩
  | cancelBackoff read now =>
      obtain ⟨waiting, later⟩ := guard
      have present : (s.reads read).stage ≠ .absent := by
        intro absent
        simp [Read.backingOff, absent] at waiting
      apply budgets_write settings s _ invariant budgets runs rfl ⟨rfl, rfl, rfl⟩ read
        ((s.reads read).finish .cancelled false true) (present_known settings s budgets read present) rfl
        ⟨rfl, rfl⟩
      have own := budgeted_runs settings s.scheduler _ invariant runs _ (budgets.reads read)
      exact budgeted_finish settings _ (s.reads read) own (own.deadline present) _ _ _ (.inl rfl)
  | startOperation job checkedAt now =>
      exact budgets_start_operation settings s job checkedAt now invariant budgets guard.1 guard.2
  | finishBuild job ending handledAt wall now =>
      have calls := Scheduler.other_next s.scheduler (.completeOperation job ending.ending now) invariant
        rfl guard.1 (by intro args enqueuedAt now same; cases same)
      have frame := finish_build_frame s job ending handledAt wall now
      apply budgets_frame settings s _ invariant budgets runs _ frame.1 frame.2
      simp only [perform, finish_build_scheduler]
      exact calls
  | joined failure now wall =>
      exact budgets_frame settings s _ invariant budgets runs rfl rfl ⟨rfl, rfl, rfl⟩
  | advance event =>
      obtain ⟨internal, guard⟩ := guard
      have calls := Scheduler.other_next s.scheduler event invariant (of_scheduler_calm event internal) guard
        (fun args enqueuedAt now same => by rw [same] at internal; cases internal)
      exact budgets_frame settings s _ invariant budgets runs calls rfl ⟨rfl, rfl, rfl⟩

theorem budgets_reachable (settings : Settings) (policy : AdmissionPolicy) (clock : ℚ) (s : State V)
    (reachable : Reachable settings policy clock s) :
    Scheduler.Invariant s.scheduler ∧ Budgets settings s := by
  apply System.reaches_invariant (gateway V settings) Set.univ
    (fun a => Scheduler.Invariant a.scheduler ∧ Budgets settings a) _ _ s reachable
  · exact ⟨Scheduler.invariant_initial policy clock, budgets_initial settings policy clock⟩
  · intro a event _ held guard
    exact ⟨scheduler_invariant_step settings a event held.1 guard,
      budgets_perform settings a event held.1 held.2 guard⟩

def Stage.past : Stage V → Bool
  | .answered _ => true
  | .cancelled => true
  | _ => false

theorem over_kept (settings : Settings) (s : State V) (event : Event V) (budgets : Budgets settings s)
    (guard : enabled s event) (id : Nat) (past : (s.reads id).stage.past = true) :
    (perform settings s event).reads id = s.reads id := by
  have known : id < s.next := by
    apply present_known settings s budgets id
    intro absent
    simp [absent, Stage.past] at past
  have proceeds : ∀ (a : State V) (other job : Nat) (attempt : Attempt) (observedAt wall : ℚ), id ≠ other →
      (a.proceed other job attempt observedAt wall).reads id = a.reads id := by
    intro a other job attempt observedAt wall different
    rw [(proceed_frame a other job attempt observedAt wall).1, Function.update_of_ne different]
  cases event with
  | begin operationName priority messages startedAt checkedAt enqueuedAt now observedAt wall =>
      have different : id ≠ s.next := by omega
      simp only [perform]
      split
      · simp [State.refuse, State.arrive, State.setRead, State.tick, State.act, different]
      · rw [State.submit, proceeds _ _ _ _ _ _ different]
        simp [State.arrive, State.setRead, State.tick, State.act, different]
  | resume read job attempt now observedAt wall =>
      have different : id ≠ read := by
        intro same
        have executing := guard.1.1
        rw [← same] at executing
        simp [executing, Stage.past] at past
      exact proceeds ((s.act (.resumeCaller job now)).tick observedAt) read job attempt observedAt wall different
  | wake read checkedAt queueAt executeAt enqueuedAt now observedAt wall =>
      obtain ⟨wakeAt, backoff⟩ := backing_off (s.reads read) checkedAt guard.1
      have different : id ≠ read := by
        intro same
        rw [← same] at backoff
        simp [backoff, Stage.past] at past
      simp only [perform]
      split
      · simp [State.refuse, State.setRead, State.tick, State.act, different]
      · rw [State.submit, proceeds _ _ _ _ _ _ different]
        simp [State.setRead, State.tick, State.act, different]
  | cancel read job now => rfl
  | cancelBackoff read now =>
      have different : id ≠ read := by
        intro same
        have waiting := guard.1
        rw [← same] at waiting
        unfold Read.backingOff at waiting
        split at waiting
        · rename_i wakeAt backoff
          simp [backoff, Stage.past] at past
        · cases waiting
      simp [perform, State.setRead, State.tick, State.act, different]
  | startOperation job checkedAt now =>
      simp only [perform, State.startOperation]
      split <;> rfl
  | finishBuild job ending handledAt wall now =>
      exact congrFun (finish_build_frame s job ending handledAt wall now).1 id
  | joined failure now wall => rfl
  | advance event => rfl

theorem over_kept_reaches (settings : Settings) (s t : State V) (invariant : Scheduler.Invariant s.scheduler)
    (budgets : Budgets settings s) (reached : (gateway V settings).Reaches Set.univ s t) (id : Nat)
    (past : (s.reads id).stage.past = true) : t.reads id = s.reads id := by
  have related := System.reaches_related (gateway V settings) Set.univ
    (fun a => Scheduler.Invariant a.scheduler ∧ Budgets settings a)
    (fun a b => (a.reads id).stage.past = true → b.reads id = a.reads id) (fun _ _ => rfl)
    (fun a b c first second past => by
      have same := first past
      rw [← same] at past
      exact (second past).trans same)
    (fun a event _ held guard => ⟨scheduler_invariant_step settings a event held.1 guard,
      budgets_perform settings a event held.1 held.2 guard⟩)
    (fun a event _ held guard => over_kept settings a event held.2 guard id)
    s t reached ⟨invariant, budgets⟩
  exact related past

-- What a failure is classified as does not depend on the calendar.
theorem classify_cause (failure : Failure) (first second : ℚ) :
    (classify failure first).cause = (classify failure second).cause := by
  have link : ∀ raised : Raised, (raised.metadataOf first).map (·.cause) =
      (raised.metadataOf second).map (·.cause) := by
    intro raised
    unfold Raised.metadataOf
    cases raised.metadata with
    | some metadata => rfl
    | none =>
        cases raised.http with
        | none => rfl
        | some error =>
            cases error with
            | connectTimeout => rfl
            | status code header => split <;> rfl
  have cause : ∀ now, (classify failure now).cause =
      (((failure.head :: failure.causes).take 8).findSome?
        (Option.map FailureMetadata.cause ∘ (·.metadataOf now))).getD .other := by
    intro now
    rw [← List.map_findSome?]
    exact (Option.getD_map FailureMetadata.cause ⟨.other, none⟩ _).symm
  have same : Option.map FailureMetadata.cause ∘ (fun raised : Raised => raised.metadataOf first) =
      Option.map FailureMetadata.cause ∘ (fun raised => raised.metadataOf second) := funext link
  rw [cause first, cause second, same]

inductive Conclusive : Scheduler.Outcome V Failure → Prop where
  | capacity (message : String) : Conclusive (.raised (.capacity message))
  | queueTimeout (message : String) : Conclusive (.raised (.queueTimeout message))
  | upstreamTimeout (message : String) : Conclusive (.raised (.upstreamTimeout message))
  | cancelled : Conclusive (.raised .cancelled)
  | rateLimited (failure : Failure) (wall : ℚ) (limited : (classify failure wall).cause = .rateLimited) :
      Conclusive (.raised (.operation failure))

theorem conclusive_unjustified (s : Scheduler.State V Failure) (read : Read V) (job : Nat)
    (outcome : Scheduler.Outcome V Failure) (first : read.first = some job)
    (ended : s.callers job = .ended outcome) (conclusive : Conclusive outcome) :
    ¬ RetryJustified s read := by
  rintro ⟨other, retry, same, _, failed, _, cause, _⟩
  cases first.symm.trans same
  have outcomes := ended.symm.trans failed
  cases conclusive with
  | capacity message => cases outcomes
  | queueTimeout message => cases outcomes
  | upstreamTimeout message => cases outcomes
  | cancelled => cases outcomes
  | rateLimited failure wall limited =>
      cases outcomes
      rw [classify_cause _ wall retry.wall, cause] at limited
      cases limited

def State.buildsOf (s : State V) (id : Nat) : List Build :=
  s.builds.filter (fun build => build.read = id)

theorem builds_of_jobs (settings : Settings) (s : State V) (budgets : Budgets settings s) (id : Nat) :
    (s.buildsOf id).length ≤ ((s.reads id).first.toList ++ (s.reads id).second.toList).length := by
  have sublist : ((s.buildsOf id).map Build.job).Sublist (s.builds.map Build.job) :=
    List.filter_sublist.map Build.job
  have distinct := budgets.distinct.sublist sublist
  have jobs : (s.buildsOf id).map Build.job ⊆ (s.reads id).first.toList ++ (s.reads id).second.toList := by
    intro job member
    obtain ⟨build, kept, same⟩ := List.mem_map.mp member
    obtain ⟨old, own⟩ := List.mem_filter.mp kept
    obtain ⟨below, owner, _⟩ := budgets.built build old
    have place := (budgets.owner build.job below).2
    rw [← owner, of_decide_eq_true own, same] at place
    simpa [Option.mem_toList] using place
  have bound := (List.subperm_of_subset distinct jobs).length_le
  rwa [List.length_map] at bound

theorem released_error (s : Scheduler.State V Failure) (invariant : Scheduler.Invariant s) (job : Nat)
    (failure : Failure) (ended : s.callers job = .ended (.raised (.operation failure))) :
    (s.jobs job).state = .finished ∧ (s.ledger job).allocationReleases = 1 ∧
      (s.ledger job).slotReleases = 1 :=
  Scheduler.operation_error_released s.clock (Scheduler.view s job) failure (invariant.consistent job) ended

theorem backoff_released (settings : Settings) (s : State V) (invariant : Scheduler.Invariant s.scheduler)
    (budgets : Budgets settings s) (id : Nat) (wakeAt : ℚ) (waiting : (s.reads id).stage = .backoff wakeAt)
    (job : Nat) (known : job < s.scheduler.next) (own : s.owner job = id) :
    (s.scheduler.jobs job).state = .finished ∧ (s.scheduler.ledger job).allocationReleases = 1 ∧
      (s.scheduler.ledger job).slotReleases = 1 := by
  obtain ⟨none, other, retry, first, _, ended, _⟩ := (budgets.reads id).backoff wakeAt waiting
  have place := (budgets.owner job known).2
  rw [own, first, none] at place
  cases place with
  | inl same =>
      cases same
      exact released_error s.scheduler invariant _ retry.failure ended
  | inr same => cases same

theorem retry_budget (settings : Settings) (policy : AdmissionPolicy) (clock : ℚ) (s : State V)
    (reachable : Reachable settings policy clock s) (id : Nat) :
    ((s.buildsOf id).length ≤ 2 ∧ (1 < (s.buildsOf id).length → (s.reads id).second ≠ none)) ∧
    (∀ job, (s.reads id).second = some job → RetryJustified s.scheduler (s.reads id) ∧
      (s.reads id).deadline = (s.reads id).startedAt + settings.upstreamTimeout ∧
      (∀ dispatchedAt, (s.scheduler.ledger job).dispatchedAt = some dispatchedAt →
        dispatchedAt < (s.reads id).deadline) ∧
      ∀ value, (s.reads id).stage = .answered (.json value) → ∃ completedAt,
        s.scheduler.operations job = .done (.value value) completedAt ∧
          completedAt ≤ (s.reads id).deadline) ∧
    (∀ job outcome, (s.reads id).first = some job → s.scheduler.callers job = .ended outcome →
      Conclusive outcome → (s.reads id).second = none) ∧
    (∀ wakeAt, (s.reads id).stage = .backoff wakeAt → ∀ job, job < s.scheduler.next → s.owner job = id →
      (s.scheduler.jobs job).state = .finished ∧ (s.scheduler.ledger job).allocationReleases = 1 ∧
        (s.scheduler.ledger job).slotReleases = 1) ∧
    ((s.reads id).stage.past = true → ∀ t, (gateway V settings).Reaches Set.univ s t →
      t.reads id = s.reads id) := by
  obtain ⟨invariant, budgets⟩ := budgets_reachable settings policy clock s reachable
  have budgeted := budgets.reads id
  refine ⟨?_, ?_, ?_, ?_, ?_⟩
  · have bound := builds_of_jobs settings s budgets id
    rw [List.length_append] at bound
    refine ⟨?_, ?_⟩
    · have first : (s.reads id).first.toList.length ≤ 1 := by cases (s.reads id).first <;> simp
      have second : (s.reads id).second.toList.length ≤ 1 := by cases (s.reads id).second <;> simp
      omega
    · intro twice none
      have first : (s.reads id).first.toList.length ≤ 1 := by cases (s.reads id).first <;> simp
      rw [none] at bound
      simp only [Option.toList_none, List.length_nil] at bound
      omega
  · intro job second
    obtain ⟨justified, bound⟩ := budgeted.second job second
    have consistent := invariant.consistent job
    have present : (s.reads id).stage ≠ .absent := by
      intro absent
      cases (budgeted.unused absent).2.symm.trans second
    refine ⟨justified, budgeted.deadline present, ?_, ?_⟩
    · intro dispatchedAt dispatched
      exact Scheduler.bound_dispatched s.scheduler.clock _ dispatchedAt _ consistent bound dispatched
    · intro value answered
      obtain ⟨attempt, last, same, ended, single⟩ := budgeted.returned value answered
      cases attempt with
      | first => cases (single rfl).symm.trans second
      | second =>
          cases second.symm.trans same
          exact Scheduler.bound_returned s.scheduler.clock _ _ value consistent bound ended
  · intro job outcome first ended conclusive
    cases second : (s.reads id).second with
    | none => rfl
    | some other =>
        have justified := (budgeted.second other second).1
        exact absurd justified (conclusive_unjustified s.scheduler _ job outcome first ended conclusive)
  · intro wakeAt waiting job known own
    exact backoff_released settings s invariant budgets id wakeAt waiting job known own
  · intro past t reached
    exact over_kept_reaches settings s t invariant budgets reached id past

def retryEvents : List (Event Nat) :=
  [.begin "spot" .protected sampleMessages 0 0 0 0 0 0,
    .advance (.startLifecycle 0 0 0), .startOperation 0 0 0,
    .finishBuild 0 (.failure (.provider ⟨⟨.other, none, some .connectTimeout⟩, []⟩)) 1 0 1,
    .advance (.wakeLifecycle 0 1), .resume 0 0 .first 1 1 0,
    .wake 0 2 2 2 2 2 2 0, .advance (.startLifecycle 1 2 2), .startOperation 1 2 2,
    .finishBuild 1 (.value 7) (5 / 2) 0 (5 / 2), .advance (.wakeLifecycle 1 (5 / 2)),
    .resume 0 1 .second (5 / 2) (5 / 2) 0]

def retryState : State Nat :=
  (gateway Nat sampleSettings).performAll (initial Scheduler.samplePolicy 0) retryEvents

theorem retry_reachable : Reachable sampleSettings Scheduler.samplePolicy 0 retryState :=
  System.reaches_perform_all _ Set.univ _ retryEvents (fun _ _ => trivial) (by decide +kernel)

theorem retry_budget_sample :
    (retryState.buildsOf 0).length = 2 ∧ (retryState.reads 0).second = some 1 ∧
      ∃ completedAt, retryState.scheduler.operations 1 = .done (.value 7) completedAt ∧
        completedAt ≤ (retryState.reads 0).deadline := by
  have budget := retry_budget sampleSettings Scheduler.samplePolicy 0 retryState retry_reachable 0
  refine ⟨by decide +kernel, by decide +kernel, ?_⟩
  exact (budget.2.1 1 (by decide +kernel)).2.2.2 7 (by decide +kernel)

end SchwabGateway.Reads
