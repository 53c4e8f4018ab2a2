import SchwabGateway.Reads.AdmissionOutcome

set_option autoImplicit false

namespace SchwabGateway.Reads

open SchwabGateway.Library

variable {V : Type}

section Steps

variable (settings : Settings) (s : State V)

theorem accounted_arrive (accounted : Accounted settings s) (operationName : String) (priority : PriorityClass)
    (messages : Messages) (startedAt : ℚ) :
    Accounted settings (s.arrive settings operationName priority messages startedAt) where
  invariant := accounted.invariant
  budgets := budgets_arrive settings s operationName priority messages startedAt accounted.budgets
  tallied := tallied_write settings s (s.arrive settings operationName priority messages startedAt) accounted .refl
    s.next _ rfl (tallied_fresh _ _ rfl rfl)

theorem begin_submission (accounted : Accounted settings s) (operationName : String) (priority : PriorityClass)
    (messages : Messages) (startedAt checkedAt enqueuedAt now observedAt wall : ℚ)
    (guard : enabled s
      (.begin operationName priority messages startedAt checkedAt enqueuedAt now observedAt wall)) :
    Submission settings (s.arrive settings operationName priority messages startedAt) s.next .first
      (firstArguments settings ((s.arrive settings operationName priority messages startedAt).reads s.next))
      enqueuedAt now observedAt where
  accounted := accounted_arrive settings s accounted operationName priority messages startedAt
  submittable := arrived_submittable settings s operationName priority messages startedAt _
  pending := by simp [State.arrive, State.setRead, Read.absent]
  admitted := nofun
  early := le_trans guard.1 (le_trans guard.2.1 guard.2.2.1)
  between := guard.2.2.2.1
  late := guard.2.2.2.2

theorem backoff_admitted (accounted : Accounted settings s) (id : Nat) (wakeAt : ℚ)
    (backoff : (s.reads id).stage = .backoff wakeAt) :
    ∃ job, (s.reads id).first = some job ∧ s.scheduler.admitted job := by
  obtain ⟨attempt, job, same, admitted⟩ := (accounted.tallied id).backoff wakeAt backoff
  have none := ((accounted.budgets.reads id).backoff wakeAt backoff).1
  cases attempt with
  | first => exact ⟨job, same, admitted⟩
  | second => cases none.symm.trans same

theorem wake_submission (accounted : Accounted settings s) (read : Nat)
    (checkedAt queueAt executeAt enqueuedAt now observedAt wall : ℚ)
    (guard : enabled s (.wake read checkedAt queueAt executeAt enqueuedAt now observedAt wall)) :
    Submission settings s read .second (secondArguments settings (s.reads read) queueAt executeAt) enqueuedAt now
      observedAt := by
  obtain ⟨past, first, second, third, fourth, fifth, sixth⟩ := guard
  obtain ⟨wakeAt, backoff⟩ := backing_off (s.reads read) checkedAt past
  exact
    { accounted := accounted
      submittable := woken_submittable settings s read wakeAt queueAt executeAt accounted.budgets backoff
      pending := (accounted.tallied read).pending (by rw [backoff]; rfl)
      admitted := fun _ => backoff_admitted settings s accounted read wakeAt backoff
      early := le_trans first (le_trans second (le_trans third fourth))
      between := fifth
      late := sixth }

theorem tallied_resume (accounted : Accounted settings s) (read job : Nat) (attempt : Attempt)
    (now observedAt wall : ℚ) (guard : enabled s (.resume read job attempt now observedAt wall)) (id : Nat) :
    Tallied (perform settings s (.resume read job attempt now observedAt wall)).scheduler
      ((perform settings s (.resume read job attempt now observedAt wall)).reads id) := by
  have whole := runs_perform settings s _ accounted.invariant guard
  obtain ⟨awaits, resumed, late⟩ := guard
  have runs := runs_event_tick s.scheduler (.resumeCaller job now) observedAt accounted.invariant rfl resumed late
  have known := (accounted.budgets.reads read).known attempt job awaits.2
  have admitted := (accounted.tallied read).waiting attempt job awaits
  have pending := (accounted.tallied read).pending (by rw [awaits.1]; rfl)
  have own := tallied_proceed ((s.act (.resumeCaller job now)).tick observedAt) read job attempt observedAt wall
    (runs_invariant _ _ accounted.invariant runs) pending awaits
    ((Scheduler.admitted_kept _ _ accounted.invariant runs job known).mpr admitted)
  have frame := proceed_frame ((s.act (.resumeCaller job now)).tick observedAt) read job attempt observedAt wall
  apply tallied_write settings s _ accounted whole read _ frame.1
  rw [perform, proceed_scheduler]
  exact own

theorem tallied_perform (event : Event V) (accounted : Accounted settings s) (guard : enabled s event)
    (admissible : Admissible settings s event) (id : Nat) :
    Tallied (perform settings s event).scheduler ((perform settings s event).reads id) := by
  have runs := runs_perform settings s event accounted.invariant guard
  cases event with
  | begin operationName priority messages startedAt checkedAt enqueuedAt now observedAt wall =>
      have given := begin_submission settings s accounted operationName priority messages startedAt checkedAt
        enqueuedAt now observedAt wall guard
      rw [perform]
      by_cases shut : 0 < (s.arrive settings operationName priority messages startedAt).cooldownUntil - checkedAt
      · rw [if_pos shut]
        exact tallied_refuse settings _ given.accounted s.next .first checkedAt observedAt
          (le_trans given.early (le_trans given.between given.late)) given.pending
          (fun _ => ⟨given.submittable.free, given.submittable.fresh rfl⟩) (fun same => by cases same) id
      · rw [if_neg shut]
        exact tallied_submit settings _ s.next .first _ enqueuedAt now observedAt wall given
          (fun _ => admissible.resolve_left shut) (fun same => by cases same) id
  | resume read job attempt now observedAt wall =>
      exact tallied_resume settings s accounted read job attempt now observedAt wall guard id
  | wake read checkedAt queueAt executeAt enqueuedAt now observedAt wall =>
      have given := wake_submission settings s accounted read checkedAt queueAt executeAt enqueuedAt now observedAt
        wall guard
      rw [perform]
      by_cases shut : 0 < s.cooldownUntil - checkedAt
      · rw [if_pos shut]
        obtain ⟨job, first, admitted⟩ := given.admitted rfl
        exact tallied_refuse settings s accounted read .second checkedAt observedAt
          (le_trans given.early (le_trans given.between given.late)) given.pending
          (fun same => by cases same)
          (fun _ => ⟨.first, job, first, admitted⟩) id
      · rw [if_neg shut]
        exact tallied_submit settings s read .second _ enqueuedAt now observedAt wall given
          (fun same => by cases same)
          (fun _ => admissible.resolve_left shut) id
  | cancel read job now => exact tallied_frame settings s _ accounted runs rfl id
  | cancelBackoff read now =>
      exact tallied_write settings s _ accounted runs read ((s.reads read).finish .cancelled false true) rfl
        (tallied_aside _ (s.reads read) .cancelled rfl false true
          fun _ same => by cases same) id
  | startOperation job checkedAt now =>
      apply tallied_frame settings s _ accounted runs
      rw [perform, State.startOperation]
      dsimp only
      split
      · rfl
      · rfl
  | finishBuild job ending handledAt wall now =>
      exact tallied_frame settings s _ accounted runs (finish_build_frame s job ending handledAt wall now).1 id
  | joined failure now wall => exact tallied_frame settings s _ accounted runs rfl id
  | advance event => exact tallied_frame settings s _ accounted runs rfl id

theorem accounted_perform (event : Event V) (accounted : Accounted settings s) (guard : enabled s event)
    (admissible : Admissible settings s event) : Accounted settings (perform settings s event) where
  invariant := scheduler_invariant_step settings s event accounted.invariant guard
  budgets := budgets_perform settings s event accounted.invariant accounted.budgets guard
  tallied := tallied_perform settings s event accounted guard admissible

theorem accounted_counts (accounted : Accounted settings s) : CountsOnce s := by
  intro id response answered returned
  exact tally_one_outcome s.scheduler (s.reads id) ((accounted.tallied id).ended response answered returned)

theorem inadmissible_miscounted (event : Event V) (accounted : Accounted settings s) (guard : enabled s event)
    (inadmissible : ¬ Admissible settings s event) : ¬ CountsOnce (perform settings s event) := by
  cases event with
  | begin operationName priority messages startedAt checkedAt enqueuedAt now observedAt wall =>
      obtain ⟨past, fails⟩ := not_or.mp inadmissible
      have given := begin_submission settings s accounted operationName priority messages startedAt checkedAt
        enqueuedAt now observedAt wall guard
      have fresh : ¬ 0 < (s.arrive settings operationName priority messages startedAt).cooldownUntil - checkedAt := past
      rw [perform, if_neg fresh]
      cases valid : Scheduler.validate (firstArguments settings
          ((s.arrive settings operationName priority messages startedAt).reads s.next)) with
      | error message =>
          exact invalid_miscounted given wall message valid
      | ok request => exact absurd ⟨request, valid⟩ fails
  | wake read checkedAt queueAt executeAt enqueuedAt now observedAt wall =>
      obtain ⟨past, full⟩ := not_or.mp inadmissible
      have given := wake_submission settings s accounted read checkedAt queueAt executeAt enqueuedAt now observedAt
        wall guard
      rw [perform, if_neg past]
      exact refused_miscounted given wall (not_not.mp full)
  | resume read job attempt now observedAt wall => exact absurd trivial inadmissible
  | cancel read job now => exact absurd trivial inadmissible
  | cancelBackoff read now => exact absurd trivial inadmissible
  | startOperation job checkedAt now => exact absurd trivial inadmissible
  | finishBuild job ending handledAt wall now => exact absurd trivial inadmissible
  | joined failure now wall => exact absurd trivial inadmissible
  | advance event => exact absurd trivial inadmissible

end Steps

-- In a run whose steps meet the condition every request counts one outcome,
-- and the first step that breaks it miscounts one.
theorem one_admission_outcome_iff (settings : Settings) (policy : AdmissionPolicy) (clock : ℚ) (s : State V)
    (reached : ((gateway V settings).restrict (Admissible settings)).Reaches Set.univ (initial policy clock) s) :
    CountsOnce s ∧ ∀ event, (gateway V settings).enabled s event →
      (CountsOnce ((gateway V settings).perform s event) ↔ Admissible settings s event) := by
  have accounted : Accounted settings s := by
    apply System.reaches_invariant _ Set.univ (Accounted settings) _ _ s reached
    · exact accounted_initial settings policy clock
    · intro a event _ held guard
      exact accounted_perform settings a event held guard.1 guard.2
  refine ⟨accounted_counts settings s accounted, ?_⟩
  intro event guard
  constructor
  · intro once
    by_contra inadmissible
    exact inadmissible_miscounted settings s event accounted guard inadmissible once
  · intro admissible
    exact accounted_counts settings _ (accounted_perform settings s event accounted guard admissible)

-- The second attempt of the first read finds room, so one outcome is counted.
theorem one_admission_outcome_retried : OneOutcome retryState.scheduler (retryState.reads 0) := by
  have kept : (gateway Nat sampleSettings).EveryStep (Admissible sampleSettings) (initial Scheduler.samplePolicy 0)
      retryEvents := by
    refine ⟨.inr ⟨_, rfl⟩, trivial, trivial, trivial, trivial, trivial, .inr ?_, trivial, trivial, trivial, trivial,
      trivial, trivial⟩
    apply Scheduler.room_not_refused _ _ (by decide +kernel)
    intro p
    cases p with
    | «protected» => decide +kernel
    | background => decide +kernel
  have reached := System.reaches_restrict (gateway Nat sampleSettings) _ _ retryEvents (by decide +kernel) kept
  have counts := (one_admission_outcome_iff sampleSettings Scheduler.samplePolicy 0 retryState reached).1
  exact counts 0 (.json 7) (by decide +kernel) nofun

-- The first read backs off after a connect timeout, the second one takes the
-- only place of the class, and the retry of the first is refused.
def crowdedEvents : List (Event Nat) :=
  retryEvents.take 6 ++ [.begin "quotes" .protected sampleMessages 1 1 1 1 1 0, .wake 0 2 2 2 2 2 2 0]

def crowdedState : State Nat :=
  (gateway Nat sampleSettings).performAll (initial Scheduler.samplePolicy 0) crowdedEvents

theorem retry_counted_twice :
    Reachable sampleSettings Scheduler.samplePolicy 0 crowdedState ∧
      (crowdedState.reads 0).stage = .answered (.error "gateway_capacity_exceeded"
        "gateway request capacity is unavailable" 429 none) ∧
      (crowdedState.reads 0).admission = ["rejected", "admitted"] ∧ ¬ CountsOnce crowdedState := by
  have stage : (crowdedState.reads 0).stage = .answered (.error "gateway_capacity_exceeded"
      "gateway request capacity is unavailable" 429 none) := by decide +kernel
  have admission : (crowdedState.reads 0).admission = ["rejected", "admitted"] := by decide +kernel
  refine ⟨System.reaches_perform_all _ Set.univ _ crowdedEvents (fun _ _ => trivial) (by decide +kernel), stage,
    admission, ?_⟩
  intro once
  exact both_counted _ _ admission (once 0 _ stage nofun)

end SchwabGateway.Reads
