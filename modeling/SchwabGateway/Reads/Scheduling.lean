import SchwabGateway.Reads.System
import SchwabGateway.Scheduler.Outcomes

set_option autoImplicit false

namespace SchwabGateway.Reads

open SchwabGateway.Library

variable {V : Type}

def Runs (s t : Scheduler.State V Failure) : Prop :=
  (Scheduler.scheduler V Failure).Reaches Scheduler.undisturbed s t

theorem runs_invariant (s t : Scheduler.State V Failure) (invariant : Scheduler.Invariant s)
    (runs : Runs s t) : Scheduler.Invariant t :=
  (Scheduler.scheduler V Failure).reaches_invariant Scheduler.undisturbed Scheduler.Invariant
    Scheduler.invariant_step s t runs invariant

theorem runs_event (s : Scheduler.State V Failure) (event : Scheduler.Event V Failure)
    (calm : event.disturbs = false)
    (guard : (Scheduler.scheduler V Failure).enabled s event) :
    Runs s ((Scheduler.scheduler V Failure).perform s event) :=
  Relation.ReflTransGen.single ⟨event, calm, guard, rfl⟩

theorem event_clock (s : Scheduler.State V Failure) (event : Scheduler.Event V Failure)
    (invariant : Scheduler.Invariant s) (calm : event.disturbs = false)
    (guard : (Scheduler.scheduler V Failure).enabled s event) :
    ((Scheduler.scheduler V Failure).perform s event).clock = event.now :=
  Scheduler.step_clock _ _ _ (Scheduler.step_spec s event invariant calm guard)

theorem runs_tick (s : Scheduler.State V Failure) (now : ℚ) (later : s.clock ≤ now) :
    Runs s ((Scheduler.scheduler V Failure).perform s (.tick now)) :=
  runs_event s (.tick now) rfl ⟨later, trivial⟩

theorem runs_event_tick (s : Scheduler.State V Failure) (event : Scheduler.Event V Failure) (now : ℚ)
    (invariant : Scheduler.Invariant s) (calm : event.disturbs = false)
    (guard : (Scheduler.scheduler V Failure).enabled s event) (later : event.now ≤ now) :
    Runs s ((Scheduler.scheduler V Failure).perform
      ((Scheduler.scheduler V Failure).perform s event) (.tick now)) := by
  apply Relation.ReflTransGen.trans (runs_event s event calm guard)
  apply runs_tick
  rw [event_clock s event invariant calm guard]
  exact later

@[simp] theorem proceed_scheduler (s : State V) (id job : Nat) (attempt : Attempt)
    (observedAt wall : ℚ) : (s.proceed id job attempt observedAt wall).scheduler = s.scheduler := by
  unfold State.proceed
  split <;> rfl

theorem submit_scheduler (s : State V) (id : Nat) (attempt : Attempt) (args : Scheduler.Arguments)
    (enqueuedAt now observedAt wall : ℚ) :
    (s.submit id attempt args enqueuedAt now observedAt wall).scheduler =
      (Scheduler.scheduler V Failure).perform
        ((Scheduler.scheduler V Failure).perform s.scheduler (.execute args enqueuedAt now))
        (.tick observedAt) := by
  simp only [State.submit, proceed_scheduler]
  rfl

theorem refuse_scheduler (s : State V) (id : Nat) (attempt : Attempt) (checkedAt now : ℚ) :
    (s.refuse id attempt checkedAt now).scheduler =
      (Scheduler.scheduler V Failure).perform s.scheduler (.tick now) := rfl

theorem arrive_scheduler (s : State V) (settings : Settings) (operationName : String)
    (priority : PriorityClass) (messages : Messages) (startedAt : ℚ) :
    (s.arrive settings operationName priority messages startedAt).scheduler = s.scheduler := rfl

theorem runs_submit (s : State V) (id : Nat) (attempt : Attempt) (args : Scheduler.Arguments)
    (enqueuedAt now observedAt wall : ℚ) (invariant : Scheduler.Invariant s.scheduler)
    (early : s.scheduler.clock ≤ enqueuedAt) (between : enqueuedAt ≤ now) (late : now ≤ observedAt) :
    Runs s.scheduler (s.submit id attempt args enqueuedAt now observedAt wall).scheduler := by
  rw [submit_scheduler]
  exact runs_event_tick s.scheduler (.execute args enqueuedAt now) observedAt invariant rfl
    ⟨le_trans early between, early, between⟩ late

theorem raise_cooldown_scheduler (s : State V) (failure : Failure) (handledAt wall : ℚ) :
    (raiseCooldown s failure handledAt wall).scheduler = s.scheduler := by
  unfold raiseCooldown
  split <;> rfl

theorem record_handled_scheduler (s : State V) (failure : Failure) (handledAt wall : ℚ) :
    (recordHandled s failure handledAt wall).scheduler = s.scheduler := by
  simp only [recordHandled]
  split <;> rfl

theorem finish_build_scheduler (s : State V) (job : Nat) (ending : BuildEnding V)
    (handledAt wall now : ℚ) :
    (s.finishBuild job ending handledAt wall now).scheduler =
      (Scheduler.scheduler V Failure).perform s.scheduler
        (.completeOperation job ending.ending now) := by
  cases ending with
  | value result => rfl
  | cancelled => rfl
  | failure error =>
      simp only [State.finishBuild, State.act, raise_cooldown_scheduler, record_handled_scheduler]

theorem start_operation_done (s : Scheduler.State V Failure) (job : Nat) (checkedAt : ℚ) :
    ((Scheduler.scheduler V Failure).perform s (.startOperation job checkedAt)).operations job =
      .running := by
  simp [Scheduler.scheduler, Scheduler.effect, Scheduler.startOperation, Scheduler.State.setOperation,
    Scheduler.State.setLedger]

theorem runs_start_operation (s : State V) (job : Nat) (checkedAt now : ℚ)
    (invariant : Scheduler.Invariant s.scheduler)
    (guard : (Scheduler.scheduler V Failure).enabled s.scheduler (.startOperation job checkedAt))
    (later : checkedAt ≤ now) : Runs s.scheduler (s.startOperation job checkedAt now).scheduler := by
  simp only [State.startOperation]
  split
  · have clock := event_clock s.scheduler (.startOperation job checkedAt) invariant rfl guard
    have running := start_operation_done s.scheduler job checkedAt
    generalize cooldown : rateLimitedRead (s.cooldownUntil - checkedAt) = error
    have completed := runs_event
      ((Scheduler.scheduler V Failure).perform s.scheduler (.startOperation job checkedAt))
      (.completeOperation job (.error error) now) rfl ⟨le_of_eq_of_le clock later, running⟩
    exact Relation.ReflTransGen.trans
      (runs_event s.scheduler (.startOperation job checkedAt) rfl guard) completed
  · exact runs_event_tick s.scheduler (.startOperation job checkedAt) now invariant rfl guard later

theorem of_scheduler_calm (event : Scheduler.Event V Failure) (internal : ofScheduler event = true) :
    event.disturbs = false := by
  cases event <;> first | rfl | cases internal

theorem runs_perform (settings : Settings) (s : State V) (event : Event V)
    (invariant : Scheduler.Invariant s.scheduler) (guard : enabled s event) :
    Runs s.scheduler (perform settings s event).scheduler := by
  cases event with
  | begin operationName priority messages startedAt checkedAt enqueuedAt now observedAt wall =>
      obtain ⟨first, second, third, fourth, fifth⟩ := guard
      simp only [perform]
      generalize arrived : s.arrive settings operationName priority messages startedAt = a
      have same : a.scheduler = s.scheduler := by rw [← arrived, arrive_scheduler]
      rw [← same] at invariant first ⊢
      split
      · rw [refuse_scheduler]
        apply runs_tick
        exact le_trans first (le_trans second (le_trans third (le_trans fourth fifth)))
      · exact runs_submit a _ _ _ _ _ _ _ invariant
          (le_trans first (le_trans second third)) fourth fifth
  | resume read job attempt now observedAt wall =>
      obtain ⟨_, resumed, late⟩ := guard
      simp only [perform, proceed_scheduler]
      exact runs_event_tick s.scheduler (.resumeCaller job now) observedAt invariant rfl resumed late
  | wake read checkedAt queueAt executeAt enqueuedAt now observedAt wall =>
      obtain ⟨_, first, second, third, fourth, fifth, sixth⟩ := guard
      simp only [perform]
      split
      · rw [refuse_scheduler]
        apply runs_tick
        exact le_trans first (le_trans second (le_trans third (le_trans fourth (le_trans fifth sixth))))
      · exact runs_submit s _ _ _ _ _ _ _ invariant
          (le_trans first (le_trans second (le_trans third fourth))) fifth sixth
  | cancel read job now => exact runs_event s.scheduler (.cancelCaller job now) rfl guard.2
  | cancelBackoff read now => exact runs_tick s.scheduler now guard.2
  | startOperation job checkedAt now =>
      exact runs_start_operation s job checkedAt now invariant guard.1 guard.2
  | finishBuild job ending handledAt wall now =>
      simp only [perform, finish_build_scheduler]
      exact runs_event s.scheduler (.completeOperation job ending.ending now) rfl guard.1
  | joined failure now wall => exact runs_tick s.scheduler now guard
  | advance event => exact runs_event s.scheduler event (of_scheduler_calm event guard.1) guard.2

theorem scheduler_invariant_step (settings : Settings) (s : State V) (event : Event V)
    (invariant : Scheduler.Invariant s.scheduler) (guard : enabled s event) :
    Scheduler.Invariant (perform settings s event).scheduler :=
  runs_invariant _ _ invariant (runs_perform settings s event invariant guard)

theorem reaches_runs (settings : Settings) (s t : State V)
    (invariant : Scheduler.Invariant s.scheduler)
    (reached : (gateway V settings).Reaches Set.univ s t) : Runs s.scheduler t.scheduler := by
  apply System.reaches_project (gateway V settings) (Scheduler.scheduler V Failure) Set.univ
    Scheduler.undisturbed State.scheduler (fun a => Scheduler.Invariant a.scheduler)
  · intro a event _ held guard
    exact scheduler_invariant_step settings a event held guard
  · intro a event _ held guard
    exact runs_perform settings a event held guard
  · exact reached
  · exact invariant

theorem reachable_scheduler (settings : Settings) (policy : AdmissionPolicy) (clock : ℚ) (s : State V)
    (reachable : Reachable settings policy clock s) :
    Scheduler.Reachable policy clock s.scheduler :=
  reaches_runs settings (initial policy clock) s (Scheduler.invariant_initial policy clock) reachable

end SchwabGateway.Reads
