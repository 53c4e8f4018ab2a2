import SchwabGateway.Reads.Retry
import SchwabGateway.Scheduler.Operations

set_option autoImplicit false

namespace SchwabGateway.Reads

open SchwabGateway.Library

variable {V : Type}

-- What guarded_response raises itself is told from what a build_response
-- raises: only the former carries its metadata on its own head.
theorem local_not_upstream (seconds : ℚ) (error : ReadFailure) :
    rateLimitedRead seconds ≠ error.exception := by
  intro same
  have metadata := congrArg (fun failure : Failure => failure.head.metadata) same
  cases error <;> cases metadata

theorem local_classified (seconds wall : ℚ) :
    classify (rateLimitedRead seconds) wall = ⟨.rateLimited, some (min 60 seconds)⟩ := rfl

def State.built (s : State V) (job : Nat) : Prop := job ∈ s.builds.map Build.job

-- Where the failure of an operation comes from: the cooldown check in front of
-- build_response, or build_response.
structure Sourced (s : State V) : Prop where
  running : ∀ job, s.scheduler.operations job = .running → s.built job
  failed : ∀ job failure completedAt, s.scheduler.operations job = .done (.error failure) completedAt →
    (∃ seconds, failure = rateLimitedRead seconds) ∨
      s.built job ∧ ∃ error : ReadFailure, failure = error.exception

theorem sourced_initial (policy : AdmissionPolicy) (clock : ℚ) : Sourced (initial policy clock : State V) where
  running := nofun
  failed := by
    intro job failure completedAt ended
    cases ended

theorem sourced_frame (s t : State V) (sourced : Sourced s) (builds : t.builds = s.builds)
    (operations : ∀ job, t.scheduler.operations job = s.scheduler.operations job ∨
      t.scheduler.operations job = .created) : Sourced t where
  running := by
    intro job running
    rw [State.built, builds]
    rcases operations job with same | created
    · exact sourced.running job (same.symm.trans running)
    · cases created.symm.trans running
  failed := by
    intro job failure completedAt done
    rw [State.built, builds]
    rcases operations job with same | created
    · exact sourced.failed job failure completedAt (same.symm.trans done)
    · cases created.symm.trans done

theorem sourced_act (s t : State V) (event : Scheduler.Event V Failure)
    (apart : event.touchesOperation = false) (sourced : Sourced s) (builds : t.builds = s.builds)
    (scheduler : t.scheduler.operations =
      ((Scheduler.scheduler V Failure).perform s.scheduler event).operations) : Sourced t := by
  apply sourced_frame s t sourced builds
  intro job
  rw [scheduler]
  exact Scheduler.operations_frame s.scheduler event apart job

theorem sourced_still (s t : State V) (sourced : Sourced s) (builds : t.builds = s.builds)
    (scheduler : t.scheduler.operations = s.scheduler.operations) : Sourced t :=
  sourced_frame s t sourced builds (fun job => .inl (congrFun scheduler job))

theorem submit_operations (s : State V) (id : Nat) (attempt : Attempt) (args : Scheduler.Arguments)
    (enqueuedAt now observedAt wall : ℚ) :
    (s.submit id attempt args enqueuedAt now observedAt wall).scheduler.operations =
      s.scheduler.operations := by
  rw [submit_scheduler]
  exact Scheduler.execute_operations _ args enqueuedAt now

theorem sourced_start_operation (s : State V) (job : Nat) (checkedAt now : ℚ) (sourced : Sourced s) :
    Sourced (s.startOperation job checkedAt now) := by
  simp only [State.startOperation]
  split
  · generalize left : s.cooldownUntil - checkedAt = seconds
    have operations : (((s.act (.startOperation job checkedAt)).act
        (.completeOperation job (.error (rateLimitedRead seconds)) now)).scheduler).operations =
        Function.update (Function.update s.scheduler.operations job .running) job
          (.done (.error (rateLimitedRead seconds)) now) := rfl
    refine ⟨?_, ?_⟩
    · intro other running
      rw [operations] at running
      by_cases same : other = job
      · rw [same, Function.update_self] at running
        cases running
      · rw [Function.update_of_ne same, Function.update_of_ne same] at running
        exact sourced.running other running
    · intro other failure completedAt done
      rw [operations] at done
      by_cases same : other = job
      · rw [same, Function.update_self] at done
        cases done
        exact .inl ⟨seconds, rfl⟩
      · rw [Function.update_of_ne same, Function.update_of_ne same] at done
        exact sourced.failed other failure completedAt done
  · have operations : ((s.act (.startOperation job checkedAt)).tick now).scheduler.operations =
        Function.update s.scheduler.operations job .running := rfl
    refine ⟨?_, ?_⟩
    · intro other running
      by_cases same : other = job
      · rw [same]
        exact List.mem_cons_self
      · have before : s.scheduler.operations other = .running := by
          rw [← running]
          exact (congrFun operations other).trans (Function.update_of_ne same _ _) |>.symm
        exact List.mem_cons_of_mem _ (sourced.running other before)
    · intro other failure completedAt done
      have updated := (congrFun operations other).symm.trans done
      by_cases same : other = job
      · rw [same, Function.update_self] at updated
        cases updated
      · rw [Function.update_of_ne same] at updated
        rcases sourced.failed other failure completedAt updated with refused | ⟨built, raised⟩
        · exact .inl refused
        · exact .inr ⟨List.mem_cons_of_mem _ built, raised⟩

theorem sourced_finish_build (s : State V) (job : Nat) (ending : BuildEnding V) (handledAt wall now : ℚ)
    (running : s.scheduler.operations job = .running) (sourced : Sourced s) :
    Sourced (s.finishBuild job ending handledAt wall now) := by
  have builds := (finish_build_frame s job ending handledAt wall now).2.2.2
  have operations : (s.finishBuild job ending handledAt wall now).scheduler.operations =
      Function.update s.scheduler.operations job (.done ending.ending now) := by
    rw [finish_build_scheduler]
    rfl
  refine ⟨?_, ?_⟩
  · intro other still
    rw [State.built, builds]
    rw [operations] at still
    by_cases same : other = job
    · rw [same]
      exact sourced.running job running
    · rw [Function.update_of_ne same] at still
      exact sourced.running other still
  · intro other failure completedAt done
    rw [State.built, builds]
    rw [operations] at done
    by_cases same : other = job
    · rw [same, Function.update_self] at done
      rw [same]
      refine .inr ⟨sourced.running job running, ?_⟩
      cases ending with
      | value result => cases done
      | cancelled => cases done
      | failure error =>
          cases done
          exact ⟨error, rfl⟩
    · rw [Function.update_of_ne same] at done
      exact sourced.failed other failure completedAt done

theorem sourced_perform (settings : Settings) (s : State V) (event : Event V) (sourced : Sourced s)
    (guard : enabled s event) : Sourced (perform settings s event) := by
  cases event with
  | begin operationName priority messages startedAt checkedAt enqueuedAt now observedAt wall =>
      simp only [perform]
      split
      · exact sourced_still s _ sourced rfl rfl
      · refine sourced_still s _ sourced ?_ ?_
        · rw [(submit_logs _ _ _ _ _ _ _ _).2]
          rfl
        · rw [submit_operations]
          rfl
  | resume read job attempt now observedAt wall =>
      apply sourced_act s _ (.resumeCaller job now) rfl sourced
      · exact (proceed_logs ((s.act (.resumeCaller job now)).tick observedAt) read job attempt
          observedAt wall).2
      · simp only [perform, proceed_scheduler]
        rfl
  | wake read checkedAt queueAt executeAt enqueuedAt now observedAt wall =>
      simp only [perform]
      split
      · exact sourced_still s _ sourced rfl rfl
      · refine sourced_still s _ sourced ?_ ?_
        · rw [(submit_logs _ _ _ _ _ _ _ _).2]
        · rw [submit_operations]
  | cancel read job now => exact sourced_act s _ (.cancelCaller job now) rfl sourced rfl rfl
  | cancelBackoff read now => exact sourced_still s _ sourced rfl rfl
  | startOperation job checkedAt now => exact sourced_start_operation s job checkedAt now sourced
  | finishBuild job ending handledAt wall now =>
      exact sourced_finish_build s job ending handledAt wall now guard.1.2 sourced
  | joined failure now wall => exact sourced_still s _ sourced rfl rfl
  | advance event =>
      have apart : event.touchesOperation = false := by
        have internal := guard.1
        cases event <;> first | rfl | cases internal
      exact sourced_act s _ event apart sourced rfl rfl

-- What an exception that reached _serve_upstream does to the cooldown.
def handledCooldown (cooldownUntil : ℚ) (failure : Failure) (now wall : ℚ) : ℚ :=
  if failure.head.exceptionClass = .upstreamUnavailable ∧ (classify failure wall).cause = .rateLimited then
    max cooldownUntil (now + backoffDelay (classify failure wall).retryAfter)
  else cooldownUntil

theorem settle_cooldown (cooldownUntil : ℚ) (read : Read V) (attempt : Attempt) (failure : Failure)
    (now wall : ℚ) :
    (settle cooldownUntil read attempt (.raised (.operation failure)) now wall).cooldownUntil =
      handledCooldown cooldownUntil failure now wall := by
  simp only [settle, handledCooldown, settleUnavailable]
  cases failure.head.exceptionClass with
  | upstreamUnavailable =>
      cases cause : (classify failure wall).cause with
      | rateLimited => simp [answerFailure, failureResponse, cause]
      | connectTimeout =>
          dsimp only
          split <;> simp
      | schedulerTimeout => simp
      | other => simp
  | upstreamMalformed => simp
  | valueError => simp
  | other => simp

theorem settle_cooldown_other (cooldownUntil : ℚ) (read : Read V) (attempt : Attempt)
    (outcome : Scheduler.Outcome V Failure) (now wall : ℚ)
    (other : ∀ failure, outcome ≠ .raised (.operation failure)) :
    (settle cooldownUntil read attempt outcome now wall).cooldownUntil = cooldownUntil := by
  cases outcome with
  | returned value => rfl
  | raised error =>
      cases error with
      | valueError message => rfl
      | capacity message => rfl
      | queueTimeout message => rfl
      | upstreamTimeout message => rfl
      | cancelled => rfl
      | operation failure => exact absurd rfl (other failure)

theorem proceed_cooldown (s : State V) (id job : Nat) (attempt : Attempt) (failure : Failure)
    (observedAt wall : ℚ) (ended : s.scheduler.callers job = .ended (.raised (.operation failure))) :
    (s.proceed id job attempt observedAt wall).cooldownUntil =
      handledCooldown s.cooldownUntil failure observedAt wall := by
  simp only [State.proceed, ended]
  exact settle_cooldown s.cooldownUntil (s.reads id) attempt failure observedAt wall

theorem proceed_cooldown_other (s : State V) (id job : Nat) (attempt : Attempt) (observedAt wall : ℚ)
    (other : ∀ failure, s.scheduler.callers job ≠ .ended (.raised (.operation failure))) :
    (s.proceed id job attempt observedAt wall).cooldownUntil = s.cooldownUntil := by
  unfold State.proceed
  cases caller : s.scheduler.callers job with
  | absent => rfl
  | waitingStarted timerFired cancelRequested => rfl
  | waitingResult cancelRequested => rfl
  | ended outcome =>
      apply settle_cooldown_other
      intro failure same
      rw [same] at caller
      exact other failure caller

-- An attempt that has only been handed to the scheduler has no failure yet.
theorem submit_cooldown (s : State V) (id : Nat) (attempt : Attempt) (args : Scheduler.Arguments)
    (enqueuedAt now observedAt wall : ℚ) (invariant : Scheduler.Invariant s.scheduler)
    (early : s.scheduler.clock ≤ enqueuedAt) (between : enqueuedAt ≤ now) :
    (s.submit id attempt args enqueuedAt now observedAt wall).cooldownUntil = s.cooldownUntil := by
  have fresh := Scheduler.execute_not_ran s.scheduler invariant args enqueuedAt now
    ⟨le_trans early between, early, between⟩
  exact proceed_cooldown_other (s.submitted id attempt args enqueuedAt now observedAt) id
    s.scheduler.next attempt observedAt wall fresh

-- The caller of a job is about to get the refusal that its operation raised
-- when it found the cooldown active in the slot.
def RefusalInHand (s : State V) (job : Nat) (seconds : ℚ) : Prop :=
  (s.scheduler.jobs job).result = .exception (.operation (rateLimitedRead seconds)) ∧
    (s.scheduler.callers job).cancelPending = false

def Refuses (s : State V) : Event V → Prop
  | .begin _ _ _ _ checkedAt _ _ _ _ => 0 < s.cooldownUntil - checkedAt
  | .wake _ checkedAt _ _ _ _ _ _ => 0 < s.cooldownUntil - checkedAt
  | .startOperation _ checkedAt _ => 0 < s.cooldownUntil - checkedAt
  | .resume _ job _ _ _ _ => ∃ seconds, RefusalInHand s job seconds
  | _ => False

-- The steps that have a rate-limited failure of an upstream read in hand: the
-- build_response that raises it, the read that called it, and a request that
-- joined the fetch of another one.
def FromUpstream (s : State V) : Event V → Prop
  | .finishBuild _ (.failure failure) _ wall _ => (classify failure.exception wall).cause = .rateLimited
  | .resume _ job _ _ _ wall => s.built job ∧ ∃ (error : ReadFailure) (completedAt : ℚ),
      s.scheduler.operations job = .done (.error error.exception) completedAt ∧
        (classify error.exception wall).cause = .rateLimited
  | .joined failure _ wall => (classify failure.exception wall).cause = .rateLimited
  | _ => False

structure OnlyUpstream (settings : Settings) (s : State V) (event : Event V) : Prop where
  changed : (perform settings s event).cooldownUntil ≠ s.cooldownUntil → FromUpstream s event
  refused : Refuses s event → (perform settings s event).cooldownUntil = s.cooldownUntil

-- A refusal from the slot reaches its read while the cooldown it would ask for
-- is still covered by the one in place.
def RefusalCovered (s : State V) : Event V → Prop
  | .resume _ job _ _ observedAt _ => ∀ seconds, RefusalInHand s job seconds →
      observedAt + backoffDelay (some (min 60 seconds)) ≤ s.cooldownUntil
  | _ => True

theorem unchanged_only_upstream (settings : Settings) (s : State V) (event : Event V)
    (same : (perform settings s event).cooldownUntil = s.cooldownUntil) : OnlyUpstream settings s event :=
  ⟨fun changed => absurd same changed, fun _ => same⟩

theorem resume_in_hand (s : State V) (job : Nat) (now observedAt : ℚ) (failure : Failure)
    (invariant : Scheduler.Invariant s.scheduler)
    (guard : (Scheduler.scheduler V Failure).enabled s.scheduler (.resumeCaller job now)) :
    ((s.act (.resumeCaller job now)).tick observedAt).scheduler.callers job =
        .ended (.raised (.operation failure)) ↔
      (s.scheduler.jobs job).result = .exception (.operation failure) ∧
        (s.scheduler.callers job).cancelPending = false := by
  have waiting : (s.scheduler.callers job).waiting = true := by
    have ready := guard.2
    simp only [Scheduler.guard] at ready
    cases caller : s.scheduler.callers job with
    | absent => simp [caller, Scheduler.callerReady] at ready
    | waitingStarted timerFired cancelRequested => rfl
    | waitingResult cancelRequested => rfl
    | ended outcome => simp [caller, Scheduler.callerReady] at ready
  have resumed := Scheduler.resume_error s.scheduler.clock now (Scheduler.view s.scheduler job) failure
    (invariant.consistent job) waiting
  have seen : ((s.act (.resumeCaller job now)).tick observedAt).scheduler.callers job =
      ((Scheduler.view s.scheduler job).resume now).caller := by
    have own := Scheduler.view_resume (s.scheduler.at now) job job now
    rw [if_pos rfl] at own
    exact congrArg Scheduler.View.caller own
  rw [seen]
  exact resumed

theorem resume_done (s : State V) (job : Nat) (now observedAt : ℚ) (failure : Failure)
    (invariant : Scheduler.Invariant s.scheduler)
    (guard : (Scheduler.scheduler V Failure).enabled s.scheduler (.resumeCaller job now))
    (ended : ((s.act (.resumeCaller job now)).tick observedAt).scheduler.callers job =
      .ended (.raised (.operation failure))) :
    ∃ completedAt, s.scheduler.operations job = .done (.error failure) completedAt := by
  have after := Scheduler.invariant_step s.scheduler (.resumeCaller job now) rfl invariant guard
  obtain ⟨_, _, _, completedAt, _, done, _⟩ :=
    Scheduler.consistent_owed _ _ (after.consistent job) _ ended
  refine ⟨completedAt, ?_⟩
  rw [← done]
  exact (congrFun (Scheduler.resume_tasks (s.scheduler.at now) job now).operations job).symm

theorem resume_only_upstream (settings : Settings) (s : State V) (read job : Nat) (attempt : Attempt)
    (now observedAt wall : ℚ) (invariant : Scheduler.Invariant s.scheduler) (sourced : Sourced s)
    (guard : enabled s (.resume read job attempt now observedAt wall)) :
    OnlyUpstream settings s (.resume read job attempt now observedAt wall) ↔
      RefusalCovered s (.resume read job attempt now observedAt wall) := by
  have inHand := fun failure => resume_in_hand s job now observedAt failure invariant guard.2.1
  by_cases raised : ∃ failure, ((s.act (.resumeCaller job now)).tick observedAt).scheduler.callers job =
      .ended (.raised (.operation failure))
  · obtain ⟨failure, ended⟩ := raised
    have result := (inHand failure).mp ended
    have cooldown : (perform settings s (.resume read job attempt now observedAt wall)).cooldownUntil =
        handledCooldown s.cooldownUntil failure observedAt wall :=
      proceed_cooldown _ read job attempt failure observedAt wall ended
    obtain ⟨completedAt, done⟩ := resume_done s job now observedAt failure invariant guard.2.1 ended
    rcases sourced.failed job failure completedAt done with ⟨seconds, refusal⟩ | ⟨built, error, upstream⟩
    · subst refusal
      have extended : handledCooldown s.cooldownUntil (rateLimitedRead seconds) observedAt wall =
          max s.cooldownUntil (observedAt + backoffDelay (some (min 60 seconds))) := by
        unfold handledCooldown
        rw [local_classified, if_pos ⟨rfl, rfl⟩]
      rw [extended] at cooldown
      constructor
      · intro law other inHand
        have kept := law.refused ⟨seconds, result⟩
        have equal : min 60 other = min 60 seconds := by
          have failures := inHand.1.symm.trans result.1
          simpa [rateLimitedRead] using failures
        rw [cooldown] at kept
        rw [equal]
        exact max_eq_left_iff.mp kept
      · intro covered
        apply unchanged_only_upstream
        rw [cooldown]
        exact max_eq_left (covered seconds result)
    · subst upstream
      have vacuous : ∀ seconds, ¬ RefusalInHand s job seconds := by
        intro seconds inHand
        have failures := inHand.1.symm.trans result.1
        simp only [Scheduler.Future.exception.injEq, Scheduler.Raised.operation.injEq] at failures
        exact local_not_upstream seconds error failures
      constructor
      · intro _ seconds inHand
        exact absurd inHand (vacuous seconds)
      · intro _
        refine ⟨fun changed => ?_, fun refused => absurd refused.choose_spec (vacuous _)⟩
        refine ⟨built, error, completedAt, done, ?_⟩
        by_contra limited
        rw [cooldown, handledCooldown, if_neg (fun both => limited both.2)] at changed
        exact changed rfl
  · have other : ∀ failure, ((s.act (.resumeCaller job now)).tick observedAt).scheduler.callers job ≠
        .ended (.raised (.operation failure)) := fun failure ended => raised ⟨failure, ended⟩
    constructor
    · intro _ seconds refusal
      exact absurd ((inHand _).mpr refusal) (other _)
    · intro _
      apply unchanged_only_upstream
      exact proceed_cooldown_other _ read job attempt observedAt wall other

theorem finish_build_only_upstream (settings : Settings) (s : State V) (job : Nat) (ending : BuildEnding V)
    (handledAt wall now : ℚ) : OnlyUpstream settings s (.finishBuild job ending handledAt wall now) := by
  refine ⟨?_, fun refused => refused.elim⟩
  intro changed
  cases ending with
  | value result => exact absurd rfl changed
  | cancelled => exact absurd rfl changed
  | failure error =>
      show (classify error.exception wall).cause = .rateLimited
      by_contra limited
      apply changed
      simp [perform, State.finishBuild, State.act, raiseCooldown, recordHandled, limited]

theorem joined_only_upstream (settings : Settings) (s : State V) (failure : ReadFailure) (now wall : ℚ) :
    OnlyUpstream settings s (.joined failure now wall) := by
  refine ⟨?_, fun refused => refused.elim⟩
  intro changed
  show (classify failure.exception wall).cause = .rateLimited
  by_contra limited
  apply changed
  simp only [perform, failureResponse]
  cases cause : (classify failure.exception wall).cause with
  | rateLimited => exact absurd cause limited
  | connectTimeout => rfl
  | schedulerTimeout => rfl
  | other => rfl

theorem step_only_upstream (settings : Settings) (s : State V) (event : Event V)
    (invariant : Scheduler.Invariant s.scheduler) (sourced : Sourced s) (guard : enabled s event) :
    OnlyUpstream settings s event ↔ RefusalCovered s event := by
  cases event with
  | begin operationName priority messages startedAt checkedAt enqueuedAt now observedAt wall =>
      obtain ⟨first, second, third, fourth, _⟩ := guard
      refine iff_of_true (unchanged_only_upstream settings s _ ?_) trivial
      simp only [perform]
      split
      · rfl
      · exact submit_cooldown (s.arrive settings operationName priority messages startedAt) _ _ _ _ _ _ _
          invariant (le_trans first (le_trans second third)) fourth
  | resume read job attempt now observedAt wall =>
      exact resume_only_upstream settings s read job attempt now observedAt wall invariant sourced guard
  | wake read checkedAt queueAt executeAt enqueuedAt now observedAt wall =>
      obtain ⟨_, first, second, third, fourth, fifth, _⟩ := guard
      refine iff_of_true (unchanged_only_upstream settings s _ ?_) trivial
      simp only [perform]
      split
      · rfl
      · exact submit_cooldown s _ _ _ _ _ _ _ invariant
          (le_trans first (le_trans second (le_trans third fourth))) fifth
  | cancel read job now => exact iff_of_true (unchanged_only_upstream settings s _ rfl) trivial
  | cancelBackoff read now => exact iff_of_true (unchanged_only_upstream settings s _ rfl) trivial
  | startOperation job checkedAt now =>
      exact iff_of_true
        (unchanged_only_upstream settings s _ (start_operation_cooldown s job checkedAt now)) trivial
  | finishBuild job ending handledAt wall now =>
      exact iff_of_true (finish_build_only_upstream settings s job ending handledAt wall now) trivial
  | joined failure now wall => exact iff_of_true (joined_only_upstream settings s failure now wall) trivial
  | advance event => exact iff_of_true (unchanged_only_upstream settings s _ rfl) trivial

-- In a run only upstream failures move the cooldown exactly when each refusal
-- from the slot was covered by the cooldown in place.
theorem only_upstream_iff (settings : Settings) (policy : AdmissionPolicy) (clock : ℚ)
    (events : List (Event V)) (guards : (gateway V settings).EnabledAll (initial policy clock) events) :
    (gateway V settings).EveryStep (OnlyUpstream settings) (initial policy clock) events ↔
      (gateway V settings).EveryStep RefusalCovered (initial policy clock) events := by
  apply System.every_step_congr (gateway V settings)
    (fun a => Scheduler.Invariant a.scheduler ∧ Sourced a) _ _ _ _ _ events guards
    ⟨Scheduler.invariant_initial policy clock, sourced_initial policy clock⟩
  · intro a event held guard
    exact ⟨scheduler_invariant_step settings a event held.1 guard,
      sourced_perform settings a event held.2 guard⟩
  · intro a event held guard
    exact step_only_upstream settings a event held.1 held.2 guard

-- The 429 of the first read asked for thirty seconds from 1. The second read
-- looks at its refusal at 6, and that moves the end from 31 to 36.
def refusedEvents : List (Event Nat) :=
  sampleEvents ++ [.startOperation 1 1 1, .advance (.wakeLifecycle 1 6)]

def refusedState : State Nat :=
  (gateway Nat sampleSettings).performAll (initial Scheduler.samplePolicy 0) refusedEvents

theorem refusal_extends_cooldown :
    (gateway Nat sampleSettings).EnabledAll (initial Scheduler.samplePolicy 0)
        (refusedEvents ++ [.resume 1 1 .first 6 6 0]) ∧
      ¬ (gateway Nat sampleSettings).EveryStep (OnlyUpstream sampleSettings)
        (initial Scheduler.samplePolicy 0) (refusedEvents ++ [.resume 1 1 .first 6 6 0]) ∧
      refusedState.cooldownUntil = 31 ∧
      (perform sampleSettings refusedState (.resume 1 1 .first 6 6 0)).cooldownUntil = 36 := by
  refine ⟨by decide +kernel, ?_, by decide +kernel, by decide +kernel⟩
  intro every
  have last := ((System.every_step_append _ _ _ _ _).mp every).2.1
  have kept := last.refused ⟨30, by decide +kernel, by decide +kernel⟩
  exact absurd kept (by decide +kernel)

-- The second read looks at its refusal in the instant in which it was made.
theorem only_upstream_iff_sample :
    (gateway Nat sampleSettings).EveryStep (OnlyUpstream sampleSettings)
      (initial Scheduler.samplePolicy 0)
      (sampleEvents ++
        [.startOperation 1 1 1, .advance (.wakeLifecycle 1 1), .resume 1 1 .first 1 1 0]) := by
  apply (only_upstream_iff sampleSettings Scheduler.samplePolicy 0 _ (by decide +kernel)).mpr
  refine ⟨trivial, trivial, trivial, trivial, trivial, trivial, ?_, trivial, trivial, trivial, ?_, trivial⟩
  · intro seconds inHand
    have failures := inHand.1.symm.trans
      (by decide +kernel : _ = Scheduler.Future.exception (.operation sample429.exception))
    simp only [Scheduler.Future.exception.injEq, Scheduler.Raised.operation.injEq] at failures
    exact absurd failures (local_not_upstream seconds sample429)
  · intro seconds inHand
    have failures := inHand.1.symm.trans
      (by decide +kernel : _ = Scheduler.Future.exception (.operation (rateLimitedRead 30)))
    have equal : min 60 seconds = min 60 30 := by simpa [rateLimitedRead] using failures
    rw [equal]
    decide +kernel

end SchwabGateway.Reads
