import SchwabGateway.Reads.Scheduling

set_option autoImplicit false

namespace SchwabGateway.Reads

open SchwabGateway.Library

variable {V : Type}

theorem failure_response_mono (cooldownUntil : ℚ) (failure : Failure) (message : String)
    (now wall : ℚ) :
    cooldownUntil ≤ (failureResponse cooldownUntil failure message now wall : ℚ × Response V).1 := by
  simp only [failureResponse]
  cases (classify failure wall).cause with
  | rateLimited => exact le_max_left _ _
  | connectTimeout => exact le_refl _
  | schedulerTimeout => exact le_refl _
  | other => exact le_refl _

theorem failure_response_raises (cooldownUntil : ℚ) (failure : Failure) (message : String)
    (now wall : ℚ) (limited : (classify failure wall).cause = .rateLimited) :
    now + max 1 (validRetryAfter (classify failure wall).retryAfter) ≤
      (failureResponse cooldownUntil failure message now wall : ℚ × Response V).1 := by
  have covered := backoff_delay_covers (classify failure wall).retryAfter
  simp only [failureResponse, limited]
  have raised : now + backoffDelay (classify failure wall).retryAfter ≤
      max cooldownUntil (now + backoffDelay (classify failure wall).retryAfter) := le_max_right _ _
  linarith

theorem settle_unavailable_mono (cooldownUntil : ℚ) (read : Read V) (attempt : Attempt)
    (failure : Failure) (now wall : ℚ) :
    cooldownUntil ≤ (settleUnavailable cooldownUntil read attempt failure now wall).cooldownUntil := by
  unfold settleUnavailable
  cases (classify failure wall).cause with
  | rateLimited => exact failure_response_mono cooldownUntil failure _ now wall
  | connectTimeout =>
      dsimp only
      split <;> exact le_refl _
  | schedulerTimeout => exact le_refl _
  | other => exact le_refl _

theorem settle_mono (cooldownUntil : ℚ) (read : Read V) (attempt : Attempt)
    (outcome : Scheduler.Outcome V Failure) (now wall : ℚ) :
    cooldownUntil ≤ (settle cooldownUntil read attempt outcome now wall).cooldownUntil := by
  cases outcome with
  | returned value => exact le_refl _
  | raised error =>
      cases error with
      | valueError message => exact le_refl _
      | capacity message => exact le_refl _
      | queueTimeout message => exact le_refl _
      | upstreamTimeout message => exact le_refl _
      | cancelled => exact le_refl _
      | operation failure =>
          simp only [settle]
          cases failure.head.exceptionClass with
          | upstreamUnavailable => exact settle_unavailable_mono cooldownUntil read attempt failure now wall
          | upstreamMalformed => exact le_refl _
          | valueError => exact le_refl _
          | other => exact le_refl _

theorem proceed_mono (s : State V) (id job : Nat) (attempt : Attempt) (observedAt wall : ℚ) :
    s.cooldownUntil ≤ (s.proceed id job attempt observedAt wall).cooldownUntil := by
  unfold State.proceed
  cases s.scheduler.callers job with
  | absent => exact le_refl _
  | waitingStarted timerFired cancelRequested => exact le_refl _
  | waitingResult cancelRequested => exact le_refl _
  | ended outcome => exact settle_mono s.cooldownUntil (s.reads id) attempt outcome observedAt wall

theorem raise_cooldown_mono (s : State V) (failure : Failure) (handledAt wall : ℚ) :
    s.cooldownUntil ≤ (raiseCooldown s failure handledAt wall).cooldownUntil := by
  unfold raiseCooldown
  split
  · exact failure_response_mono s.cooldownUntil failure "" handledAt wall
  · exact le_refl _

theorem record_handled_cooldown (s : State V) (failure : Failure) (handledAt wall : ℚ) :
    (recordHandled s failure handledAt wall).cooldownUntil = s.cooldownUntil := by
  simp only [recordHandled]
  split <;> rfl

theorem finish_build_mono (s : State V) (job : Nat) (ending : BuildEnding V) (handledAt wall now : ℚ) :
    s.cooldownUntil ≤ (s.finishBuild job ending handledAt wall now).cooldownUntil := by
  cases ending with
  | value result => exact le_refl _
  | cancelled => exact le_refl _
  | failure error =>
      have raised := raise_cooldown_mono (recordHandled s error.exception handledAt wall)
        error.exception handledAt wall
      rw [record_handled_cooldown] at raised
      exact raised

theorem start_operation_cooldown (s : State V) (job : Nat) (checkedAt now : ℚ) :
    (s.startOperation job checkedAt now).cooldownUntil = s.cooldownUntil := by
  simp only [State.startOperation]
  split <;> rfl

theorem cooldown_mono (settings : Settings) (s : State V) (event : Event V) :
    s.cooldownUntil ≤ (perform settings s event).cooldownUntil := by
  cases event with
  | begin operationName priority messages startedAt checkedAt enqueuedAt now observedAt wall =>
      simp only [perform]
      split
      · exact le_refl _
      · exact proceed_mono _ s.next s.scheduler.next .first observedAt wall
  | resume read job attempt now observedAt wall =>
      exact proceed_mono ((s.act (.resumeCaller job now)).tick observedAt) read job attempt observedAt wall
  | wake read checkedAt queueAt executeAt enqueuedAt now observedAt wall =>
      simp only [perform]
      split
      · exact le_refl _
      · exact proceed_mono _ read s.scheduler.next .second observedAt wall
  | cancel read job now => exact le_refl _
  | cancelBackoff read now => exact le_refl _
  | startOperation job checkedAt now => exact le_of_eq (start_operation_cooldown s job checkedAt now).symm
  | finishBuild job ending handledAt wall now => exact finish_build_mono s job ending handledAt wall now
  | joined failure now wall => exact failure_response_mono s.cooldownUntil failure.exception "" now wall
  | advance event => exact le_refl _

theorem cooldown_mono_reaches (settings : Settings) (s t : State V)
    (reached : (gateway V settings).Reaches Set.univ s t) : s.cooldownUntil ≤ t.cooldownUntil :=
  System.reaches_related (gateway V settings) Set.univ (fun _ => True)
    (fun a b => a.cooldownUntil ≤ b.cooldownUntil) (fun _ => le_refl _)
    (fun _ _ _ first second => le_trans first second) (fun _ _ _ _ _ => trivial)
    (fun a event _ _ _ => cooldown_mono settings a event) s t reached trivial

theorem raise_cooldown_raises (s : State V) (failure : ReadFailure) (handledAt wall : ℚ)
    (limited : (classify failure.exception wall).cause = .rateLimited) :
    handledAt + max 1 (validRetryAfter (classify failure.exception wall).retryAfter) ≤
      (raiseCooldown s failure.exception handledAt wall).cooldownUntil := by
  have unavailable := rate_limited_unavailable failure wall limited
  unfold raiseCooldown
  rw [if_pos ⟨unavailable, limited⟩]
  exact failure_response_raises s.cooldownUntil failure.exception "" handledAt wall limited

-- Everything handled so far is still respected, and no build was let through.
structure Gated (s : State V) : Prop where
  handled : ∀ handled, handled ∈ s.handled →
    handled.handledAt + max 1 (validRetryAfter handled.retryAfter) ≤ s.cooldownUntil
  builds : ∀ build, build ∈ s.builds → build.cooldownUntil ≤ build.startedAt

theorem gated_frame (s t : State V) (gated : Gated s) (handled : t.handled = s.handled)
    (builds : t.builds = s.builds) (later : s.cooldownUntil ≤ t.cooldownUntil) : Gated t where
  handled := by
    rw [handled]
    intro entry member
    exact le_trans (gated.handled entry member) later
  builds := by
    rw [builds]
    exact gated.builds

theorem proceed_logs (s : State V) (id job : Nat) (attempt : Attempt) (observedAt wall : ℚ) :
    (s.proceed id job attempt observedAt wall).handled = s.handled ∧
      (s.proceed id job attempt observedAt wall).builds = s.builds := by
  unfold State.proceed
  split <;> exact ⟨rfl, rfl⟩

theorem submit_logs (s : State V) (id : Nat) (attempt : Attempt) (args : Scheduler.Arguments)
    (enqueuedAt now observedAt wall : ℚ) :
    (s.submit id attempt args enqueuedAt now observedAt wall).handled = s.handled ∧
      (s.submit id attempt args enqueuedAt now observedAt wall).builds = s.builds := by
  simp only [State.submit, proceed_logs]
  exact ⟨rfl, rfl⟩

theorem gated_start_operation (s : State V) (job : Nat) (checkedAt now : ℚ) (gated : Gated s) :
    Gated (s.startOperation job checkedAt now) := by
  simp only [State.startOperation]
  split
  · exact gated_frame s _ gated rfl rfl (le_refl _)
  · rename_i past
    refine ⟨gated.handled, ?_⟩
    intro build member
    cases List.mem_cons.mp member with
    | inl new =>
        rw [new]
        dsimp only
        linarith
    | inr old => exact gated.builds build old

theorem gated_finish_build (s : State V) (job : Nat) (ending : BuildEnding V) (handledAt wall now : ℚ)
    (gated : Gated s) : Gated (s.finishBuild job ending handledAt wall now) := by
  cases ending with
  | value result => exact gated_frame s _ gated rfl rfl (le_refl _)
  | cancelled => exact gated_frame s _ gated rfl rfl (le_refl _)
  | failure error =>
      have mono := finish_build_mono s job (.failure error) handledAt wall now
      by_cases limited : (classify error.exception wall).cause = .rateLimited
      · have raised := raise_cooldown_raises (recordHandled s error.exception handledAt wall) error
          handledAt wall limited
        have recorded : (s.finishBuild job (.failure error) handledAt wall now).handled =
            ⟨handledAt, (classify error.exception wall).retryAfter⟩ :: s.handled := by
          simp [State.finishBuild, State.act, raiseCooldown, recordHandled, limited,
            rate_limited_unavailable error wall limited]
        have kept : (s.finishBuild job (.failure error) handledAt wall now).builds = s.builds := by
          simp [State.finishBuild, State.act, raiseCooldown, recordHandled, limited,
            rate_limited_unavailable error wall limited]
        refine ⟨?_, by rw [kept]; exact gated.builds⟩
        rw [recorded]
        intro entry member
        cases List.mem_cons.mp member with
        | inl new =>
            rw [new]
            exact raised
        | inr old => exact le_trans (gated.handled entry old) mono
      · have same : raiseCooldown (recordHandled s error.exception handledAt wall) error.exception
            handledAt wall = s := by
          simp [raiseCooldown, recordHandled, limited]
        have frame : s.finishBuild job (.failure error) handledAt wall now =
            s.act (.completeOperation job (.error error.exception) now) := by
          simp only [State.finishBuild, same]
          rfl
        rw [frame]
        exact gated_frame s _ gated rfl rfl (le_refl _)

theorem gated_perform (settings : Settings) (s : State V) (event : Event V) (gated : Gated s) :
    Gated (perform settings s event) := by
  have mono := cooldown_mono settings s event
  cases event with
  | begin operationName priority messages startedAt checkedAt enqueuedAt now observedAt wall =>
      simp only [perform] at mono ⊢
      split at mono
      · rename_i shut
        rw [if_pos shut]
        exact gated_frame s _ gated rfl rfl mono
      · rename_i passed
        rw [if_neg passed]
        apply gated_frame s _ gated _ _ mono
        · rw [(submit_logs _ _ _ _ _ _ _ _).1]
          rfl
        · rw [(submit_logs _ _ _ _ _ _ _ _).2]
          rfl
  | resume read job attempt now observedAt wall =>
      have logs := proceed_logs ((s.act (.resumeCaller job now)).tick observedAt) read job attempt
        observedAt wall
      exact gated_frame s _ gated logs.1 logs.2 mono
  | wake read checkedAt queueAt executeAt enqueuedAt now observedAt wall =>
      simp only [perform] at mono ⊢
      split at mono
      · rename_i shut
        rw [if_pos shut]
        exact gated_frame s _ gated rfl rfl mono
      · rename_i passed
        rw [if_neg passed]
        apply gated_frame s _ gated _ _ mono
        · rw [(submit_logs _ _ _ _ _ _ _ _).1]
        · rw [(submit_logs _ _ _ _ _ _ _ _).2]
  | cancel read job now => exact gated_frame s _ gated rfl rfl mono
  | cancelBackoff read now => exact gated_frame s _ gated rfl rfl mono
  | startOperation job checkedAt now => exact gated_start_operation s job checkedAt now gated
  | finishBuild job ending handledAt wall now =>
      exact gated_finish_build s job ending handledAt wall now gated
  | joined failure now wall => exact gated_frame s _ gated rfl rfl mono
  | advance event => exact gated_frame s _ gated rfl rfl mono

theorem gated_reachable (settings : Settings) (policy : AdmissionPolicy) (clock : ℚ) (s : State V)
    (reachable : Reachable settings policy clock s) : Gated s :=
  System.reaches_invariant (gateway V settings) Set.univ Gated
    (fun a event _ gated _ => gated_perform settings a event gated) _ s reachable
    ⟨fun _ member => (List.not_mem_nil member).elim, fun _ member => (List.not_mem_nil member).elim⟩

theorem cooldown_blocks (s : State V) (job : Nat) (checkedAt now : ℚ)
    (shut : checkedAt < s.cooldownUntil) :
    (s.startOperation job checkedAt now).scheduler.operations job =
        .done (.error (rateLimitedRead (s.cooldownUntil - checkedAt))) now ∧
      (s.startOperation job checkedAt now).builds = s.builds := by
  have positive : 0 < s.cooldownUntil - checkedAt := by linarith
  simp only [State.startOperation, if_pos positive]
  exact ⟨by simp [State.act, Scheduler.scheduler, Scheduler.effect, Scheduler.State.setOperation], rfl⟩

theorem cooldown_gate (settings : Settings) (policy : AdmissionPolicy) (clock : ℚ) (s : State V)
    (reachable : Reachable settings policy clock s) :
    (∀ t, (gateway V settings).Reaches Set.univ s t → s.cooldownUntil ≤ t.cooldownUntil) ∧
    (∀ job failure handledAt wall now t,
      (gateway V settings).enabled s (.finishBuild job (.failure failure) handledAt wall now) →
      (classify failure.exception wall).cause = .rateLimited →
      (gateway V settings).Reaches Set.univ
        ((gateway V settings).perform s (.finishBuild job (.failure failure) handledAt wall now)) t →
      handledAt + max 1 (validRetryAfter (classify failure.exception wall).retryAfter) ≤
        t.cooldownUntil) ∧
    (∀ handled, handled ∈ s.handled →
      handled.handledAt + max 1 (validRetryAfter handled.retryAfter) ≤ s.cooldownUntil) ∧
    (∀ build, build ∈ s.builds → build.cooldownUntil ≤ build.startedAt) ∧
    ∀ job checkedAt now, checkedAt < s.cooldownUntil →
      (gateway V settings).enabled s (.startOperation job checkedAt now) →
      ((gateway V settings).perform s (.startOperation job checkedAt now)).scheduler.operations job =
          .done (.error (rateLimitedRead (s.cooldownUntil - checkedAt))) now ∧
        ((gateway V settings).perform s (.startOperation job checkedAt now)).builds = s.builds := by
  have gated := gated_reachable settings policy clock s reachable
  refine ⟨?_, ?_, gated.handled, gated.builds, ?_⟩
  · intro t reached
    exact cooldown_mono_reaches settings s t reached
  · intro job failure handledAt wall now t _ limited reached
    have raised : handledAt + max 1 (validRetryAfter (classify failure.exception wall).retryAfter) ≤
        ((gateway V settings).perform s
          (.finishBuild job (.failure failure) handledAt wall now)).cooldownUntil :=
      raise_cooldown_raises (recordHandled s failure.exception handledAt wall) failure handledAt wall limited
    exact le_trans raised (cooldown_mono_reaches settings _ t reached)
  · intro job checkedAt now shut _
    exact cooldown_blocks s job checkedAt now shut

def sampleSettings : Settings := ⟨3, fun _ => 5⟩

def sampleMessages : Messages := ⟨"timed out", "unavailable", "invalid data"⟩

def sample429 : ReadFailure := .provider ⟨⟨.other, some ⟨.rateLimited, some 30⟩, none⟩, []⟩

-- The second read is queued when the 429 of the first comes in, and gets the
-- slot while the cooldown lasts.
def sampleEvents : List (Event Nat) :=
  [.begin "spot" .protected sampleMessages 0 0 0 0 0 0,
    .begin "quotes" .background sampleMessages 0 0 0 0 0 0,
    .advance (.startLifecycle 0 0 0), .startOperation 0 0 0,
    .finishBuild 0 (.failure sample429) 1 0 1, .advance (.wakeLifecycle 0 1),
    .resume 0 0 .first 1 1 0, .advance (.startLifecycle 1 1 1)]

def sampleState : State Nat :=
  (gateway Nat sampleSettings).performAll (initial Scheduler.samplePolicy 0) sampleEvents

theorem sample_reachable : Reachable sampleSettings Scheduler.samplePolicy 0 sampleState :=
  System.reaches_perform_all _ Set.univ _ sampleEvents (fun _ _ => trivial) (by decide +kernel)

theorem cooldown_gate_sample :
    sampleState.cooldownUntil = 31 ∧
      ((gateway Nat sampleSettings).perform sampleState (.startOperation 1 1 1)).builds =
        sampleState.builds := by
  have gate := cooldown_gate sampleSettings Scheduler.samplePolicy 0 sampleState sample_reachable
  refine ⟨by decide +kernel, ?_⟩
  exact (gate.2.2.2.2 1 1 1 (by decide +kernel) (by decide +kernel)).2

end SchwabGateway.Reads
