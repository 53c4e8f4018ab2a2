import SchwabGateway.Reads.Drift

set_option autoImplicit false

namespace SchwabGateway.Reads

open SchwabGateway.Library

variable {V : Type}

-- The metadata an exception of the provider can carry: SchwabClientOperationError
-- copies it from what classify made of the failure it replaces.
inductive Copied : FailureMetadata → Prop where
  | classified (failure : Failure) (wall : ℚ)
      (links : ∀ raised ∈ failure.head :: failure.causes, ∀ metadata, raised.metadata = some metadata →
        Copied metadata) :
      Copied (classify failure wall)

def Genuine (failure : ReadFailure) : Prop :=
  ∀ error, failure = .provider error →
    ∀ raised ∈ error.head :: error.causes, ∀ metadata, raised.metadata = some metadata → Copied metadata

def GenuineEvent : Event V → Prop
  | .finishBuild _ (.failure failure) _ _ _ => Genuine failure
  | .joined failure _ _ => Genuine failure
  | _ => True

def genuineEvents : Set (Event V) := {event | GenuineEvent event}

section Bounds

def Bounded (metadata : FailureMetadata) : Prop :=
  ∀ seconds, metadata.retryAfter = some seconds → 0 ≤ seconds ∧ seconds ≤ 60

def BoundedFailure (failure : Failure) : Prop :=
  ∀ raised ∈ failure.head :: failure.causes, ∀ metadata, raised.metadata = some metadata → Bounded metadata

theorem metadata_of_bounded (raised : Raised) (wall : ℚ) (metadata : FailureMetadata)
    (own : ∀ metadata, raised.metadata = some metadata → Bounded metadata)
    (found : raised.metadataOf wall = some metadata) : Bounded metadata := by
  obtain ⟨exceptionClass, carried, http⟩ := raised
  cases carried with
  | some other =>
      cases found
      exact own metadata rfl
  | none =>
      cases http with
      | none => cases found
      | some error =>
          cases error with
          | connectTimeout =>
              cases found
              exact nofun
          | status code header =>
              by_cases limited : code = 429
              · subst limited
                cases found
                intro seconds valid
                exact retry_after_bound header wall seconds valid
              · have nothing : (Raised.mk exceptionClass none (some (.status code header))).metadataOf wall = none := by
                  unfold Raised.metadataOf
                  split <;> simp_all
                rw [nothing] at found
                cases found

theorem classify_bounded (failure : Failure) (wall : ℚ) (bounded : BoundedFailure failure) :
    Bounded (classify failure wall) := by
  rw [classify]
  cases found : ((failure.head :: failure.causes).take 8).findSome? (·.metadataOf wall) with
  | none => exact nofun
  | some metadata =>
      obtain ⟨raised, member, here⟩ := List.exists_of_findSome?_eq_some found
      exact metadata_of_bounded raised wall metadata (bounded raised (List.mem_of_mem_take member)) here

theorem copied_bounded (metadata : FailureMetadata) (copied : Copied metadata) : Bounded metadata := by
  induction copied with
  | classified failure wall _ ih => exact classify_bounded failure wall ih

theorem genuine_bounded (failure : ReadFailure) (genuine : Genuine failure) : BoundedFailure failure.exception := by
  intro raised member metadata carried
  cases failure with
  | provider error =>
      rcases List.mem_cons.mp member with rfl | later
      · cases carried
      · exact copied_bounded metadata (genuine error rfl raised later metadata carried)
  | unconfigured | valueError | unexpected =>
      rcases List.mem_cons.mp member with rfl | later
      · cases carried
      · cases later
  | malformed =>
      rcases List.mem_cons.mp member with rfl | later
      · cases carried
      · rw [List.mem_singleton.mp later] at carried
        cases carried

theorem local_bounded (seconds : ℚ) (positive : 0 < seconds) : BoundedFailure (rateLimitedRead seconds) := by
  intro raised member metadata carried
  rw [List.mem_singleton.mp member] at carried
  cases carried
  intro value same
  cases same
  exact ⟨le_min (by norm_num) positive.le, min_le_left _ _⟩

theorem backoff_delay_bounds (retryAfter : Option ℚ) (bounded : ∀ seconds, retryAfter = some seconds → seconds ≤ 60) :
    1 ≤ backoffDelay retryAfter ∧ backoffDelay retryAfter ≤ 60 := by
  cases retryAfter with
  | none => exact ⟨le_refl 1, by norm_num [backoffDelay]⟩
  | some seconds =>
      rw [backoffDelay]
      by_cases zero : seconds = 0
      · rw [if_pos zero]
        norm_num
      · rw [if_neg zero]
        exact ⟨le_max_left 1 seconds, max_le (by norm_num) (bounded seconds rfl)⟩

theorem ceil_within (delay : ℚ) (positive : 0 < delay) (high : delay ≤ 60) :
    1 ≤ delay.ceil ∧ delay.ceil ≤ 60 :=
  ⟨Rat.lt_ceil_iff.mpr (by exact_mod_cast positive), Rat.ceil_le_iff.mpr (by exact_mod_cast high)⟩

end Bounds

def Response.retryAfter : Response V → Option Int
  | .error _ _ _ retryAfter => retryAfter
  | _ => none

def InRange (response : Response V) : Prop := ∀ n, response.retryAfter = some n → 1 ≤ n ∧ n ≤ 60

theorem unannounced_in_range (response : Response V) (unannounced : response.retryAfter = none) : InRange response := by
  intro n carried
  cases unannounced.symm.trans carried

section Responses

variable (cooldownUntil : ℚ) (failure : Failure) (message : String) (now wall : ℚ)

theorem failure_response_in_range (bounded : BoundedFailure failure) :
    InRange (failureResponse cooldownUntil failure message now wall : ℚ × Response V).2 := by
  have valid := classify_bounded failure wall bounded
  obtain ⟨low, high⟩ := backoff_delay_bounds (classify failure wall).retryAfter (fun seconds same => (valid seconds same).2)
  simp only [failureResponse]
  cases (classify failure wall).cause with
  | rateLimited =>
      intro n carried
      obtain ⟨seconds, _, same⟩ := Option.map_eq_some_iff.mp carried
      rw [← same]
      exact ceil_within _ (by linarith) high
  | connectTimeout | schedulerTimeout | other => exact unannounced_in_range _ rfl

theorem failure_response_ahead (bounded : BoundedFailure failure) (clock : ℚ) (later : now ≤ clock)
    (ahead : cooldownUntil ≤ clock + 60) :
    (failureResponse cooldownUntil failure message now wall : ℚ × Response V).1 ≤ clock + 60 := by
  have valid := classify_bounded failure wall bounded
  obtain ⟨_, high⟩ := backoff_delay_bounds (classify failure wall).retryAfter (fun seconds same => (valid seconds same).2)
  simp only [failureResponse]
  cases (classify failure wall).cause with
  | rateLimited => exact max_le ahead (by linarith)
  | connectTimeout | schedulerTimeout | other => exact ahead

theorem local_response (seconds : ℚ) (positive : 0 < seconds) (high : seconds ≤ 60) :
    ∃ n, (failureResponse cooldownUntil (rateLimitedRead seconds) message now wall : ℚ × Response V).2 =
      rateLimitedResponse message (some n) ∧ seconds ≤ n := by
  have delay : seconds ≤ backoffDelay (some (min 60 seconds)) := by
    rw [min_eq_right high, backoffDelay, if_neg positive.ne']
    exact le_max_right 1 seconds
  exact ⟨_, rfl, delay.trans Rat.le_ceil⟩

end Responses

section Settling

variable (cooldownUntil : ℚ) (read : Read V) (attempt : Attempt) (now wall : ℚ)

def Punctual (read : Read V) : Prop := ∀ response, read.stage = .answered response → InRange response

def BoundedOutcome (outcome : Scheduler.Outcome V Failure) : Prop :=
  ∀ failure, outcome = .raised (.operation failure) → BoundedFailure failure

theorem answer_punctual (read : Read V) (response : Response V) (rejected admitted : Bool)
    (range : InRange response) : Punctual (read.finish (.answered response) rejected admitted) := by
  intro other same
  cases same
  exact range

theorem unanswered_punctual (read : Read V) (unanswered : ∀ response, read.stage ≠ .answered response) :
    Punctual read := fun response same => absurd same (unanswered response)

theorem settle_unavailable_timely (failure : Failure) (bounded : BoundedFailure failure) (clock : ℚ)
    (later : now ≤ clock) (ahead : cooldownUntil ≤ clock + 60) :
    (settleUnavailable cooldownUntil read attempt failure now wall).cooldownUntil ≤ clock + 60 ∧
      Punctual (settleUnavailable cooldownUntil read attempt failure now wall).read := by
  rw [settleUnavailable]
  cases (classify failure wall).cause with
  | rateLimited =>
      exact ⟨failure_response_ahead cooldownUntil failure _ now wall bounded clock later ahead,
        answer_punctual read _ _ _ (failure_response_in_range cooldownUntil failure _ now wall bounded)⟩
  | connectTimeout =>
      dsimp only
      by_cases again : mayRetry read attempt now
      · rw [if_pos again]
        exact ⟨ahead, unanswered_punctual _ fun _ same => by cases same⟩
      · rw [if_neg again]
        exact ⟨ahead, answer_punctual read _ _ _ (unannounced_in_range _ rfl)⟩
  | schedulerTimeout | other => exact ⟨ahead, answer_punctual read _ _ _ (unannounced_in_range _ rfl)⟩

theorem settle_timely (outcome : Scheduler.Outcome V Failure) (bounded : BoundedOutcome outcome) (clock : ℚ)
    (later : now ≤ clock) (ahead : cooldownUntil ≤ clock + 60) :
    (settle cooldownUntil read attempt outcome now wall).cooldownUntil ≤ clock + 60 ∧
      Punctual (settle cooldownUntil read attempt outcome now wall).read := by
  cases outcome with
  | returned value => exact ⟨ahead, answer_punctual read _ _ _ (unannounced_in_range _ rfl)⟩
  | raised error =>
      cases error with
      | valueError message | capacity message | queueTimeout message | upstreamTimeout message =>
          exact ⟨ahead, answer_punctual read _ _ _ (unannounced_in_range _ rfl)⟩
      | cancelled => exact ⟨ahead, unanswered_punctual _ fun _ same => by cases same⟩
      | operation failure =>
          simp only [settle]
          cases failure.head.exceptionClass with
          | upstreamUnavailable =>
              exact settle_unavailable_timely cooldownUntil read attempt now wall failure (bounded failure rfl)
                clock later ahead
          | upstreamMalformed | valueError | other => exact ⟨ahead, answer_punctual read _ _ _ (unannounced_in_range _ rfl)⟩

end Settling

-- The gate is never shut for more than a minute ahead, and everything that
-- failed or was answered keeps to that minute.
structure Timely (s : State V) : Prop where
  ahead : s.cooldownUntil ≤ s.scheduler.clock + 60
  failures : ∀ job failure completedAt, s.scheduler.operations job = .done (.error failure) completedAt →
    BoundedFailure failure
  answered : ∀ id, Punctual (s.reads id)

section Steps

variable (s t : State V) (timely : Timely s)

include timely

theorem failures_frame (operations : ∀ job, t.scheduler.operations job = s.scheduler.operations job ∨
      t.scheduler.operations job = .created) (job : Nat) (failure : Failure) (completedAt : ℚ)
    (done : t.scheduler.operations job = .done (.error failure) completedAt) : BoundedFailure failure := by
  rcases operations job with same | created
  · exact timely.failures job failure completedAt (same.symm.trans done)
  · cases created.symm.trans done

theorem failures_write (job : Nat) (operation : Scheduler.Operation V Failure)
    (written : t.scheduler.operations = Function.update s.scheduler.operations job operation)
    (own : ∀ failure completedAt, operation = .done (.error failure) completedAt → BoundedFailure failure)
    (other : Nat) (failure : Failure) (completedAt : ℚ)
    (done : t.scheduler.operations other = .done (.error failure) completedAt) : BoundedFailure failure := by
  rw [written] at done
  by_cases same : other = job
  · rw [same, Function.update_self] at done
    exact own failure completedAt done
  · rw [Function.update_of_ne same] at done
    exact timely.failures other failure completedAt done

theorem answered_write (id : Nat) (read : Read V) (own : Punctual read) (other : Nat) :
    Punctual (Function.update s.reads id read other) := by
  by_cases same : other = id
  · rw [same, Function.update_self]
    exact own
  · rw [Function.update_of_ne same]
    exact timely.answered other

theorem timely_act (event : Scheduler.Event V Failure) (apart : event.touchesOperation = false)
    (later : s.scheduler.clock ≤ ((Scheduler.scheduler V Failure).perform s.scheduler event).clock) :
    Timely (s.act event) where
  ahead := le_trans timely.ahead (add_le_add_left later 60)
  failures := failures_frame s _ timely (Scheduler.operations_frame s.scheduler event apart)
  answered := timely.answered

theorem timely_read (id : Nat) (read : Read V) (own : Punctual read) : Timely (s.setRead id read) where
  ahead := timely.ahead
  failures := timely.failures
  answered := answered_write s timely id read own

theorem timely_tick (now : ℚ) (later : s.scheduler.clock ≤ now) : Timely (s.tick now) :=
  timely_act s timely (.tick now) rfl later

theorem ended_bounded (invariant : Scheduler.Invariant s.scheduler) (job : Nat)
    (outcome : Scheduler.Outcome V Failure) (ended : s.scheduler.callers job = .ended outcome) :
    BoundedOutcome outcome := by
  rintro failure rfl
  have owed := Scheduler.consistent_owed _ _ (invariant.consistent job) _ ended
  obtain ⟨_, _, _, completedAt, _, done, _⟩ := owed
  exact timely.failures job failure completedAt done

theorem timely_proceed (invariant : Scheduler.Invariant s.scheduler) (id job : Nat) (attempt : Attempt)
    (observedAt wall : ℚ) (observed : observedAt ≤ s.scheduler.clock) :
    Timely (s.proceed id job attempt observedAt wall) := by
  rw [State.proceed]
  cases ended : s.scheduler.callers job with
  | ended outcome =>
      have bounded := ended_bounded s timely invariant job outcome ended
      obtain ⟨ahead, punctual⟩ := settle_timely s.cooldownUntil (s.reads id) attempt observedAt wall outcome
        bounded s.scheduler.clock observed timely.ahead
      exact ⟨ahead, timely.failures, answered_write s timely id _ punctual⟩
  | absent | waitingStarted _ _ | waitingResult _ => exact timely

theorem remaining_bounds (checkedAt : ℚ) (checked : s.scheduler.clock ≤ checkedAt) :
    s.cooldownUntil - checkedAt ≤ 60 := by
  linarith [timely.ahead]

theorem refused_in_range (message : String) (checkedAt : ℚ) (checked : s.scheduler.clock ≤ checkedAt)
    (shut : 0 < s.cooldownUntil - checkedAt) :
    InRange (rateLimitedResponse message (some (s.cooldownUntil - checkedAt).ceil) : Response V) := by
  intro n same
  cases same
  exact ceil_within _ shut (remaining_bounds s timely checkedAt checked)

theorem timely_refuse (id : Nat) (attempt : Attempt) (checkedAt now : ℚ)
    (checked : s.scheduler.clock ≤ checkedAt) (later : checkedAt ≤ now)
    (shut : 0 < s.cooldownUntil - checkedAt) : Timely (s.refuse id attempt checkedAt now) := by
  have range := refused_in_range s timely (s.reads id).messages.unavailable checkedAt checked shut
  exact timely_tick _ (timely_read s timely id _ (answer_punctual _ _ _ _ range)) now (checked.trans later)

theorem timely_submitted (invariant : Scheduler.Invariant s.scheduler) (id : Nat) (attempt : Attempt)
    (args : Scheduler.Arguments) (enqueuedAt now observedAt : ℚ) (early : s.scheduler.clock ≤ enqueuedAt)
    (between : enqueuedAt ≤ now) (late : now ≤ observedAt) :
    Timely (s.submitted id attempt args enqueuedAt now observedAt) := by
  have executing : Punctual ((s.reads id).withJob attempt s.scheduler.next) := by
    cases attempt with
    | first => exact unanswered_punctual _ nofun
    | second => exact unanswered_punctual _ nofun
  have owned : Timely { s with owner := Function.update s.owner s.scheduler.next id } :=
    ⟨timely.ahead, timely.failures, timely.answered⟩
  have waiting := timely_read _ owned id _ executing
  have clock := event_clock s.scheduler (.execute args enqueuedAt now) invariant rfl
    ⟨early.trans between, early, between⟩
  have acted := timely_act _ waiting (.execute args enqueuedAt now) rfl (clock.symm ▸ early.trans between)
  exact timely_tick _ acted observedAt (clock.trans_le late)

theorem timely_submit (invariant : Scheduler.Invariant s.scheduler) (id : Nat) (attempt : Attempt)
    (args : Scheduler.Arguments) (enqueuedAt now observedAt wall : ℚ) (early : s.scheduler.clock ≤ enqueuedAt)
    (between : enqueuedAt ≤ now) (late : now ≤ observedAt) :
    Timely (s.submit id attempt args enqueuedAt now observedAt wall) :=
  timely_proceed _ (timely_submitted s timely invariant id attempt args enqueuedAt now observedAt early between late)
    (runs_invariant _ _ invariant
      (runs_submitted s id attempt args enqueuedAt now observedAt invariant early between late))
    id s.scheduler.next attempt observedAt wall (le_refl observedAt)

theorem timely_start_operation (job : Nat) (checkedAt now : ℚ) (checked : s.scheduler.clock ≤ checkedAt)
    (later : checkedAt ≤ now) : Timely (s.startOperation job checkedAt now) := by
  have ahead := timely.ahead
  rw [State.startOperation]
  dsimp only
  by_cases shut : 0 < s.cooldownUntil - checkedAt
  · rw [if_pos shut]
    generalize left : s.cooldownUntil - checkedAt = seconds at shut
    refine ⟨?_, ?_, timely.answered⟩
    · change s.cooldownUntil ≤ now + 60
      linarith
    · apply failures_write s _ timely job (.done (.error (rateLimitedRead seconds)) now)
      · exact Function.update_idem _ _ _
      · intro failure completedAt same
        cases same
        exact local_bounded seconds shut
  · rw [if_neg shut]
    refine ⟨?_, ?_, timely.answered⟩
    · change s.cooldownUntil ≤ now + 60
      linarith
    · apply failures_write s _ timely job .running
      · rfl
      · intro failure completedAt same
        cases same

theorem timely_finish_build (job : Nat) (ending : BuildEnding V) (handledAt wall now : ℚ)
    (genuine : ∀ failure, ending = .failure failure → Genuine failure) (handled : s.scheduler.clock ≤ handledAt)
    (later : handledAt ≤ now) : Timely (s.finishBuild job ending handledAt wall now) := by
  have ahead : s.cooldownUntil ≤ now + 60 := by linarith [timely.ahead]
  have operations : (s.finishBuild job ending handledAt wall now).scheduler.operations =
      Function.update s.scheduler.operations job (.done ending.ending now) := by
    rw [finish_build_scheduler]
    rfl
  have clock : (s.finishBuild job ending handledAt wall now).scheduler.clock = now := by
    rw [finish_build_scheduler]
    rfl
  refine ⟨?_, ?_, ?_⟩
  · rw [clock]
    cases ending with
    | value result => exact ahead
    | cancelled => exact ahead
    | failure failure =>
        have bounded := genuine_bounded failure (genuine failure rfl)
        change (raiseCooldown (recordHandled s failure.exception handledAt wall) failure.exception handledAt
          wall).cooldownUntil ≤ now + 60
        rw [raiseCooldown]
        by_cases raised : failure.exception.head.exceptionClass = .upstreamUnavailable ∧
            (classify failure.exception wall).cause = .rateLimited
        · rw [if_pos raised]
          apply failure_response_ahead _ _ _ handledAt wall bounded now later
          rw [record_handled_cooldown]
          exact ahead
        · rw [if_neg raised, record_handled_cooldown]
          exact ahead
  · apply failures_write s _ timely job _ operations
    intro failure completedAt same
    cases ending with
    | value result => cases same
    | cancelled => cases same
    | failure error =>
        cases same
        exact genuine_bounded error (genuine error rfl)
  · rw [(finish_build_frame s job ending handledAt wall now).1]
    exact timely.answered

end Steps

theorem of_scheduler_apart (event : Scheduler.Event V Failure) (internal : ofScheduler event = true) :
    event.touchesOperation = false := by
  cases event <;> first | rfl | cases internal

theorem timely_perform (settings : Settings) (s : State V) (event : Event V)
    (invariant : Scheduler.Invariant s.scheduler) (timely : Timely s) (genuine : GenuineEvent event)
    (guard : enabled s event) : Timely (perform settings s event) := by
  cases event with
  | begin operationName priority messages startedAt checkedAt enqueuedAt now observedAt wall =>
      obtain ⟨first, second, third, fourth, fifth⟩ := guard
      have arrived : Timely (s.arrive settings operationName priority messages startedAt) :=
        ⟨timely.ahead, timely.failures, answered_write s timely s.next _ (unanswered_punctual _ fun _ same => by cases same)⟩
      rw [perform]
      by_cases shut : 0 < (s.arrive settings operationName priority messages startedAt).cooldownUntil - checkedAt
      · rw [if_pos shut]
        exact timely_refuse _ arrived s.next .first checkedAt observedAt (first.trans second)
          (third.trans (fourth.trans fifth)) shut
      · rw [if_neg shut]
        exact timely_submit _ arrived invariant s.next .first _ enqueuedAt now observedAt wall
          (first.trans (second.trans third)) fourth fifth
  | resume read job attempt now observedAt wall =>
      obtain ⟨_, resumed, late⟩ := guard
      have clock := event_clock s.scheduler (.resumeCaller job now) invariant rfl resumed
      have acted : Timely (s.act (.resumeCaller job now)) :=
        timely_act s timely (.resumeCaller job now) rfl (clock.symm ▸ resumed.1)
      exact timely_proceed _ (timely_tick _ acted observedAt (clock.trans_le late))
        (runs_invariant _ _ invariant (runs_event_tick s.scheduler _ observedAt invariant rfl resumed late))
        read job attempt observedAt wall (le_refl observedAt)
  | wake read checkedAt queueAt executeAt enqueuedAt now observedAt wall =>
      obtain ⟨_, first, second, third, fourth, fifth, sixth⟩ := guard
      rw [perform]
      by_cases shut : 0 < s.cooldownUntil - checkedAt
      · rw [if_pos shut]
        exact timely_refuse s timely read .second checkedAt observedAt first
          (second.trans (third.trans (fourth.trans (fifth.trans sixth)))) shut
      · rw [if_neg shut]
        exact timely_submit s timely invariant read .second _ enqueuedAt now observedAt wall
          (first.trans (second.trans (third.trans fourth))) fifth sixth
  | cancel read job now =>
      exact timely_act s timely (.cancelCaller job now) rfl guard.2.1
  | cancelBackoff read now =>
      have cancelled : Punctual ((s.reads read).finish .cancelled false true) :=
        unanswered_punctual _ fun _ same => by cases same
      exact timely_tick _ (timely_read s timely read _ cancelled) now guard.2
  | startOperation job checkedAt now =>
      exact timely_start_operation s timely job checkedAt now guard.1.1 guard.2
  | finishBuild job ending handledAt wall now =>
      apply timely_finish_build s timely job ending handledAt wall now _ guard.2.1 guard.2.2
      rintro failure rfl
      exact genuine
  | joined failure now wall =>
      have ticked := timely_tick s timely now guard
      refine ⟨?_, ticked.failures, ticked.answered⟩
      exact failure_response_ahead _ _ _ now wall (genuine_bounded failure genuine) now (le_refl now) ticked.ahead
  | advance event =>
      have clock := event_clock s.scheduler event invariant (of_scheduler_calm event guard.1) guard.2
      exact timely_act s timely event (of_scheduler_apart event guard.1) (clock.symm ▸ guard.2.1)

theorem timely_initial (policy : AdmissionPolicy) (clock : ℚ) (started : 0 ≤ clock) :
    Timely (initial policy clock : State V) where
  ahead := by
    change (0 : ℚ) ≤ clock + 60
    linarith
  failures := by
    intro job failure completedAt done
    cases done
  answered := by
    intro id response answered
    cases answered

-- Runs in which the provider fails as it can.
def GenuinelyReachable (settings : Settings) (policy : AdmissionPolicy) (clock : ℚ) (s : State V) : Prop :=
  (gateway V settings).Reaches genuineEvents (initial policy clock) s

theorem timely_reachable (settings : Settings) (policy : AdmissionPolicy) (clock : ℚ) (started : 0 ≤ clock)
    (s : State V) (reachable : GenuinelyReachable settings policy clock s) :
    Scheduler.Invariant s.scheduler ∧ Timely s := by
  apply System.reaches_invariant (gateway V settings) genuineEvents
    (fun a => Scheduler.Invariant a.scheduler ∧ Timely a) _ _ s reachable
  · exact ⟨Scheduler.invariant_initial policy clock, timely_initial policy clock started⟩
  · intro a event genuine held guard
    exact ⟨scheduler_invariant_step settings a event held.1 guard,
      timely_perform settings a event held.1 held.2 genuine guard⟩

end SchwabGateway.Reads
