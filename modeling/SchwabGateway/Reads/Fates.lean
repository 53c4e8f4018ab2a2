import SchwabGateway.Reads.AdmissionOutcome
import SchwabGateway.Reads.Announcement

set_option autoImplicit false

namespace SchwabGateway.Reads

open SchwabGateway.Library

variable {V : Type}

-- What became of the last thing a read asked for: the cooldown, or the
-- scheduler.
inductive Fate (V : Type) where
  | refused
  | capacity
  | invalid
  | expired
  | overran
  | returned (value : V)
  | failed (failure : Failure)

def GatewayError.kind : GatewayError → GatewayError
  | .rateLimit _ => .rateLimit none
  | error => error

def failureError (failure : Failure) : GatewayError :=
  match failure.head.exceptionClass with
  | .upstreamUnavailable =>
      match (classify failure 0).cause with
      | .rateLimited => .rateLimit none
      | .connectTimeout => .connectionTimeout
      | _ => .unavailable
  | .upstreamMalformed => .unavailable
  | .valueError => .unavailable
  | .other => .response 500

def Fate.error : Fate V → Option GatewayError
  | .refused => some (.rateLimit none)
  | .capacity => some .capacity
  | .invalid => some .unavailable
  | .expired => some .queueTimeout
  | .overran => some .timeout
  | .returned _ => none
  | .failed failure => some (failureError failure)

def Fate.idle : Fate V → Bool
  | .overran => false
  | .returned _ => false
  | .failed _ => false
  | _ => true

def Fate.admitted : Fate V → Bool
  | .refused => false
  | .capacity => false
  | .invalid => false
  | _ => true

def LastCall (read : Read V) (job : Nat) : Prop :=
  read.second = some job ∨ (read.second = none ∧ read.first = some job ∧ read.retry = none)

def Stopped (read : Read V) : Prop := read.second = none ∧ (read.first = none ∨ read.retry ≠ none)

def CallFate (scheduler : Scheduler.State V Failure) (job : Nat) : Fate V → Prop
  | .refused => False
  | .capacity => ¬ scheduler.admitted job ∧
      ∃ message, scheduler.callers job = .ended (.raised (.capacity message))
  | .invalid => ¬ scheduler.admitted job ∧
      ∃ message, scheduler.callers job = .ended (.raised (.valueError message))
  | .expired => (Scheduler.view scheduler job).ExpiredInQueue
  | .overran => (Scheduler.view scheduler job).OverBudget scheduler.clock
  | .returned value => (Scheduler.view scheduler job).FinishedInBudget (.value value)
  | .failed failure => (Scheduler.view scheduler job).FinishedInBudget (.error failure)

inductive Met (scheduler : Scheduler.State V Failure) (read : Read V) : Fate V → Prop where
  | stopped (stopped : Stopped read) : Met scheduler read .refused
  | called (job : Nat) (fate : Fate V) (last : LastCall read job) (fell : CallFate scheduler job fate) :
      Met scheduler read fate

def limitedResponse (message : String) (failure : Failure) (wall : ℚ) : Response V :=
  rateLimitedResponse message
    ((classify failure wall).retryAfter.map fun _ => (backoffDelay (classify failure wall).retryAfter).ceil)

structure Shows (response : Response V) (fate : Fate V) : Prop where
  error : (getTypedError response).map GatewayError.kind = fate.error
  value : ∀ value, response = .json value ↔ fate = .returned value
  limited : ∀ failure, fate = .failed failure → failureError failure = .rateLimit none →
    ∃ message wall, response = limitedResponse message failure wall

def outcomeFate : Scheduler.Outcome V Failure → Option (Fate V)
  | .returned value => some (.returned value)
  | .raised (.capacity _) => some .capacity
  | .raised (.valueError _) => some .invalid
  | .raised (.queueTimeout _) => some .expired
  | .raised (.upstreamTimeout _) => some .overran
  | .raised (.operation failure) => some (.failed failure)
  | .raised .cancelled => none

section Answers

theorem error_no_value (code message : String) (status : Nat) (retryAfter : Option Int) (fate : Fate V)
    (failed : fate.error ≠ none) (value : V) :
    (.error code message status retryAfter : Response V) = .json value ↔ fate = .returned value := by
  constructor
  · intro same
    cases same
  · intro same
    rw [same] at failed
    exact absurd rfl failed

theorem shows_error (code message : String) (status : Nat) (fate : Fate V) (error : GatewayError)
    (own : fate.error = some error) (unlimited : error ≠ .rateLimit none)
    (answers : (getTypedStatus status code "").map GatewayError.kind = some error) :
    Shows (.error code message status none) fate where
  error := own ▸ answers
  value := error_no_value _ _ _ _ fate (by rw [own]; exact fun same => by cases same)
  limited := by
    intro failure same limited
    rw [same, Fate.error, limited] at own
    exact absurd (Option.some.inj own).symm unlimited

theorem rate_limited_error (message : String) (retryAfter : Option Int) :
    (getTypedError (rateLimitedResponse message retryAfter : Response V)).map GatewayError.kind =
      some (.rateLimit none) := by
  simp [rateLimitedResponse, getTypedError, getTypedStatus, GatewayError.kind]

theorem shows_stopped (message : String) (n : Int) :
    Shows (rateLimitedResponse message (some n)) (.refused : Fate V) where
  error := rate_limited_error message (some n)
  value := error_no_value _ _ _ _ .refused (fun same => by cases same)
  limited := by
    intro failure same
    cases same

theorem shows_limited (message : String) (failure : Failure) (wall : ℚ)
    (limited : (Fate.failed failure : Fate V).error = some (.rateLimit none)) :
    Shows (limitedResponse message failure wall) (.failed failure : Fate V) where
  error := (rate_limited_error message _).trans limited.symm
  value := error_no_value _ _ _ _ _ (by rw [limited]; exact fun same => by cases same)
  limited := by
    intro other same _
    cases same
    exact ⟨message, wall, rfl⟩

inductive Settles (read settled : Read V) (fate : Option (Fate V)) : Prop where
  | answered (response : Response V) (told : Fate V) (own : fate = some told) (shown : Shows response told)
      (rejected admitted : Bool) (same : settled = read.finish (.answered response) rejected admitted)
  | cancelled (stage : settled.stage = .cancelled)
  | backoff (wakeAt : ℚ) (stage : settled.stage = .backoff wakeAt)

variable (cooldownUntil : ℚ) (read : Read V) (attempt : Attempt) (now wall : ℚ)

theorem settles_unavailable (failure : Failure) (unavailable : failure.head.exceptionClass = .upstreamUnavailable) :
    Settles read (settleUnavailable cooldownUntil read attempt failure now wall).read (some (.failed failure)) := by
  have error : (Fate.failed failure : Fate V).error =
      match (classify failure wall).cause with
      | .rateLimited => some (.rateLimit none)
      | .connectTimeout => some .connectionTimeout
      | _ => some .unavailable := by
    rw [Fate.error, failureError, unavailable, classify_cause failure wall 0]
    cases (classify failure 0).cause with
    | rateLimited | connectTimeout | schedulerTimeout | other => rfl
  have answers : (getTypedStatus 503 "upstream_unavailable" "").map GatewayError.kind = some .unavailable := by
    simp [getTypedStatus, GatewayError.kind]
  rw [settleUnavailable]
  cases cause : (classify failure wall).cause with
  | rateLimited =>
      rw [cause] at error
      dsimp only
      have response : (answerFailure cooldownUntil read failure now wall).read =
          read.finish (.answered (limitedResponse read.messages.unavailable failure wall)) false true := by
        rw [answerFailure, failureResponse, cause]
        rfl
      exact .answered _ _ rfl (shows_limited _ failure wall error) false true response
  | connectTimeout =>
      rw [cause] at error
      dsimp only
      by_cases may : mayRetry read attempt now
      · rw [if_pos may]
        exact .backoff _ rfl
      · rw [if_neg may]
        refine .answered _ _ rfl (shows_error _ _ _ _ _ error (by decide) ?_) false true rfl
        simp [getTypedStatus, GatewayError.kind]
  | schedulerTimeout =>
      rw [cause] at error
      exact .answered _ _ rfl (shows_error _ _ _ _ _ error (by decide) answers) false true rfl
  | other =>
      rw [cause] at error
      exact .answered _ _ rfl (shows_error _ _ _ _ _ error (by decide) answers) false true rfl

theorem shows_malformed (messages : Messages) (fate : Fate V) (error : fate.error = some .unavailable) :
    Shows (malformedResponse messages) fate :=
  shows_error _ _ _ fate _ error (by decide) (by simp [getTypedStatus, GatewayError.kind])

theorem settles (outcome : Scheduler.Outcome V Failure) :
    Settles read (settle cooldownUntil read attempt outcome now wall).read (outcomeFate outcome) := by
  cases outcome with
  | returned value =>
      refine .answered (.json value) (.returned value) rfl ⟨rfl, ?_, ?_⟩ false true rfl
      · intro other
        rw [Response.json.injEq, Fate.returned.injEq]
      · intro failure same
        cases same
  | raised error =>
      cases error with
      | valueError message => exact .answered _ _ rfl (shows_malformed _ _ rfl) false true rfl
      | capacity message =>
          refine .answered _ _ rfl (shows_error _ _ _ _ .capacity rfl (by decide) ?_) true _ rfl
          simp [getTypedStatus, GatewayError.kind]
      | queueTimeout message =>
          refine .answered _ _ rfl (shows_error _ _ _ _ .queueTimeout rfl (by decide) ?_) false true rfl
          simp [getTypedStatus, GatewayError.kind]
      | upstreamTimeout message =>
          refine .answered _ _ rfl (shows_error _ _ _ _ .timeout rfl (by decide) ?_) false true rfl
          simp [getTypedStatus, GatewayError.kind]
      | cancelled => exact .cancelled rfl
      | operation failure =>
          have error : (Fate.failed failure : Fate V).error = some (failureError failure) := rfl
          rw [settle, outcomeFate]
          cases class_ : failure.head.exceptionClass with
          | upstreamUnavailable => exact settles_unavailable cooldownUntil read attempt now wall failure class_
          | upstreamMalformed =>
              rw [failureError, class_] at error
              exact .answered _ _ rfl (shows_malformed _ _ error) false true rfl
          | valueError =>
              rw [failureError, class_] at error
              exact .answered _ _ rfl (shows_malformed _ _ error) false true rfl
          | other =>
              rw [failureError, class_] at error
              refine .answered .serverError _ rfl ⟨error.symm, ?_, ?_⟩ false _ rfl
              · intro value
                constructor
                · intro same
                  cases same
                · intro same
                  cases same
              · intro again same limited
                cases same
                rw [failureError, class_] at limited
                cases limited

end Answers

section Calls

variable (scheduler : Scheduler.State V Failure) (invariant : Scheduler.Invariant scheduler)

include invariant

theorem outcome_call_fate (job : Nat) (outcome : Scheduler.Outcome V Failure) (fate : Fate V)
    (ended : scheduler.callers job = .ended outcome) (told : outcomeFate outcome = some fate) :
    CallFate scheduler job fate := by
  have owed := Scheduler.consistent_owed scheduler.clock (Scheduler.view scheduler job) (invariant.consistent job)
    outcome ended
  cases outcome with
  | returned value =>
      cases told
      exact owed
  | raised error =>
      cases error with
      | valueError message =>
          cases told
          exact ⟨not_not.mpr owed, message, ended⟩
      | capacity message =>
          cases told
          exact ⟨not_not.mpr owed, message, ended⟩
      | queueTimeout message =>
          cases told
          exact owed.2
      | upstreamTimeout message =>
          cases told
          exact owed.2
      | operation failure =>
          cases told
          exact owed
      | cancelled => cases told

theorem call_fate_admitted (job : Nat) (fate : Fate V) (fell : CallFate scheduler job fate) :
    scheduler.admitted job ↔ fate.admitted = true := by
  have dispatched := Scheduler.dispatched_admitted scheduler.clock (Scheduler.view scheduler job)
    (invariant.consistent job).stage
  cases fate with
  | refused => cases fell
  | capacity => exact ⟨fun admitted => absurd admitted fell.1, fun same => by cases same⟩
  | invalid => exact ⟨fun admitted => absurd admitted fell.1, fun same => by cases same⟩
  | expired => exact ⟨fun _ => rfl, fun _ => fell.1⟩
  | overran => exact ⟨fun _ => rfl, fun _ => dispatched fell.1⟩
  | returned value => exact ⟨fun _ => rfl, fun _ => dispatched fell.1⟩
  | failed failure => exact ⟨fun _ => rfl, fun _ => dispatched fell.1⟩

theorem call_fate_dispatched (job : Nat) (fate : Fate V) (fell : CallFate scheduler job fate) :
    (scheduler.ledger job).dispatchedAt ≠ none ↔ fate.idle = false := by
  have dispatched := Scheduler.dispatched_admitted scheduler.clock (Scheduler.view scheduler job)
    (invariant.consistent job).stage
  cases fate with
  | refused => cases fell
  | capacity => exact ⟨fun started => absurd (dispatched started) fell.1, fun same => by cases same⟩
  | invalid => exact ⟨fun started => absurd (dispatched started) fell.1, fun same => by cases same⟩
  | expired => exact ⟨fun started => absurd fell.2.2 started, fun same => by cases same⟩
  | overran => exact ⟨fun _ => rfl, fun _ => fell.1⟩
  | returned value => exact ⟨fun _ => rfl, fun _ => fell.1⟩
  | failed failure => exact ⟨fun _ => rfl, fun _ => fell.1⟩

theorem call_fate_unique (job : Nat) (fate other : Fate V) (fell : CallFate scheduler job fate)
    (also : CallFate scheduler job other) : other = fate := by
  have admitted := (call_fate_admitted scheduler invariant job fate fell).symm.trans
    (call_fate_admitted scheduler invariant job other also)
  have dispatched := (call_fate_dispatched scheduler invariant job fate fell).symm.trans
    (call_fate_dispatched scheduler invariant job other also)
  have disjoint := Scheduler.finished_not_over scheduler.clock (Scheduler.view scheduler job)
  have unique := Scheduler.finished_unique (Scheduler.view scheduler job)
  cases fate with
  | refused => cases fell
  | capacity =>
      cases other with
      | refused => cases also
      | capacity => rfl
      | invalid =>
          obtain ⟨_, _, first⟩ := fell
          obtain ⟨_, _, second⟩ := also
          cases first.symm.trans second
      | expired | overran | returned | failed => cases admitted.mpr rfl
  | invalid =>
      cases other with
      | refused => cases also
      | capacity =>
          obtain ⟨_, _, first⟩ := fell
          obtain ⟨_, _, second⟩ := also
          cases first.symm.trans second
      | invalid => rfl
      | expired | overran | returned | failed => cases admitted.mpr rfl
  | expired =>
      cases other with
      | refused => cases also
      | expired => rfl
      | capacity | invalid => cases admitted.mp rfl
      | overran | returned | failed => cases dispatched.mpr rfl
  | overran =>
      cases other with
      | refused => cases also
      | overran => rfl
      | returned value => exact absurd fell (disjoint _ also)
      | failed failure => exact absurd fell (disjoint _ also)
      | capacity | invalid | expired => cases dispatched.mp rfl
  | returned value =>
      cases other with
      | refused => cases also
      | overran => exact absurd also (disjoint _ fell)
      | returned value =>
          cases unique _ _ fell also
          rfl
      | failed failure => cases unique _ _ fell also
      | capacity | invalid | expired => cases dispatched.mp rfl
  | failed failure =>
      cases other with
      | refused => cases also
      | overran => exact absurd also (disjoint _ fell)
      | returned value => cases unique _ _ fell also
      | failed failure =>
          cases unique _ _ fell also
          rfl
      | capacity | invalid | expired => cases dispatched.mp rfl

omit invariant in
theorem last_call_unique (read : Read V) (job other : Nat) (last : LastCall read job) (also : LastCall read other) :
    other = job := by
  rcases last with second | ⟨none, first, _⟩
  · rcases also with again | ⟨none, _, _⟩
    · exact Option.some.inj (again.symm.trans second)
    · cases none.symm.trans second
  · rcases also with second | ⟨_, again, _⟩
    · cases none.symm.trans second
    · exact Option.some.inj (again.symm.trans first)

omit invariant in
theorem last_call_not_stopped (read : Read V) (job : Nat) (last : LastCall read job) : ¬ Stopped read := by
  intro stopped
  rcases last with second | ⟨_, first, unplanned⟩
  · cases stopped.1.symm.trans second
  · rcases stopped.2 with none | planned
    · cases none.symm.trans first
    · exact planned unplanned

theorem met_unique (read : Read V) (fate other : Fate V) (met : Met scheduler read fate)
    (also : Met scheduler read other) : other = fate := by
  cases met with
  | stopped stopped =>
      cases also with
      | stopped => rfl
      | called job _ last fell => exact absurd stopped (last_call_not_stopped read job last)
  | called job _ last fell =>
      cases also with
      | stopped stopped => exact absurd stopped (last_call_not_stopped read job last)
      | called again _ same also =>
          cases last_call_unique read job again last same
          exact call_fate_unique scheduler invariant job fate other fell also

end Calls

inductive Reason (scheduler : Scheduler.State V Failure) (read : Read V) (response : Response V) : Prop where
  | stopped (message : String) (n : Int) (stopped : Stopped read)
      (same : response = rateLimitedResponse message (some n))
  | told (job : Nat) (outcome : Scheduler.Outcome V Failure) (fate : Fate V) (last : LastCall read job)
      (ended : scheduler.callers job = .ended outcome) (fell : outcomeFate outcome = some fate)
      (shown : Shows response fate)

structure Reasoned (scheduler : Scheduler.State V Failure) (read : Read V) : Prop where
  alone : read.stage = .executing .first → read.retry = none
  answered : ∀ response, read.stage = .answered response → Reason scheduler read response

theorem reasoned_fresh (scheduler : Scheduler.State V Failure) (read : Read V) (stage : read.stage = .absent) :
    Reasoned scheduler read where
  alone := fun executing => by cases stage.symm.trans executing
  answered := fun _ answered => by cases stage.symm.trans answered

theorem reasoned_runs (s t : Scheduler.State V Failure) (invariant : Scheduler.Invariant s) (runs : Runs s t)
    (read : Read V) (reasoned : Reasoned s read) : Reasoned t read where
  alone := reasoned.alone
  answered := by
    intro response answered
    cases reasoned.answered response answered with
    | stopped message n stopped same => exact .stopped message n stopped same
    | told job outcome fate last ended fell shown =>
        exact .told job outcome fate last (caller_kept s t invariant runs job outcome ended) fell shown

section Steps

variable (settings : Settings) (s : State V)

theorem reasoned_frame (t : State V) (invariant : Scheduler.Invariant s.scheduler)
    (reasoned : ∀ id, Reasoned s.scheduler (s.reads id)) (runs : Runs s.scheduler t.scheduler)
    (reads : t.reads = s.reads) (id : Nat) : Reasoned t.scheduler (t.reads id) := by
  rw [reads]
  exact reasoned_runs s.scheduler t.scheduler invariant runs _ (reasoned id)

theorem reasoned_write (t : State V) (invariant : Scheduler.Invariant s.scheduler)
    (reasoned : ∀ id, Reasoned s.scheduler (s.reads id)) (runs : Runs s.scheduler t.scheduler) (id : Nat)
    (read : Read V) (reads : t.reads = Function.update s.reads id read) (own : Reasoned t.scheduler read)
    (other : Nat) : Reasoned t.scheduler (t.reads other) := by
  rw [reads]
  by_cases same : other = id
  · rw [same, Function.update_self]
    exact own
  · rw [Function.update_of_ne same]
    exact reasoned_runs s.scheduler t.scheduler invariant runs _ (reasoned other)

theorem reasoned_proceed (id job : Nat) (attempt : Attempt) (observedAt wall : ℚ)
    (awaits : (s.reads id).awaits attempt job)
    (alone : attempt = .first → (s.reads id).second = none ∧ (s.reads id).retry = none) :
    Reasoned s.scheduler (proceedRead s id job attempt observedAt wall) := by
  have last : LastCall (s.reads id) job := by
    cases attempt with
    | first => exact .inr ⟨(alone rfl).1, awaits.2, (alone rfl).2⟩
    | second => exact .inl awaits.2
  have still : Reasoned s.scheduler (s.reads id) :=
    { alone := fun executing => (alone (by cases awaits.1.symm.trans executing; rfl)).2
      answered := fun _ answered => by cases awaits.1.symm.trans answered }
  rw [proceedRead]
  cases caller : s.scheduler.callers job with
  | absent => exact still
  | waitingStarted timerFired cancelRequested => exact still
  | waitingResult cancelRequested => exact still
  | ended outcome =>
      cases settles s.cooldownUntil (s.reads id) attempt observedAt wall outcome with
      | answered response fate own shown rejected admitted same =>
          dsimp only
          rw [same]
          refine ⟨(fun executing => by cases executing), ?_⟩
          intro answer stage
          cases stage
          exact .told job outcome fate last caller own shown
      | cancelled stage =>
          refine ⟨fun executing => ?_, fun _ answered => ?_⟩
          · cases stage.symm.trans executing
          · cases stage.symm.trans answered
      | backoff wakeAt stage =>
          refine ⟨fun executing => ?_, fun _ answered => ?_⟩
          · cases stage.symm.trans executing
          · cases stage.symm.trans answered

theorem reasoned_submit (invariant : Scheduler.Invariant s.scheduler)
    (reasoned : ∀ id, Reasoned s.scheduler (s.reads id)) (id : Nat) (attempt : Attempt) (args : Scheduler.Arguments)
    (enqueuedAt now observedAt wall : ℚ) (early : s.scheduler.clock ≤ enqueuedAt) (between : enqueuedAt ≤ now)
    (late : now ≤ observedAt)
    (alone : attempt = .first → (s.reads id).second = none ∧ (s.reads id).retry = none) (other : Nat) :
    Reasoned (s.submit id attempt args enqueuedAt now observedAt wall).scheduler
      ((s.submit id attempt args enqueuedAt now observedAt wall).reads other) := by
  have runs := runs_submit s id attempt args enqueuedAt now observedAt wall invariant early between late
  apply reasoned_write s _ invariant reasoned runs id _
    (submit_read s id attempt args enqueuedAt now observedAt wall)
  rw [State.submit, proceed_scheduler]
  apply reasoned_proceed (s.submitted id attempt args enqueuedAt now observedAt) id s.scheduler.next attempt
    observedAt wall
  · rw [submitted_read]
    exact with_job_self (s.reads id) attempt s.scheduler.next
  · intro first
    rw [submitted_read]
    cases first
    exact alone rfl

theorem reasoned_refuse (invariant : Scheduler.Invariant s.scheduler)
    (reasoned : ∀ id, Reasoned s.scheduler (s.reads id)) (id : Nat) (attempt : Attempt) (checkedAt now : ℚ)
    (later : s.scheduler.clock ≤ now) (stopped : Stopped (s.reads id)) (other : Nat) :
    Reasoned (s.refuse id attempt checkedAt now).scheduler ((s.refuse id attempt checkedAt now).reads other) := by
  apply reasoned_write s _ invariant reasoned (runs_tick s.scheduler now later) id _ rfl
  refine ⟨(fun executing => by cases executing), ?_⟩
  intro response answered
  cases answered
  exact .stopped _ _ stopped rfl

theorem reasoned_perform (event : Event V) (invariant : Scheduler.Invariant s.scheduler)
    (budgets : Budgets settings s) (reasoned : ∀ id, Reasoned s.scheduler (s.reads id)) (guard : enabled s event)
    (id : Nat) :
    Reasoned (perform settings s event).scheduler ((perform settings s event).reads id) := by
  have runs := runs_perform settings s event invariant guard
  cases event with
  | begin operationName priority messages startedAt checkedAt enqueuedAt now observedAt wall =>
      obtain ⟨first, second, third, fourth, fifth⟩ := guard
      have arrived : ∀ other, Reasoned s.scheduler
          ((s.arrive settings operationName priority messages startedAt).reads other) :=
        reasoned_write s (s.arrive settings operationName priority messages startedAt) invariant reasoned .refl s.next
          _ rfl (reasoned_fresh _ _ rfl)
      have fresh : ((s.arrive settings operationName priority messages startedAt).reads s.next).first = none ∧
          ((s.arrive settings operationName priority messages startedAt).reads s.next).second = none ∧
          ((s.arrive settings operationName priority messages startedAt).reads s.next).retry = none := by
        rw [State.arrive, State.setRead]
        dsimp only
        rw [Function.update_self]
        exact ⟨rfl, rfl, rfl⟩
      have early := le_trans first (le_trans second third)
      rw [perform]
      by_cases shut : 0 < (s.arrive settings operationName priority messages startedAt).cooldownUntil - checkedAt
      · rw [if_pos shut]
        exact reasoned_refuse (s.arrive settings operationName priority messages startedAt) invariant arrived s.next
          .first checkedAt observedAt (le_trans early (le_trans fourth fifth)) ⟨fresh.2.1, .inl fresh.1⟩ id
      · rw [if_neg shut]
        exact reasoned_submit (s.arrive settings operationName priority messages startedAt) invariant arrived s.next
          .first _ enqueuedAt now observedAt wall early fourth fifth (fun _ => fresh.2) id
  | resume read job attempt now observedAt wall =>
      have frame := (proceed_frame ((s.act (.resumeCaller job now)).tick observedAt) read job attempt observedAt
        wall).1
      apply reasoned_write s _ invariant reasoned runs read _ frame
      rw [perform, proceed_scheduler]
      apply reasoned_proceed ((s.act (.resumeCaller job now)).tick observedAt) read job attempt observedAt wall guard.1
      intro same
      have executing := guard.1.1
      rw [same] at executing
      exact ⟨(budgets.reads read).executing executing, (reasoned read).alone executing⟩
  | wake read checkedAt queueAt executeAt enqueuedAt now observedAt wall =>
      obtain ⟨past, first, second, third, fourth, fifth, sixth⟩ := guard
      obtain ⟨wakeAt, backoff⟩ := backing_off (s.reads read) checkedAt past
      obtain ⟨none, _, retry, _, planned, _⟩ := (budgets.reads read).backoff wakeAt backoff
      have early := le_trans first (le_trans second (le_trans third fourth))
      rw [perform]
      by_cases shut : 0 < s.cooldownUntil - checkedAt
      · rw [if_pos shut]
        refine reasoned_refuse s invariant reasoned read .second checkedAt observedAt
          (le_trans early (le_trans fifth sixth)) ⟨none, .inr ?_⟩ id
        rw [planned]
        exact fun same => by cases same
      · rw [if_neg shut]
        exact reasoned_submit s invariant reasoned read .second _ enqueuedAt now observedAt wall early fifth sixth
          (fun same => by cases same) id
  | cancel read job now => exact reasoned_frame s _ invariant reasoned runs rfl id
  | cancelBackoff read now =>
      apply reasoned_write s _ invariant reasoned runs read ((s.reads read).finish .cancelled false true) rfl
      exact ⟨(fun executing => by cases executing), fun _ answered => by cases answered⟩
  | startOperation job checkedAt now =>
      apply reasoned_frame s _ invariant reasoned runs
      rw [perform, State.startOperation]
      dsimp only
      split
      · rfl
      · rfl
  | finishBuild job ending handledAt wall now =>
      exact reasoned_frame s _ invariant reasoned runs (finish_build_frame s job ending handledAt wall now).1 id
  | joined failure now wall => exact reasoned_frame s _ invariant reasoned runs rfl id
  | advance event => exact reasoned_frame s _ invariant reasoned runs rfl id

end Steps

theorem reasoned_reachable (settings : Settings) (policy : AdmissionPolicy) (clock : ℚ) (s : State V)
    (reached : Reachable settings policy clock s) :
    Scheduler.Invariant s.scheduler ∧ Budgets settings s ∧ ∀ id, Reasoned s.scheduler (s.reads id) := by
  apply System.reaches_invariant (gateway V settings) Set.univ
    (fun a => Scheduler.Invariant a.scheduler ∧ Budgets settings a ∧ ∀ id, Reasoned a.scheduler (a.reads id)) _ _
    s reached
  · exact ⟨Scheduler.invariant_initial policy clock, budgets_initial settings policy clock,
      fun _ => reasoned_fresh _ _ rfl⟩
  · intro a event _ held guard
    obtain ⟨invariant, budgets, reasoned⟩ := held
    exact ⟨scheduler_invariant_step settings a event invariant guard,
      budgets_perform settings a event invariant budgets guard,
      reasoned_perform settings a event invariant budgets reasoned guard⟩

theorem undispatched_uncalled (clock : ℚ) (v : Scheduler.View V Failure)
    (stage : Scheduler.JobStage clock v.job v.lifecycle v.operation v.ledger)
    (undispatched : v.ledger.dispatchedAt = none) :
    v.operation.invocations = 0 := by
  obtain ⟨job, caller, lifecycle, operation, ledger, requested⟩ := v
  dsimp only at stage undispatched ⊢
  cases stage with
  | absent | queued | expired | removed => rfl
  | created | waiting | draining | ran => cases undispatched

theorem idle_unbuilt (settings : Settings) (s : State V) (invariant : Scheduler.Invariant s.scheduler)
    (budgets : Budgets settings s) (id : Nat) (fate : Fate V) (met : Met s.scheduler (s.reads id) fate)
    (idle : fate.idle = true) (build : Build) (member : build ∈ s.builds) (own : build.read = id) :
    (s.reads id).first = some build.job ∧ (s.reads id).retry ≠ none := by
  obtain ⟨below, owner, called⟩ := budgets.built build member
  obtain ⟨_, place⟩ := budgets.owner build.job below
  rw [← owner, own] at place
  cases met with
  | stopped stopped =>
      obtain ⟨none, reason⟩ := stopped
      have first := place.resolve_right (fun second => by cases none.symm.trans second)
      exact ⟨first, reason.resolve_left (fun unasked => by cases unasked.symm.trans first)⟩
  | called job _ last fell =>
      have undispatched : (s.scheduler.ledger job).dispatchedAt = none := by
        by_contra dispatched
        have busy := (call_fate_dispatched s.scheduler invariant job fate fell).mp dispatched
        cases idle.symm.trans busy
      have uncalled := undispatched_uncalled s.scheduler.clock (Scheduler.view s.scheduler job)
        (invariant.consistent job).stage undispatched
      have different : build.job ≠ job := by
        intro same
        rw [same] at called
        cases uncalled.symm.trans called
      rcases last with second | ⟨none, first, _⟩
      · have earlier := place.resolve_right
          (fun same => different (Option.some.inj (same.symm.trans second)))
        obtain ⟨_, retry, _, planned, _⟩ := ((budgets.reads id).second job second).1
        refine ⟨earlier, ?_⟩
        rw [planned]
        exact fun same => by cases same
      · rcases place with same | second
        · exact absurd (Option.some.inj (same.symm.trans first)) different
        · cases none.symm.trans second

theorem fate_shown (s : State V) (invariant : Scheduler.Invariant s.scheduler) (id : Nat)
    (reasoned : Reasoned s.scheduler (s.reads id)) (response : Response V)
    (answered : (s.reads id).stage = .answered response) :
    ∃ fate, Met s.scheduler (s.reads id) fate ∧ Shows response fate := by
  cases reasoned.answered response answered with
  | stopped message n stopped same =>
      refine ⟨.refused, .stopped stopped, ?_⟩
      rw [same]
      exact shows_stopped message n
  | told job outcome fate last ended fell shown =>
      have met := outcome_call_fate s.scheduler invariant job outcome fate ended fell
      exact ⟨fate, .called job fate last met, shown⟩

end SchwabGateway.Reads
