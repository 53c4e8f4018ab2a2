import SchwabGateway.Reads.RetryAfter

set_option autoImplicit false

namespace SchwabGateway.Reads

open SchwabGateway.Library

variable {V : Type}

section Sdk

inductive GatewayError where
  | authentication
  | authorization
  | capacity
  | queueTimeout
  | timeout
  | rateLimit (retryAfter : Option Int)
  | connectionTimeout
  | unavailable
  | response (status : Nat)
deriving DecidableEq

def isAscii (text : String) : Bool := text.toList.all (fun c => c.toNat < 128)

def isDigits (text : String) : Bool := text.toList ≠ [] && text.toList.all Char.isDigit

def decimalValue (digits : List Char) : Int :=
  digits.foldl (fun number digit => 10 * number + (digit.toNat - 48)) 0

def rateLimitSeconds (raw : String) : Option Int :=
  let seconds := if raw.length ≤ 2 && isAscii raw && isDigits raw then some (decimalValue raw.toList) else none
  match seconds with
  | some seconds => if seconds ≤ 60 then some seconds else none
  | none => none

def getTypedStatus (status : Nat) (code raw : String) : Option GatewayError :=
  if status = 401 then some .authentication
  else if status = 403 then some .authorization
  else if status = 429 then some .capacity
  else if status = 503 ∧ code = "gateway_queue_timeout" then some .queueTimeout
  else if status = 504 then some .timeout
  else if status = 503 ∧ code = "upstream_rate_limited" then some (.rateLimit (rateLimitSeconds raw))
  else if status = 503 ∧ code = "upstream_connect_timeout" then some .connectionTimeout
  else if status = 502 ∨ status = 503 then some .unavailable
  else if status ≠ 200 then some (.response status)
  else none

-- The header is str(n); a missing one is read as the empty text.
def getTypedError : Response V → Option GatewayError
  | .json _ => getTypedStatus 200 "" ""
  | .error code _ status retryAfter => getTypedStatus status code ((retryAfter.map toString).getD "")
  | .serverError => getTypedStatus 500 "" ""

theorem rate_limit_seconds_text (n : Int) (low : 1 ≤ n) (high : n ≤ 60) :
    rateLimitSeconds (toString n) = some n := by
  have each : ∀ k : Fin 61, rateLimitSeconds (toString (k.val : Int)) = some (k.val : Int) := by decide +kernel
  have bound : n.toNat < 61 := by omega
  have back : ((n.toNat : Nat) : Int) = n := Int.toNat_of_nonneg (by omega)
  rw [← back]
  exact each ⟨n.toNat, bound⟩

end Sdk

-- A response says when to come back: between one second and a minute, and the
-- SDK reads just that number.
structure Announced (V : Type) (message : String) (n : Int) : Prop where
  low : 1 ≤ n
  high : n ≤ 60
  understood : getTypedError (rateLimitedResponse message (some n) : Response V) = some (.rateLimit (some n))

theorem in_range_announced (message : String) (n : Int)
    (range : InRange (rateLimitedResponse message (some n) : Response V)) : Announced V message n := by
  obtain ⟨low, high⟩ := range n rfl
  refine ⟨low, high, ?_⟩
  have limited : ∀ raw, getTypedStatus 503 "upstream_rate_limited" raw =
      some (.rateLimit (rateLimitSeconds raw)) := fun raw => by simp [getTypedStatus]
  have text := rate_limit_seconds_text n low high
  exact (limited (toString n)).trans (by rw [text])

inductive HeadRefusal (s : State V) : Event V → Nat → ℚ → Prop where
  | begin (operationName : String) (priority : PriorityClass) (messages : Messages)
      (startedAt checkedAt enqueuedAt now observedAt wall : ℚ) (shut : 0 < s.cooldownUntil - checkedAt) :
      HeadRefusal s (.begin operationName priority messages startedAt checkedAt enqueuedAt now observedAt wall)
        s.next (s.cooldownUntil - checkedAt)
  | wake (read : Nat) (checkedAt queueAt executeAt enqueuedAt now observedAt wall : ℚ)
      (shut : 0 < s.cooldownUntil - checkedAt) :
      HeadRefusal s (.wake read checkedAt queueAt executeAt enqueuedAt now observedAt wall) read
        (s.cooldownUntil - checkedAt)

def AnsweredAfter (read : Read V) (remaining : ℚ) : Prop :=
  ∃ message n, read.stage = .answered (rateLimitedResponse message (some n)) ∧ remaining ≤ n ∧
    Announced V message n

section Refusals

variable (settings : Settings) (s : State V) (timely : Timely s)

include timely

theorem refuse_answered (id : Nat) (attempt : Attempt) (checkedAt now : ℚ)
    (checked : s.scheduler.clock ≤ checkedAt) (shut : 0 < s.cooldownUntil - checkedAt) :
    AnsweredAfter ((s.refuse id attempt checkedAt now).reads id) (s.cooldownUntil - checkedAt) := by
  refine ⟨(s.reads id).messages.unavailable, (s.cooldownUntil - checkedAt).ceil, ?_, Rat.le_ceil, ?_⟩
  · change (Function.update s.reads id _ id).stage = _
    rw [Function.update_self]
    rfl
  · exact in_range_announced _ _ (refused_in_range s timely _ checkedAt checked shut)

theorem head_refusal_answered (event : Event V) (id : Nat) (remaining : ℚ) (guard : enabled s event)
    (refusal : HeadRefusal s event id remaining) :
    AnsweredAfter ((perform settings s event).reads id) remaining := by
  cases refusal with
  | begin operationName priority messages startedAt checkedAt enqueuedAt now observedAt wall shut =>
      obtain ⟨first, second, _⟩ := guard
      have arrived : Timely (s.arrive settings operationName priority messages startedAt) :=
        ⟨timely.ahead, timely.failures, answered_write s timely s.next _ (unanswered_punctual _ nofun)⟩
      have still : 0 < (s.arrive settings operationName priority messages startedAt).cooldownUntil - checkedAt := shut
      rw [perform, if_pos still]
      exact refuse_answered _ arrived s.next .first checkedAt observedAt (first.trans second) shut
  | wake _ checkedAt queueAt executeAt enqueuedAt now observedAt wall shut =>
      rw [perform, if_pos shut]
      exact refuse_answered s timely id .second checkedAt observedAt guard.2.1 shut

end Refusals

section Guarded

variable (settings : Settings) (s t : State V)

theorem local_settled (cooldownUntil : ℚ) (read : Read V) (attempt : Attempt) (now wall remaining : ℚ)
    (shut : 0 < remaining) (high : remaining ≤ 60) :
    AnsweredAfter (settle cooldownUntil read attempt (.raised (.operation (rateLimitedRead remaining))) now wall).read
      remaining := by
  obtain ⟨n, response, enough⟩ :=
    local_response (V := V) cooldownUntil read.messages.unavailable now wall remaining shut high
  have range := failure_response_in_range (V := V) cooldownUntil (rateLimitedRead remaining)
    read.messages.unavailable now wall (local_bounded remaining shut)
  rw [response] at range
  refine ⟨read.messages.unavailable, n, ?_, enough, in_range_announced _ n range⟩
  exact congrArg Stage.answered response

-- What the guard said stays what the operation of the job ended with, so this
-- is what the caller of the job gets to see.
theorem guard_refusal_kept (invariant : Scheduler.Invariant s.scheduler) (job : Nat) (checkedAt now : ℚ)
    (guard : enabled s (.startOperation job checkedAt now)) (shut : 0 < s.cooldownUntil - checkedAt)
    (reached : Runs (s.startOperation job checkedAt now).scheduler t.scheduler) (failure : Failure)
    (ended : t.scheduler.callers job = .ended (.raised (.operation failure))) :
    failure = rateLimitedRead (s.cooldownUntil - checkedAt) := by
  have started := runs_invariant _ _ invariant (runs_start_operation s job checkedAt now invariant guard.1 guard.2)
  have refused := (cooldown_blocks s job checkedAt now (by linarith)).1
  have known : job < (s.startOperation job checkedAt now).scheduler.next := by
    by_contra late
    have fresh := congrArg Scheduler.View.operation (started.fresh job (Nat.le_of_not_lt late))
    cases refused.symm.trans fresh
  have kept := (Scheduler.keeps_reaches _ _ started reached job known).completed _ _ refused
  have owed := Scheduler.consistent_owed _ _ ((runs_invariant _ _ started reached).consistent job) _ ended
  obtain ⟨_, _, _, completedAt, _, done, _⟩ := owed
  have same := done.symm.trans kept
  simp only [Scheduler.Operation.done.injEq, Scheduler.Ending.error.injEq] at same
  exact same.1

theorem genuine_runs (invariant : Scheduler.Invariant s.scheduler)
    (reached : (gateway V settings).Reaches genuineEvents s t) : Runs s.scheduler t.scheduler :=
  System.reaches_project (gateway V settings) (Scheduler.scheduler V Failure) genuineEvents
    Scheduler.undisturbed State.scheduler (fun a => Scheduler.Invariant a.scheduler)
    (fun a event _ held guard => scheduler_invariant_step settings a event held guard)
    (fun a event _ held guard => runs_perform settings a event held guard) s t reached invariant

theorem guard_refusal_answered (invariant : Scheduler.Invariant s.scheduler) (timely : Timely s) (job : Nat)
    (checkedAt now : ℚ) (guard : enabled s (.startOperation job checkedAt now))
    (shut : 0 < s.cooldownUntil - checkedAt)
    (reached : (gateway V settings).Reaches genuineEvents (perform settings s (.startOperation job checkedAt now)) t)
    (id : Nat) (attempt : Attempt) (resumedAt observedAt wall : ℚ)
    (resumed : enabled t (.resume id job attempt resumedAt observedAt wall)) (failure : Failure)
    (ended : ((t.act (.resumeCaller job resumedAt)).tick observedAt).scheduler.callers job =
      .ended (.raised (.operation failure))) :
    AnsweredAfter ((perform settings t (.resume id job attempt resumedAt observedAt wall)).reads id)
      (s.cooldownUntil - checkedAt) := by
  have started := runs_invariant _ _ invariant (runs_start_operation s job checkedAt now invariant guard.1 guard.2)
  have between := genuine_runs settings _ t started reached
  have after := runs_event_tick t.scheduler (.resumeCaller job resumedAt) observedAt
    (runs_invariant _ _ started between) rfl resumed.2.1 resumed.2.2
  have refused := guard_refusal_kept s ((t.act (.resumeCaller job resumedAt)).tick observedAt) invariant job
    checkedAt now guard shut (between.trans after) failure ended
  have high := remaining_bounds s timely checkedAt guard.1.1
  rw [perform, (proceed_frame _ id job attempt observedAt wall).1, Function.update_self, proceedRead, ended, refused]
  exact local_settled _ _ attempt observedAt wall _ shut high

end Guarded

theorem retry_after_agreement (settings : Settings) (policy : AdmissionPolicy) (clock : ℚ) (started : 0 ≤ clock)
    (s : State V) (reachable : GenuinelyReachable settings policy clock s) :
    (∀ id message n, (s.reads id).stage = .answered (rateLimitedResponse message (some n)) →
      Announced V message n) ∧
    (∀ failure message now wall n, Genuine failure →
      (failureResponse s.cooldownUntil failure.exception message now wall : ℚ × Response V).2 =
        rateLimitedResponse message (some n) → Announced V message n) ∧
    (∀ event id remaining, (gateway V settings).enabled s event → HeadRefusal s event id remaining →
      AnsweredAfter (((gateway V settings).perform s event).reads id) remaining) ∧
    (∀ job checkedAt now t, (gateway V settings).enabled s (.startOperation job checkedAt now) →
      0 < s.cooldownUntil - checkedAt →
      (gateway V settings).Reaches genuineEvents
        ((gateway V settings).perform s (.startOperation job checkedAt now)) t →
      ∀ id attempt resumedAt observedAt wall failure,
        (gateway V settings).enabled t (.resume id job attempt resumedAt observedAt wall) →
        ((t.act (.resumeCaller job resumedAt)).tick observedAt).scheduler.callers job =
          .ended (.raised (.operation failure)) →
        AnsweredAfter
          (((gateway V settings).perform t (.resume id job attempt resumedAt observedAt wall)).reads id)
          (s.cooldownUntil - checkedAt)) := by
  obtain ⟨invariant, timely⟩ := timely_reachable settings policy clock started s reachable
  refine ⟨?_, ?_, ?_, ?_⟩
  · intro id message n answered
    exact in_range_announced message n (timely.answered id _ answered)
  · intro failure message now wall n genuine response
    have range := failure_response_in_range (V := V) s.cooldownUntil failure.exception message now wall
      (genuine_bounded failure genuine)
    rw [response] at range
    exact in_range_announced message n range
  · intro event id remaining guard refusal
    exact head_refusal_answered settings s timely event id remaining guard refusal
  · intro job checkedAt now t guard shut reached id attempt resumedAt observedAt wall failure resumed ended
    exact guard_refusal_answered settings s t invariant timely job checkedAt now guard shut reached id attempt
      resumedAt observedAt wall resumed failure ended

def answered429 : ReadFailure := .provider ⟨⟨.other, none, some (.status 429 (some ⟨2, .digits 30⟩))⟩, []⟩

theorem answered_429_genuine : Genuine answered429 := by
  intro error same raised member metadata carried
  cases same
  rw [List.mem_singleton.mp member] at carried
  cases carried

-- The 429 of the first read shuts the gate for thirty seconds.
def shutEvents : List (Event Nat) :=
  [.begin "spot" .protected sampleMessages 0 0 0 0 0 0, .advance (.startLifecycle 0 0 0), .startOperation 0 0 0,
    .finishBuild 0 (.failure answered429) 1 0 1]

def shutState : State Nat :=
  (gateway Nat sampleSettings).performAll (initial Scheduler.samplePolicy 0) shutEvents

theorem shut_reachable : GenuinelyReachable sampleSettings Scheduler.samplePolicy 0 shutState := by
  apply System.reaches_perform_all _ genuineEvents _ shutEvents _ (by decide +kernel)
  intro event member
  simp only [shutEvents, List.mem_cons, List.not_mem_nil, or_false] at member
  rcases member with rfl | rfl | rfl | rfl
  · trivial
  · trivial
  · trivial
  · exact answered_429_genuine

theorem retry_after_agreement_shut :
    AnsweredAfter (((gateway Nat sampleSettings).perform shutState
      (.begin "quotes" .background sampleMessages 2 2 2 2 2 0)).reads 1) 29 := by
  have agreement := retry_after_agreement sampleSettings Scheduler.samplePolicy 0 (by norm_num) shutState shut_reachable
  have refusal := HeadRefusal.begin (s := shutState) "quotes" .background sampleMessages 2 2 2 2 2 0 (by decide +kernel)
  have remaining : shutState.cooldownUntil - 2 = 29 := by decide +kernel
  have next : shutState.next = 1 := by decide +kernel
  have answered := agreement.2.2.1 _ _ _ (by decide +kernel) refusal
  rw [remaining, next] at answered
  exact answered

end SchwabGateway.Reads
