import SchwabGateway.Reads.Failures
import SchwabGateway.Scheduler.System

set_option autoImplicit false

namespace SchwabGateway.Reads

open SchwabGateway.Library

variable {V : Type}

structure Settings where
  upstreamTimeout : ℚ
  queueTimeout : PriorityClass → ℚ

structure Messages where
  timeout : String
  unavailable : String
  malformed : String
deriving DecidableEq

-- serverError stands for an exception that leaves _serve_upstream.
inductive Response (V : Type) where
  | json (value : V)
  | error (code message : String) (status : Nat) (retryAfter : Option Int)
  | serverError
deriving DecidableEq

inductive Attempt where
  | first
  | second
deriving DecidableEq

-- Where the coroutine of one _serve_upstream is suspended.
inductive Stage (V : Type) where
  | absent
  | executing (attempt : Attempt)
  | backoff (wakeAt : ℚ)
  | answered (response : Response V)
  | cancelled
deriving DecidableEq

-- The reading and the failure the decision to retry was made on.
structure Retry where
  observedAt : ℚ
  failure : Failure
  wall : ℚ
deriving DecidableEq

-- first and second are the scheduler calls of the two attempts, admission the
-- outcomes counted by gateway_admission.
structure Read (V : Type) where
  operationName : String
  priority : PriorityClass
  messages : Messages
  startedAt : ℚ
  deadline : ℚ
  stage : Stage V
  first : Option Nat
  second : Option Nat
  retry : Option Retry
  admission : List String
deriving DecidableEq

def Read.absent : Read V := ⟨"", .background, ⟨"", "", ""⟩, 0, 0, .absent, none, none, none, []⟩

-- Ghost state: the moment a build_response was started and the value the
-- cooldown had then.
structure Build where
  read : Nat
  job : Nat
  startedAt : ℚ
  cooldownUntil : ℚ
deriving DecidableEq

-- Ghost state: a failure of a build_response that classify reports as rate
-- limited, and when guarded_response had it in hand.
structure Handled where
  handledAt : ℚ
  retryAfter : Option ℚ
deriving DecidableEq

structure State (V : Type) where
  scheduler : Scheduler.State V Failure
  cooldownUntil : ℚ
  next : Nat
  reads : Nat → Read V
  owner : Nat → Nat
  builds : List Build
  handled : List Handled

def initial (policy : AdmissionPolicy) (clock : ℚ) : State V where
  scheduler := Scheduler.initial policy clock
  cooldownUntil := 0
  next := 0
  reads _ := .absent
  owner _ := 0
  builds := []
  handled := []

def retryableOperations : List String :=
  ["spot", "quotes", "option_chain", "chain_metadata", "history", "movers", "session_history"]

def minimumTimeout : ℚ := 1 / 1000
def backoffSeconds : ℚ := 1 / 10
def retryReserve : ℚ := 11 / 10

def rateLimitedResponse (message : String) (retryAfter : Option Int) : Response V :=
  .error "upstream_rate_limited" message 503 retryAfter

def failureResponse (cooldownUntil : ℚ) (failure : Failure) (message : String) (now wall : ℚ) :
    ℚ × Response V :=
  let metadata := classify failure wall
  match metadata.cause with
  | .rateLimited =>
      let delay := backoffDelay metadata.retryAfter
      (max cooldownUntil (now + delay),
        rateLimitedResponse message (metadata.retryAfter.map fun _ => delay.ceil))
  | .connectTimeout => (cooldownUntil, .error "upstream_connect_timeout" message 503 none)
  | _ => (cooldownUntil, .error "upstream_unavailable" message 503 none)

structure Settled (V : Type) where
  cooldownUntil : ℚ
  read : Read V

-- The finally clause: the read is over, and counted as admitted if it was.
def Read.finish (read : Read V) (stage : Stage V) (rejected admitted : Bool) : Read V :=
  { read with
    stage := stage
    admission := read.admission ++ (if rejected then ["rejected"] else []) ++
      (if admitted then ["admitted"] else []) }

def Read.answer (read : Read V) (response : Response V) : Read V :=
  read.finish (.answered response) false true

def answerFailure (cooldownUntil : ℚ) (read : Read V) (failure : Failure) (now wall : ℚ) : Settled V :=
  let answer := failureResponse cooldownUntil failure read.messages.unavailable now wall
  ⟨answer.1, read.answer answer.2⟩

def mayRetry (read : Read V) (attempt : Attempt) (now : ℚ) : Prop :=
  attempt = .first ∧ read.operationName ∈ retryableOperations ∧ retryReserve ≤ read.deadline - now

instance (read : Read V) (attempt : Attempt) (now : ℚ) : Decidable (mayRetry read attempt now) :=
  inferInstanceAs (Decidable (_ ∧ _ ∧ _))

def startBackoff (read : Read V) (failure : Failure) (now wall : ℚ) : Read V :=
  { read with stage := .backoff (now + backoffSeconds), retry := some ⟨now, failure, wall⟩ }

-- The handler of UpstreamUnavailableError inside the loop, and the one after
-- it for what the first raises again.
def settleUnavailable (cooldownUntil : ℚ) (read : Read V) (attempt : Attempt) (failure : Failure)
    (now wall : ℚ) : Settled V :=
  match (classify failure wall).cause with
  | .rateLimited => answerFailure cooldownUntil read failure now wall
  | .connectTimeout =>
      if mayRetry read attempt now then ⟨cooldownUntil, startBackoff read failure now wall⟩
      else
        ⟨cooldownUntil,
          read.answer (.error "upstream_connect_timeout" read.messages.unavailable 503 none)⟩
  | _ =>
      ⟨cooldownUntil, read.answer (.error "upstream_unavailable" read.messages.unavailable 503 none)⟩

def malformedResponse (messages : Messages) : Response V :=
  .error "upstream_malformed" messages.malformed 502 none

-- What _serve_upstream does once execute has returned or raised. On the second
-- attempt the read already counts as admitted.
def settle (cooldownUntil : ℚ) (read : Read V) (attempt : Attempt)
    (outcome : Scheduler.Outcome V Failure) (now wall : ℚ) : Settled V :=
  match outcome with
  | .returned value => ⟨cooldownUntil, read.answer (.json value)⟩
  | .raised (.capacity _) =>
      ⟨cooldownUntil,
        read.finish (.answered (.error "gateway_capacity_exceeded"
          "gateway request capacity is unavailable" 429 none)) true (attempt = .second)⟩
  | .raised (.queueTimeout _) =>
      ⟨cooldownUntil,
        read.answer (.error "gateway_queue_timeout" "gateway worker queue wait timed out" 503 none)⟩
  | .raised (.upstreamTimeout _) =>
      ⟨cooldownUntil, read.answer (.error "upstream_timeout" read.messages.timeout 504 none)⟩
  | .raised (.valueError _) => ⟨cooldownUntil, read.answer (malformedResponse read.messages)⟩
  | .raised .cancelled => ⟨cooldownUntil, read.finish .cancelled false (attempt = .second)⟩
  | .raised (.operation failure) =>
      match failure.head.exceptionClass with
      | .upstreamUnavailable => settleUnavailable cooldownUntil read attempt failure now wall
      | .upstreamMalformed => ⟨cooldownUntil, read.answer (malformedResponse read.messages)⟩
      | .valueError => ⟨cooldownUntil, read.answer (malformedResponse read.messages)⟩
      | .other => ⟨cooldownUntil, read.finish (.answered .serverError) false (attempt = .second)⟩

def firstArguments (settings : Settings) (read : Read V) : Scheduler.Arguments where
  priority := read.priority
  operationName := read.operationName
  queueTimeoutSeconds := .finite (settings.queueTimeout read.priority)
  executionTimeoutSeconds := .finite settings.upstreamTimeout
  requestDeadline := none

-- The two timeouts are computed one after the other, each from its own
-- reading of the clock.
def secondArguments (settings : Settings) (read : Read V) (queueAt executeAt : ℚ) :
    Scheduler.Arguments where
  priority := read.priority
  operationName := read.operationName
  queueTimeoutSeconds :=
    .finite (min (settings.queueTimeout read.priority) (max minimumTimeout (read.deadline - queueAt)))
  executionTimeoutSeconds := .finite (max minimumTimeout (read.deadline - executeAt))
  requestDeadline := some (.finite read.deadline)

namespace State

def setRead (s : State V) (id : Nat) (read : Read V) : State V :=
  { s with reads := Function.update s.reads id read }

def act (s : State V) (event : Scheduler.Event V Failure) : State V :=
  { s with scheduler := (Scheduler.scheduler V Failure).perform s.scheduler event }

def tick (s : State V) (now : ℚ) : State V := s.act (.tick now)

-- Code after an await on execute runs in the same step if execute has ended.
def proceed (s : State V) (id job : Nat) (attempt : Attempt) (observedAt wall : ℚ) : State V :=
  match s.scheduler.callers job with
  | .ended outcome =>
      let settled := settle s.cooldownUntil (s.reads id) attempt outcome observedAt wall
      { s with
        cooldownUntil := settled.cooldownUntil
        reads := Function.update s.reads id settled.read }
  | _ => s

end State

def Read.withJob (read : Read V) (attempt : Attempt) (job : Nat) : Read V :=
  match attempt with
  | .first => { read with stage := .executing .first, first := some job }
  | .second => { read with stage := .executing .second, second := some job }

def State.submit (s : State V) (id : Nat) (attempt : Attempt) (args : Scheduler.Arguments)
    (enqueuedAt now observedAt wall : ℚ) : State V :=
  let job := s.scheduler.next
  let s := { s with owner := Function.update s.owner job id }
  let s := s.setRead id ((s.reads id).withJob attempt job)
  let s := (s.act (.execute args enqueuedAt now)).tick observedAt
  s.proceed id job attempt observedAt wall

-- The cooldown check at the head of the loop.
def State.refuse (s : State V) (id : Nat) (attempt : Attempt) (checkedAt now : ℚ) : State V :=
  let read := s.reads id
  let response := rateLimitedResponse read.messages.unavailable
    (some (s.cooldownUntil - checkedAt).ceil)
  (s.setRead id (read.finish (.answered response) false (attempt = .second))).tick now

def State.arrive (s : State V) (settings : Settings) (operationName : String)
    (priority : PriorityClass) (messages : Messages) (startedAt : ℚ) : State V :=
  let read : Read V :=
    { Read.absent with
      operationName := operationName
      priority := priority
      messages := messages
      startedAt := startedAt
      deadline := startedAt + settings.upstreamTimeout }
  { s.setRead s.next read with next := s.next + 1 }

-- guarded_response up to its await: it fails at once while the cooldown lasts.
def State.startOperation (s : State V) (job : Nat) (checkedAt now : ℚ) : State V :=
  let cooldown := s.cooldownUntil - checkedAt
  let started := s.act (.startOperation job checkedAt)
  if 0 < cooldown then started.act (.completeOperation job (.error (rateLimitedRead cooldown)) now)
  else
    { started.tick now with
      builds := ⟨s.owner job, job, checkedAt, s.cooldownUntil⟩ :: s.builds }

inductive BuildEnding (V : Type) where
  | value (value : V)
  | failure (failure : ReadFailure)
  | cancelled

def BuildEnding.ending : BuildEnding V → Scheduler.Ending V Failure
  | .value result => .value result
  | .failure error => .error error.exception
  | .cancelled => .cancelled

def recordHandled (s : State V) (failure : Failure) (handledAt wall : ℚ) : State V :=
  let metadata := classify failure wall
  if metadata.cause = .rateLimited then
    { s with handled := ⟨handledAt, metadata.retryAfter⟩ :: s.handled }
  else s

-- The except clause of guarded_response.
def raiseCooldown (s : State V) (failure : Failure) (handledAt wall : ℚ) : State V :=
  if failure.head.exceptionClass = .upstreamUnavailable ∧
      (classify failure wall).cause = .rateLimited then
    { s with cooldownUntil := (failureResponse s.cooldownUntil failure "" handledAt wall
        : ℚ × Response V).1 }
  else s

def State.finishBuild (s : State V) (job : Nat) (ending : BuildEnding V) (handledAt wall now : ℚ) :
    State V :=
  let s :=
    match ending with
    | .failure failure =>
        raiseCooldown (recordHandled s failure.exception handledAt wall) failure.exception handledAt wall
    | _ => s
  s.act (.completeOperation job ending.ending now)

end SchwabGateway.Reads
