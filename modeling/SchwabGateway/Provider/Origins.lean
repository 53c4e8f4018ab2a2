import SchwabGateway.Provider.Adapter
import SchwabGateway.Reads.Fates
import SchwabGateway.Token.Serializable

set_option autoImplicit false

namespace SchwabGateway.Provider

open SchwabGateway.Library SchwabGateway.Python SchwabGateway.Reads SchwabGateway.Token

variable {Client α V : Type}

inductive Origin where
  | token (error : Token.Exception)
  | construction (thrown : Thrown)
  | operation (thrown : Thrown)

def Origin.thrown (wall : ℚ) : Origin → Thrown
  | .token error => .ofException error
  | .construction thrown => thrown.outOfConstruction
  | .operation thrown => thrown.outOfOperation wall

def metadataError (metadata : FailureMetadata) : GatewayError :=
  match metadata.cause with
  | .rateLimited => .rateLimit (metadata.retryAfter.map fun _ => (backoffDelay metadata.retryAfter).ceil)
  | .connectTimeout => .connectionTimeout
  | _ => .unavailable

-- Only what an operation raised is classified; of the rest nothing is known.
def Origin.metadata (wall : ℚ) : Origin → FailureMetadata
  | .operation (.other failure) => classify failure wall
  | _ => ⟨.other, none⟩

def Thrown.failure : Thrown → Failure
  | .manager _ => ⟨plain .other, []⟩
  | .other failure => failure

section Courses

variable (codec : Codec) (settings : Token.Settings) (fault : Option Fault) (now : ℚ) (lock : LockCourse)
  (factory : Factory Client) (timeout : Option Timeout) (operation : Client → Code α) (wall : ℚ)
  (disk : Directory)

inductive Raises : Origin → Scope → Prop where
  | notEntered (error : Token.Exception) (refused : lock.enter = .error error) :
      Raises (.token error) ⟨⟨none⟩, disk, loadFailure error⟩
  | unloaded (error : Token.Exception) (entered : lock.enter = .ok ()) (left : lock.leave = .ok ())
      (failed : loadFromTransaction codec settings now disk = .error error) :
      Raises (.token error) ⟨⟨none⟩, disk, loadFailure error⟩
  | unbuilt (current : PyValue) (thrown : Thrown) (after : Scope) (entered : lock.enter = .ok ())
      (left : lock.leave = .ok ()) (loaded : loadFromTransaction codec settings now disk = .ok current)
      (raised : (factory.construct timeout).run (tokenAnswer codec fault) (opened current disk) =
        (.error thrown, after)) :
      Raises (.construction thrown) after
  | failed (current : PyValue) (client : Client) (built : Scope) (thrown : Thrown) (after : Scope)
      (entered : lock.enter = .ok ()) (left : lock.leave = .ok ())
      (loaded : loadFromTransaction codec settings now disk = .ok current)
      (constructed : (factory.construct timeout).run (tokenAnswer codec fault) (opened current disk) =
        (.ok client, built))
      (raised : (operation client).run (tokenAnswer codec fault) built = (.error thrown, after)) :
      Raises (.operation thrown) after
  | notLeft (error : Token.Exception) (entered : lock.enter = .ok ()) (stuck : lock.leave = .error error) :
      Raises (.token error) (lockedCall codec settings fault now factory timeout operation wall disk).2

variable {codec settings fault now lock factory timeout operation wall disk}

theorem locked_call_raises (entered : lock.enter = .ok ()) (left : lock.leave = .ok ()) (thrown : Thrown)
    (after : Scope)
    (ended : lockedCall codec settings fault now factory timeout operation wall disk = (.error thrown, after)) :
    ∃ origin, Raises codec settings fault now lock factory timeout operation wall disk origin after ∧
      origin.thrown wall = thrown := by
  rw [lockedCall] at ended
  cases loaded : loadFromTransaction codec settings now disk with
  | error error =>
      rw [loaded] at ended
      cases ended
      exact ⟨.token error, .unloaded error entered left loaded, rfl⟩
  | ok current =>
      rw [loaded] at ended
      dsimp only at ended
      rw [runLocked, Script.run_attempt] at ended
      cases constructed : (factory.construct timeout).run (tokenAnswer codec fault) (opened current disk) with
      | mk result built =>
          rw [constructed] at ended
          cases result with
          | error raised =>
              cases ended
              exact ⟨.construction raised, .unbuilt current raised after entered left loaded constructed, rfl⟩
          | ok client =>
              dsimp only at ended
              rw [Script.run_attempt] at ended
              cases called : (operation client).run (tokenAnswer codec fault) built with
              | mk result last =>
                  rw [called] at ended
                  cases result with
                  | ok value => cases ended
                  | error raised =>
                      cases ended
                      exact ⟨.operation raised,
                        .failed current client built raised after entered left loaded constructed called, rfl⟩

theorem execute_raises (thrown : Thrown) (after : Scope)
    (ended : execute codec settings fault now lock factory timeout operation wall disk = (.error thrown, after)) :
    ∃ origin, Raises codec settings fault now lock factory timeout operation wall disk origin after ∧
      origin.thrown wall = thrown := by
  rw [execute] at ended
  cases entered : lock.enter with
  | error error =>
      rw [entered] at ended
      cases ended
      exact ⟨.token error, .notEntered error entered, rfl⟩
  | ok done =>
      rw [entered] at ended
      dsimp only at ended
      cases left : lock.leave with
      | error error =>
          rw [left] at ended
          cases ended
          exact ⟨.token error, .notLeft error entered left, rfl⟩
      | ok done =>
          rw [left] at ended
          exact locked_call_raises entered left thrown after ended

theorem raises_unique (origin other : Origin) (after last : Scope)
    (raises : Raises codec settings fault now lock factory timeout operation wall disk origin after)
    (also : Raises codec settings fault now lock factory timeout operation wall disk other last) :
    other = origin ∧ last = after := by
  cases raises with
  | notEntered error refused =>
      cases also with
      | notEntered again same =>
          cases refused.symm.trans same
          exact ⟨rfl, rfl⟩
      | unloaded _ entered | unbuilt _ _ _ entered | failed _ _ _ _ _ entered | notLeft _ entered =>
          cases refused.symm.trans entered
  | unloaded error entered left failed =>
      cases also with
      | notEntered again refused => cases refused.symm.trans entered
      | unloaded again _ _ same =>
          cases failed.symm.trans same
          exact ⟨rfl, rfl⟩
      | unbuilt current _ _ _ _ loaded | failed current _ _ _ _ _ _ loaded => cases failed.symm.trans loaded
      | notLeft again _ stuck => cases stuck.symm.trans left
  | unbuilt current thrown after entered left loaded raised =>
      cases also with
      | notEntered again refused => cases refused.symm.trans entered
      | unloaded again _ _ failed => cases failed.symm.trans loaded
      | unbuilt current _ _ _ _ same second =>
          cases loaded.symm.trans same
          cases raised.symm.trans second
          exact ⟨rfl, rfl⟩
      | failed current _ _ _ _ _ _ same constructed _ =>
          cases loaded.symm.trans same
          cases raised.symm.trans constructed
      | notLeft again _ stuck => cases stuck.symm.trans left
  | failed current client built thrown after entered left loaded constructed raised =>
      cases also with
      | notEntered again refused => cases refused.symm.trans entered
      | unloaded again _ _ failed => cases failed.symm.trans loaded
      | unbuilt current _ _ _ _ same second =>
          cases loaded.symm.trans same
          cases constructed.symm.trans second
      | failed current _ _ _ _ _ _ same second third =>
          cases loaded.symm.trans same
          cases constructed.symm.trans second
          cases raised.symm.trans third
          exact ⟨rfl, rfl⟩
      | notLeft again _ stuck => cases stuck.symm.trans left
  | notLeft error entered stuck =>
      cases also with
      | notEntered again refused => cases refused.symm.trans entered
      | unloaded _ _ left | unbuilt _ _ _ _ left | failed _ _ _ _ _ _ left => cases stuck.symm.trans left
      | notLeft again _ same =>
          cases stuck.symm.trans same
          exact ⟨rfl, rfl⟩

end Courses

section Announced

-- The provider's exception is the cause of the UpstreamUnavailableError that
-- the upstream raises, and classify finds its metadata again.
theorem origin_classified (origin : Origin) (wall later : ℚ) :
    classify (ReadFailure.provider (origin.thrown wall).failure).exception later = origin.metadata wall := by
  cases origin with
  | token error =>
      cases error with
      | token | osError | typeError | valueError | overflowError | recursionError | foreign => rfl
  | construction thrown =>
      cases thrown with
      | manager | other => rfl
  | operation thrown =>
      cases thrown with
      | manager | other => rfl

theorem metadata_shown (response : Response V) (failure : Failure)
    (unavailable : failure.head.exceptionClass = .upstreamUnavailable) (range : InRange response)
    (shown : Shows response (.failed failure)) (metadata : FailureMetadata)
    (classified : ∀ wall, classify failure wall = metadata) :
    getTypedError response = some (metadataError metadata) := by
  have told := shown.error
  rw [Fate.error, failureError, unavailable, classified] at told
  have exactly : ∀ error, GatewayError.kind error = error → (∀ n, error ≠ .rateLimit n) →
      (getTypedError response).map GatewayError.kind = some error → getTypedError response = some error := by
    intro error _ unlimited same
    obtain ⟨own, here, kind⟩ := Option.map_eq_some_iff.mp same
    rw [here]
    cases own with
    | rateLimit n => exact absurd kind.symm (unlimited none)
    | _ => exact congrArg some kind
  cases cause : metadata.cause with
  | rateLimited =>
      have limited : failureError failure = .rateLimit none := by
        rw [failureError, unavailable, classified, cause]
      obtain ⟨message, wall, same⟩ := shown.limited failure rfl limited
      rw [limitedResponse, classified] at same
      rw [metadataError, cause]
      cases after : metadata.retryAfter with
      | none =>
          rw [same, after]
          rfl
      | some seconds =>
          rw [after, Option.map_some] at same
          rw [same] at range ⊢
          exact (in_range_announced message _ range).understood
  | connectTimeout =>
      rw [cause] at told
      rw [metadataError, cause]
      exact exactly _ rfl (fun n same => by cases same) told
  | schedulerTimeout =>
      rw [cause] at told
      rw [metadataError, cause]
      exact exactly _ rfl (fun n same => by cases same) told
  | other =>
      rw [cause] at told
      rw [metadataError, cause]
      exact exactly _ rfl (fun n same => by cases same) told

end Announced

-- A call of Schwab that raises ends in one error of the SDK, which tells whose
-- exception it was and, for a rate limit, the seconds that Schwab asked for:
-- through the transaction, the adapter, the upstream, the scheduler, the
-- answer and its header. The disk is as the transaction of the token manager
-- leaves it.
theorem schwab_failure_reaches_sdk (codec : Codec) (tokens : Token.Settings) (fault : Option Fault) (now : ℚ)
    (lock : LockCourse) (factory : Factory Client) (timeout : Option Timeout) (operation : Client → Code α)
    (wall : ℚ) (disk : Directory) (thrown : Thrown) (after : Scope)
    (ended : execute codec tokens fault now lock factory timeout operation wall disk = (.error thrown, after))
    (settings : Reads.Settings) (policy : AdmissionPolicy) (clock : ℚ) (started : 0 ≤ clock) (s : Reads.State V)
    (reachable : GenuinelyReachable settings policy clock s) (id job : Nat) (response : Response V)
    (answered : (s.reads id).stage = .answered response) (last : LastCall (s.reads id) job)
    (finished : (Scheduler.view s.scheduler job).FinishedInBudget
      (.error (ReadFailure.provider thrown.failure).exception)) :
    ∃ origin, Raises codec tokens fault now lock factory timeout operation wall disk origin after ∧
      (∀ other scope, Raises codec tokens fault now lock factory timeout operation wall disk other scope →
        other = origin ∧ scope = after) ∧
      getTypedError response = some (metadataError (origin.metadata wall)) ∧
      (lock.enter = .ok () → ∀ value,
        after.disk = (accessSection codec tokens fault now
            (operationOf value (runLocked factory timeout operation wall)) disk).disk ∧
          after.transitions = (accessSection codec tokens fault now
            (operationOf value (runLocked factory timeout operation wall)) disk).transitions) := by
  obtain ⟨origin, raises, same⟩ := execute_raises thrown after ended
  obtain ⟨invariant, timely⟩ := timely_reachable settings policy clock started s reachable
  have reached : Reachable settings policy clock s :=
    System.reaches_wider _ genuineEvents Set.univ (Set.subset_univ _) _ _ reachable
  obtain ⟨_, _, reasoned⟩ := reasoned_reachable settings policy clock s reached
  obtain ⟨fate, met, shown⟩ := fate_shown s invariant id (reasoned id) response answered
  have failed : Met s.scheduler (s.reads id) (.failed (ReadFailure.provider thrown.failure).exception) :=
    .called job _ last finished
  rw [met_unique s.scheduler invariant (s.reads id) _ fate failed met, ← same] at shown
  refine ⟨origin, raises, fun other scope also => raises_unique origin other after scope raises also, ?_, ?_⟩
  · exact metadata_shown response _ rfl (timely.answered id response answered) shown _ (origin_classified origin wall)
  · intro entered value
    have left := execute_scope codec tokens fault now factory timeout operation wall disk lock entered
    obtain ⟨leftDisk, made⟩ := locked_call_access codec tokens fault now factory timeout operation wall disk value
    rw [ended] at left
    dsimp only at left
    rw [left]
    exact ⟨leftDisk.symm, made.symm⟩

-- A client that reads the token, and a call of it that Schwab answers with 429.
def readingFactory : Factory PyValue where
  build := .ask .read (fun reply =>
    match reply with
    | .ok token => .returns token
    | .error error => .raises (.ofException error))
  setTimeout _ _ := .returns ()

def limitedOperation (_client : PyValue) : Code Nat :=
  .raises (.other ⟨⟨.other, none, some (.status 429 (some ⟨2, .digits 30⟩))⟩, []⟩)

def relayed : Failure := (operationFailed ⟨.rateLimited, some 30⟩).failure

def relayedEvents : List (Reads.Event Nat) :=
  [.begin "spot" .protected sampleMessages 0 0 0 0 0 0, .advance (.startLifecycle 0 0 0), .startOperation 0 0 0,
    .finishBuild 0 (.failure (.provider relayed)) 1 0 1, .advance (.wakeLifecycle 0 1),
    .resume 0 0 .first 1 1 0]

def relayedState : Reads.State Nat :=
  (gateway Nat Reads.sampleSettings).performAll (Reads.initial Scheduler.samplePolicy 0) relayedEvents

theorem relayed_genuine : Genuine (.provider relayed) := by
  intro error same raised member metadata carried
  cases same
  rw [List.mem_singleton.mp member] at carried
  cases carried
  refine .classified ⟨⟨.other, none, some (.status 429 (some ⟨2, .digits 30⟩))⟩, []⟩ 0 ?_
  intro raised member metadata carried
  rw [List.mem_singleton.mp member] at carried
  cases carried

theorem relayed_reachable : GenuinelyReachable Reads.sampleSettings Scheduler.samplePolicy 0 relayedState := by
  apply System.reaches_perform_all _ genuineEvents _ relayedEvents _ (by decide +kernel)
  intro event member
  simp only [relayedEvents, List.mem_cons, List.not_mem_nil, or_false] at member
  rcases member with rfl | rfl | rfl | rfl | rfl | rfl
  · trivial
  · trivial
  · trivial
  · exact relayed_genuine
  · trivial
  · trivial

theorem relayed_loaded :
    loadFromTransaction sampleCodec Token.sampleSettings 100 ⟨sampleFile 1, none⟩ = .ok (sampleToken 1) := by
  have loaded : sampleCodec.load (sampleContent 1) = .ok (sampleToken 1) := by simp [sampleCodec]
  have fits : ¬ (sampleContent 1).length > 1048576 := by decide +kernel
  have found : Token.read sampleCodec 1048576 ⟨sampleFile 1, none⟩ = .ok (sampleToken 1) := by
    simp [Token.read, sampleFile, loaded, fits]
  have valid := sample_valid 1 (by omega) (by decide +kernel)
  have lives : ¬ expiresAt 604800 (sampleToken 1) ≤ 100 := by decide +kernel
  simp [loadFromTransaction, Token.sampleSettings, found, valid, lives]

theorem relayed_execute :
    execute sampleCodec Token.sampleSettings none 100 ⟨.ok (), .ok ()⟩ readingFactory (some (.seconds (.finite 3)))
        limitedOperation 0 ⟨sampleFile 1, none⟩ =
      (.error (.other relayed), opened (sampleToken 1) ⟨sampleFile 1, none⟩) := by
  rw [execute]
  dsimp only
  rw [lockedCall, relayed_loaded]
  rfl

theorem schwab_failure_reaches_sdk_limited :
    ∃ response, (relayedState.reads 0).stage = .answered response ∧
      getTypedError response = some (.rateLimit (some 30)) := by
  have answered : (relayedState.reads 0).stage = .answered (rateLimitedResponse "unavailable" (some 30)) := by
    decide +kernel
  have last : LastCall (relayedState.reads 0) 0 := .inr ⟨by decide +kernel, by decide +kernel, by decide +kernel⟩
  refine ⟨_, answered, ?_⟩
  have finished : (Scheduler.view relayedState.scheduler 0).FinishedInBudget
      (.error (ReadFailure.provider (Thrown.other relayed).failure).exception) := by
    refine ⟨by decide +kernel, by decide +kernel, 0, 1, by decide +kernel, by decide +kernel, by decide +kernel⟩
  obtain ⟨origin, raises, unique, told, _⟩ := schwab_failure_reaches_sdk sampleCodec Token.sampleSettings none 100
    ⟨.ok (), .ok ()⟩ readingFactory (some (.seconds (.finite 3))) limitedOperation 0 ⟨sampleFile 1, none⟩
    (.other relayed) _ relayed_execute Reads.sampleSettings Scheduler.samplePolicy 0 (by norm_num) relayedState
    relayed_reachable 0 0 _ answered last finished
  have own : Raises sampleCodec Token.sampleSettings none 100 ⟨.ok (), .ok ()⟩ readingFactory
      (some (.seconds (.finite 3))) limitedOperation 0 ⟨sampleFile 1, none⟩
      (.operation (.other ⟨⟨.other, none, some (.status 429 (some ⟨2, .digits 30⟩))⟩, []⟩)) _ :=
    .failed (sampleToken 1) (sampleToken 1) _ _ _ rfl rfl relayed_loaded rfl rfl
  rw [← (unique _ _ own).1] at told
  exact told

end SchwabGateway.Provider
