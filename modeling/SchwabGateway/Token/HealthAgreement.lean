import SchwabGateway.Token.Atomicity
import SchwabGateway.Token.FailingManager
import SchwabGateway.Token.LockRelease

set_option autoImplicit false

namespace SchwabGateway.Token

open SchwabGateway.Python SchwabGateway.Library

section Exchange

variable (codec : Codec) (fails : Failures) (callback : RefreshCallback) (current : PyValue) (world : World)

theorem exchange_refused (error : Exception) (raised : callback current = .error error) :
    ∃ failure health, exchange codec fails callback current world =
      (.error (.token failure), { world with health := health }) ∧ health.state = failure.state := by
  have handled : (Attempt.reading (fun _ : World => callback current)).rescuing callbackFailure
      { world with health := refreshStarted } = callbackFailure error { world with health := refreshStarted } :=
    Attempt.rescuing_raises _ _ _ _ _ (by rw [Attempt.reading, raised])
  have ended : ∃ failure health, callbackFailure error { world with health := refreshStarted } =
      (.error (.token failure), { world with health := health }) ∧ health.state = failure.state := by
    cases error with
    | token failure =>
        cases failure with
        | revoked | reauthorization => exact ⟨_, _, rfl, rfl⟩
        | missing | corrupt | expired | lockTimeout | persistence | refresh | callbackScope => exact ⟨_, _, rfl, rfl⟩
    | osError | typeError | valueError | overflowError | recursionError | foreign => exact ⟨_, _, rfl, rfl⟩
  obtain ⟨failure, health, run, agrees⟩ := ended
  refine ⟨failure, health, ?_, agrees⟩
  rw [exchange, transition, Attempt.bind_update, Attempt.bind_raises _ _ _ _ _ (handled.trans run)]

theorem exchange_invalid (value : PyValue) (error : TokenError) (returned : callback current = .ok value)
    (invalid : validateTokenDocument codec value = .error error) :
    exchange codec fails callback current world =
      (.error (.token (.refresh callbackInvalid)), { world with health := invalidRefreshResult }) := by
  obtain ⟨message, rfl⟩ := validate_corrupt codec value error invalid
  have called : (Attempt.reading (fun _ : World => callback current)).rescuing callbackFailure
      { world with health := refreshStarted } = (.ok value, { world with health := refreshStarted }) :=
    Attempt.rescuing_returns _ _ _ _ _ (by rw [Attempt.reading, returned])
  have refused : (Attempt.reading (fun _ : World => (validateTokenDocument codec value).mapError Exception.token)).rescuing
      invalidResult { world with health := refreshStarted } =
      (.error (.token (.refresh callbackInvalid)), { world with health := invalidRefreshResult }) :=
    Attempt.rescuing_raises _ _ _ (Exception.token (.corrupt message)) { world with health := refreshStarted } (by rw [Attempt.reading, invalid]; rfl)
  rw [exchange, transition, Attempt.bind_update, Attempt.bind_returns _ _ _ _ _ called,
    Attempt.bind_raises _ _ _ _ _ refused]

theorem exchange_written (value refreshed : PyValue) (returned : callback current = .ok value)
    (valid : validateTokenDocument codec value = .ok refreshed) :
    exchange codec fails callback current world =
      ((writeFailing codec fails refreshed world.disk).1.map (fun _ => refreshed),
        ⟨(writeFailing codec fails refreshed world.disk).2, refreshStarted⟩) := by
  have called : (Attempt.reading (fun _ : World => callback current)).rescuing callbackFailure
      { world with health := refreshStarted } = (.ok value, { world with health := refreshStarted }) :=
    Attempt.rescuing_returns _ _ _ _ _ (by rw [Attempt.reading, returned])
  have accepted : (Attempt.reading (fun _ : World => (validateTokenDocument codec value).mapError Exception.token)).rescuing
      invalidResult { world with health := refreshStarted } =
      (.ok refreshed, { world with health := refreshStarted }) :=
    Attempt.rescuing_returns _ _ _ _ _ (by rw [Attempt.reading, valid]; rfl)
  rw [exchange, transition, Attempt.bind_update, Attempt.bind_returns _ _ _ _ _ called,
    Attempt.bind_returns _ _ _ _ _ accepted, Attempt.bind_run]
  cases written : writeFailing codec fails refreshed world.disk with
  | mk result after =>
      have focused : onDisk (writeFailing codec fails refreshed) { world with health := refreshStarted } =
          (result, ⟨after, refreshStarted⟩) := by
        rw [onDisk, Attempt.focus, written]
      rw [focused]
      cases result with
      | ok done => rfl
      | error error => rfl

def exchangeLeaks (codec : Codec) (fails : Failures) (callback : RefreshCallback) (current : PyValue)
    (disk : Directory) : Bool :=
  match callback current with
  | .error _ => false
  | .ok value =>
      match validateTokenDocument codec value with
      | .error _ => false
      | .ok refreshed => writeLeaks codec fails refreshed disk

theorem exchange_uncaught :
    Uncaught Exception.isToken (exchange codec fails callback current world).1 ↔
      exchangeLeaks codec fails callback current world.disk = true := by
  rw [exchangeLeaks]
  cases returned : callback current with
  | error error =>
      obtain ⟨failure, health, run, _⟩ := exchange_refused codec fails callback current world error returned
      rw [run]
      simp [uncaught_error, Exception.isToken]
  | ok value =>
      cases valid : validateTokenDocument codec value with
      | error error =>
          rw [exchange_invalid codec fails callback current world value error returned valid]
          simp [uncaught_error, Exception.isToken, valid]
      | ok refreshed =>
          rw [exchange_written codec fails callback current world value refreshed returned valid]
          simp only [valid]
          rw [← write_failing_uncaught codec fails refreshed world.disk]
          cases (writeFailing codec fails refreshed world.disk).1 with
          | ok done => simp [Uncaught, Except.map]
          | error error => simp [Uncaught, Except.map]

def HealthLogged (result : Except Exception PyValue) (world : World) : Prop :=
  ∀ failure, result = .error (.token failure) → failure.fromRefresh = true → world.health.state = failure.state

theorem exchange_recorded :
    HealthLogged (exchange codec fails callback current world).1 (exchange codec fails callback current world).2 := by
  intro failure raised unstored
  cases returned : callback current with
  | error error =>
      obtain ⟨other, health, run, agrees⟩ := exchange_refused codec fails callback current world error returned
      rw [run] at raised ⊢
      cases raised
      exact agrees
  | ok value =>
      cases valid : validateTokenDocument codec value with
      | error error =>
          have run := exchange_invalid codec fails callback current world value error returned valid
          rw [run] at raised ⊢
          cases raised
          rfl
      | ok refreshed =>
          rw [exchange_written codec fails callback current world value refreshed returned valid] at raised
          cases written : (writeFailing codec fails refreshed world.disk).1 with
          | ok done =>
              rw [written] at raised
              cases raised
          | error error =>
              rw [written] at raised
              cases raised
              have stored := write_failing_stored codec fails refreshed world.disk _ written failure rfl
              rw [stored] at unstored
              cases unstored

end Exchange

section Health

variable (codec : Codec) (manager : AtomicTokenManager) (fails : Failures) (answers : LockAnswers) (now : ℚ)

theorem lock_error_recorded (error : Exception) (world : World) (own : error.fromLock = true) :
    HealthLogged (.error error) world := by
  rintro failure ⟨⟩ unstored
  cases failure with
  | persistence | lockTimeout => cases unstored
  | missing | corrupt | expired | refresh | callbackScope | revoked | reauthorization => cases own

theorem locked_recorded (body : Attempt Exception World PyValue) (world : World)
    (inner : HealthLogged (body world).1 (body world).2) :
    HealthLogged (locked manager answers body world).1 (locked manager answers body world).2 :=
  hold_lock_ends answers _ .exclusive body world HealthLogged lock_error_recorded inner

def loadLeaks (codec : Codec) (manager : AtomicTokenManager) (fails : Failures) (answers : LockAnswers)
    (disk : Directory) : Bool :=
  answers.leaks (.finite manager.lockTimeout) .exclusive ||
    (answers.enters .exclusive (.finite manager.lockTimeout) &&
      readLeaks codec manager.settings.maxTokenBytes fails disk)

theorem load_current_uncaught (disk : Directory) :
    Uncaught Exception.isToken (loadCurrent codec manager fails now disk) ↔
      readLeaks codec manager.settings.maxTokenBytes fails disk = true := by
  rw [loadCurrent, uncaught_bind_iff, read_failing_uncaught]
  refine or_iff_left ?_
  rintro ⟨value, _, error, raised, unnamed⟩
  cases valid : validateTokenDocument codec value with
  | error failure =>
      simp only [bind, Except.bind, valid, Except.mapError] at raised
      cases raised
      cases unnamed
  | ok token =>
      simp only [bind, Except.bind, valid, Except.mapError] at raised
      split at raised
      · cases raised
        cases unnamed
      · cases raised

theorem load_stored (world : World) (failure : TokenError)
    (raised : (locked manager answers
      (Attempt.reading (fun world => loadCurrent codec manager fails now world.disk)) world).1 =
        .error (.token failure)) : failure.fromRefresh = false := by
  have ends := hold_lock_ends answers (.finite manager.lockTimeout) .exclusive
    (Attempt.reading (fun world : World => loadCurrent codec manager fails now world.disk)) world
    (fun result _ => ∀ error, result = .error error → FromStore error)
    (by
      rintro error _ own other ⟨⟩ failure rfl
      cases failure with
      | persistence | lockTimeout => rfl
      | missing | corrupt | expired | refresh | callbackScope | revoked | reauthorization => cases own)
    (fun error other => load_current_stored codec manager fails now world.disk error other)
  exact ends _ raised failure rfl

-- A call ends well with what its body returns or with a TokenManagerError that
-- its handler has recorded, and badly with anything else.
theorem concluded_agrees_iff (body : Attempt Exception World PyValue)
    (handler : Exception → Attempt Exception World PyValue) (done : Health) (ready : done.state = .ready)
    (world : World) (named : ∀ failure, (body world).1 = .error (.token failure) → ∃ health,
      handler (.token failure) (body world).2 =
          (.error (.token failure), { (body world).2 with health := health }) ∧ health.state = failure.state)
    (unnamed : ∀ error after, error.isToken = false → handler error after = (.error error, after)) :
    HealthAgrees ((do
      let token ← body.rescuing handler
      transition done
      pure token : Attempt Exception World PyValue) world) ↔ ¬ Uncaught Exception.isToken (body world).1 := by
  rcases run : body world with ⟨result, after⟩
  rw [run] at named
  cases result with
  | ok token =>
      rw [Attempt.bind_returns _ _ _ _ _ (Attempt.rescuing_returns _ _ handler _ _ run)]
      refine ⟨fun _ => ok_not_uncaught _ _, fun _ => ⟨?_, fun _ _ => ready, nofun⟩⟩
      change done.state ≠ .refreshing
      rw [ready]
      exact nofun
  | error error =>
      have handled := Attempt.rescuing_raises _ _ handler _ _ run
      rw [uncaught_error, Bool.not_eq_false]
      cases kind : error.isToken with
      | true =>
          obtain ⟨failure, rfl⟩ : ∃ failure, error = .token failure := by
            cases error with
            | token failure => exact ⟨failure, rfl⟩
            | osError | typeError | valueError | overflowError | recursionError | foreign => cases kind
          obtain ⟨health, recorded, agrees⟩ := named failure rfl
          rw [Attempt.bind_raises _ _ _ _ _ (handled.trans recorded)]
          refine ⟨fun _ => rfl, fun _ => ⟨?_, nofun, ?_⟩⟩
          · change health.state ≠ .refreshing
            rw [agrees]
            exact state_settled failure
          · rintro other ⟨⟩
            exact ⟨failure, rfl, agrees⟩
      | false =>
          rw [Attempt.bind_raises _ _ _ _ _ (handled.trans (unnamed error after kind))]
          refine ⟨fun agrees => ?_, nofun⟩
          obtain ⟨failure, rfl, _⟩ := agrees.raised _ rfl
          cases kind

theorem record_failure_unnamed (error : Exception) (world : World) (unnamed : error.isToken = false) :
    recordFailure error world = (.error error, world) := by
  cases error with
  | token failure => cases unnamed
  | osError | typeError | valueError | overflowError | recursionError | foreign => rfl

theorem load_agrees_iff (world : World) :
    HealthAgrees (load codec manager fails answers now world) ↔
      loadLeaks codec manager fails answers world.disk = false := by
  have uncaught := hold_lock_uncaught answers (.finite manager.lockTimeout) .exclusive
    (Attempt.reading (fun world : World => loadCurrent codec manager fails now world.disk)) world
  have stored := load_stored codec manager fails answers now world
  have leaks : Uncaught Exception.isToken (locked manager answers
      (Attempt.reading (fun world => loadCurrent codec manager fails now world.disk)) world).1 ↔
      loadLeaks codec manager fails answers world.disk = true := by
    rw [loadLeaks, Bool.or_eq_true, Bool.and_eq_true, ← load_current_uncaught codec manager fails now world.disk]
    exact uncaught
  rw [← Bool.not_eq_true, ← leaks, load]
  apply concluded_agrees_iff _ recordFailure tokenLoaded rfl world
  · intro failure raised
    exact ⟨failureOutcome failure, rfl, state_tabled failure (stored failure raised)⟩
  · exact record_failure_unnamed

end Health

section Refreshing

variable (codec : Codec) (manager : AtomicTokenManager) (fails : Failures) (answers : LockAnswers) (now : ℚ)
  (callback : RefreshCallback)

theorem refresh_body_recorded (world : World) :
    HealthLogged (refreshBody codec manager fails now callback world).1
      (refreshBody codec manager fails now callback world).2 := by
  rw [refreshBody, Attempt.bind_run, Attempt.reading]
  cases loaded : loadCurrent codec manager fails now world.disk with
  | ok current => exact exchange_recorded codec fails callback current world
  | error error =>
      rintro failure ⟨⟩ unstored
      have stored := load_current_stored codec manager fails now world.disk _ loaded failure rfl
      rw [stored] at unstored
      cases unstored

def bodyLeaks (disk : Directory) : Bool :=
  readLeaks codec manager.settings.maxTokenBytes fails disk ||
    match loadCurrent codec manager fails now disk with
    | .ok current => exchangeLeaks codec fails callback current disk
    | .error _ => false

theorem refresh_body_uncaught (world : World) :
    Uncaught Exception.isToken (refreshBody codec manager fails now callback world).1 ↔
      bodyLeaks codec manager fails now callback world.disk = true := by
  rw [refreshBody, Attempt.bind_result, uncaught_bind_iff, bodyLeaks, Bool.or_eq_true,
    ← load_current_uncaught codec manager fails now world.disk]
  apply or_congr Iff.rfl
  rw [Attempt.reading]
  cases loadCurrent codec manager fails now world.disk with
  | error error => simp
  | ok current => simp [exchange_uncaught codec fails callback current world]

def refreshLeaks (disk : Directory) : Bool :=
  answers.leaks (.finite manager.lockTimeout) .exclusive ||
    (answers.enters .exclusive (.finite manager.lockTimeout) && bodyLeaks codec manager fails now callback disk)

theorem refresh_failure_recorded (failure : TokenError) (world : World)
    (recorded : failure.fromRefresh = true → world.health.state = failure.state) :
    ∃ health, refreshFailure (.token failure) world = (.error (.token failure), { world with health := health }) ∧
      health.state = failure.state := by
  cases failure with
  | revoked | reauthorization | refresh => exact ⟨world.health, rfl, recorded rfl⟩
  | missing | corrupt | expired | lockTimeout | persistence | callbackScope => exact ⟨_, rfl, rfl⟩

theorem refresh_failure_unnamed (error : Exception) (world : World) (unnamed : error.isToken = false) :
    refreshFailure error world = (.error error, world) := by
  cases error with
  | token failure => cases unnamed
  | osError | typeError | valueError | overflowError | recursionError | foreign => rfl

theorem refresh_agrees_iff (world : World) :
    HealthAgrees (refresh codec manager fails answers now callback world) ↔
      refreshLeaks codec manager fails answers now callback world.disk = false := by
  have uncaught := hold_lock_uncaught answers (.finite manager.lockTimeout) .exclusive
    (refreshBody codec manager fails now callback) world
  have recorded := locked_recorded manager answers (refreshBody codec manager fails now callback) world
    (refresh_body_recorded codec manager fails now callback world)
  have leaks : Uncaught Exception.isToken
      (locked manager answers (refreshBody codec manager fails now callback) world).1 ↔
      refreshLeaks codec manager fails answers now callback world.disk = true := by
    rw [refreshLeaks, Bool.or_eq_true, Bool.and_eq_true,
      ← refresh_body_uncaught codec manager fails now callback world]
    exact uncaught
  rw [← Bool.not_eq_true, ← leaks, refresh]
  apply concluded_agrees_iff _ refreshFailure refreshSucceeded rfl world
  · intro failure raised
    exact refresh_failure_recorded failure _ (recorded failure raised)
  · exact refresh_failure_unnamed

theorem health_agrees_iff (world : World) :
    (HealthAgrees (load codec manager fails answers now world) ↔
      loadLeaks codec manager fails answers world.disk = false) ∧
    (HealthAgrees (refresh codec manager fails answers now callback world) ↔
      refreshLeaks codec manager fails answers now callback world.disk = false) :=
  ⟨load_agrees_iff codec manager fails answers now world,
    refresh_agrees_iff codec manager fails answers now callback world⟩

end Refreshing

def sampleManager : AtomicTokenManager := ⟨⟨604800, 1048576⟩, 10, by decide⟩

def sampleWorld : World := ⟨⟨sampleFile 1, none⟩, tokenLoaded⟩

theorem sample_loaded :
    loadCurrent sampleCodec sampleManager (.only none) 100 sampleWorld.disk = .ok (sampleToken 1) := by
  have loaded : sampleCodec.load (sampleContent 1) = .ok (sampleToken 1) := by simp [sampleCodec]
  have fits : ¬ (sampleContent 1).length > 1048576 := by decide +kernel
  have found : read sampleCodec 1048576 ⟨sampleFile 1, none⟩ = .ok (sampleToken 1) := by
    simp [read, sampleFile, loaded, fits]
  have valid := sample_valid 1 (by omega) (by decide +kernel)
  have lives : ¬ expiresAt 604800 (sampleToken 1) ≤ 100 := by decide +kernel
  rw [loadCurrent, read_failing_only]
  simp [sampleManager, sampleWorld, found, bind, Except.bind, valid, Except.mapError, lives]

-- The refresh itself succeeds, then the unlocking fails with EIO: health stays
-- REFRESHING and an OSError is raised.
theorem refresh_stuck_after_failed_unlock :
    let run := refresh sampleCodec sampleManager (.only none) unlockingFails 100 (fun _ => .ok (sampleToken 2)) sampleWorld
    run.2.health = refreshStarted ∧ run.2.disk = ⟨sampleFile 2, none⟩ ∧ ¬ HealthAgrees run := by
  intro run
  have valid := sample_valid 2 (by omega) (by decide +kernel)
  have body : refreshBody sampleCodec sampleManager (.only none) 100 (fun _ => .ok (sampleToken 2)) sampleWorld =
      (.ok (sampleToken 2), ⟨⟨sampleFile 2, none⟩, refreshStarted⟩) := by
    rw [refreshBody, Attempt.bind_reading
        (fun world => loadCurrent sampleCodec sampleManager (.only none) 100 world.disk) _ sampleWorld _ sample_loaded,
      exchange_written sampleCodec _ (fun _ => .ok (sampleToken 2)) _ _ (sampleToken 2) (sampleToken 2) rfl valid]
    have written := write_failing_only sampleCodec none (sampleToken 2) (sampleFile 1) nofun
    change ((writeFailing sampleCodec (.only none) (sampleToken 2) ⟨sampleFile 1, none⟩).1.map _,
      (⟨(writeFailing sampleCodec (.only none) (sampleToken 2) ⟨sampleFile 1, none⟩).2, refreshStarted⟩ : World)) = _
    rw [written]
    rfl
  obtain ⟨errno, after, exit, left⟩ := hold_lock_failed_exit unlockingFails (.finite sampleManager.lockTimeout) .exclusive
    (refreshBody sampleCodec sampleManager (.only none) 100 (fun _ => .ok (sampleToken 2))) sampleWorld
    (by decide +kernel) (by decide +kernel)
  have whole : run = (.error (.osError errno), ⟨⟨sampleFile 2, none⟩, refreshStarted⟩) := by
    have stuck : locked sampleManager unlockingFails
        (refreshBody sampleCodec sampleManager (.only none) 100 (fun _ => .ok (sampleToken 2))) sampleWorld =
        (.error (.osError errno), ⟨⟨sampleFile 2, none⟩, refreshStarted⟩) := by
      rw [locked, exit, left, body]
    exact Attempt.bind_raises _ _ _ _ _ (Attempt.rescuing_raises _ _ refreshFailure _ _ stuck)
  rw [whole]
  refine ⟨rfl, rfl, fun agrees => ?_⟩
  obtain ⟨failure, ⟨⟩, _⟩ := agrees.raised _ rfl

end SchwabGateway.Token
