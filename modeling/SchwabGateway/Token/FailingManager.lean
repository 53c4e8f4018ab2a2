import SchwabGateway.Token.FailingWrite

set_option autoImplicit false

namespace SchwabGateway.Token

open SchwabGateway.Python SchwabGateway.Library

structure World where
  disk : Directory
  health : Health

structure AtomicTokenManager where
  settings : Settings
  lockTimeout : ℚ
  nonnegative : 0 ≤ lockTimeout

section Code

variable (codec : Codec) (manager : AtomicTokenManager) (fails : Failures) (answers : LockAnswers) (now : ℚ)

def transition (health : Health) : Attempt Exception World Unit :=
  Attempt.update (fun world => { world with health := health })

def onDisk {α : Type} (body : Attempt Exception Directory α) : Attempt Exception World α :=
  body.focus World.disk (fun world disk => { world with disk := disk })

def loadCurrent (disk : Directory) : Except Exception PyValue := do
  let value ← readFailing codec manager.settings.maxTokenBytes fails disk
  let token ← (validateTokenDocument codec value).mapError .token
  if expiresAt manager.settings.refreshTokenTtl token ≤ now then .error (.token (.expired lifetimeExpired))
  else .ok token

def locked {α : Type} (body : Attempt Exception World α) : Attempt Exception World α := fun world =>
  let run := holdLock answers (.finite manager.lockTimeout) .exclusive body (.start world)
  (run.1, run.2.store)

def recordFailure (error : Exception) : Attempt Exception World PyValue :=
  match error with
  | .token failure => do
      transition (failureOutcome failure)
      Attempt.raising (.token failure)
  | other => Attempt.raising other

def load : Attempt Exception World PyValue := do
  let token ← (locked manager answers
    (Attempt.reading (fun world => loadCurrent codec manager fails now world.disk))).rescuing recordFailure
  transition tokenLoaded
  pure token

def callbackFailure (error : Exception) : Attempt Exception World PyValue :=
  match error with
  | .token .revoked => do
      transition upstreamRevoked
      Attempt.raising (.token .revoked)
  | .token .reauthorization => do
      transition manualReauthorization
      Attempt.raising (.token .reauthorization)
  | _ => do
      transition callbackError
      Attempt.raising (.token (.refresh callbackFailed))

def invalidResult (error : Exception) : Attempt Exception World PyValue :=
  match error with
  | .token (.corrupt _) => do
      transition invalidRefreshResult
      Attempt.raising (.token (.refresh callbackInvalid))
  | other => Attempt.raising other

-- The with block of refresh, up to its end.
def exchange (callback : RefreshCallback) (current : PyValue) : Attempt Exception World PyValue := do
  transition refreshStarted
  let value ← (Attempt.reading (fun _ => callback current)).rescuing callbackFailure
  let refreshed ←
    (Attempt.reading (fun _ => (validateTokenDocument codec value).mapError .token)).rescuing invalidResult
  onDisk (writeFailing codec fails refreshed)
  pure refreshed

def refreshBody (callback : RefreshCallback) : Attempt Exception World PyValue := do
  let current ← Attempt.reading (fun world => loadCurrent codec manager fails now world.disk)
  exchange codec fails callback current

def refreshFailure (error : Exception) : Attempt Exception World PyValue :=
  match error with
  | .token .revoked => Attempt.raising (.token .revoked)
  | .token .reauthorization => Attempt.raising (.token .reauthorization)
  | .token (.refresh message) => Attempt.raising (.token (.refresh message))
  | other => recordFailure other

def refresh (callback : RefreshCallback) : Attempt Exception World PyValue := do
  let refreshed ← (locked manager answers (refreshBody codec manager fails now callback)).rescuing refreshFailure
  transition refreshSucceeded
  pure refreshed

end Code

-- The state that belongs to an error: that of a refusal by upstream or of a
-- failed refresh, else the entry of _FAILURE_OUTCOMES.
def TokenError.state : TokenError → ManagerState
  | .revoked => .revoked
  | .reauthorization => .reauthorizationRequired
  | .refresh _ => .refreshFailed
  | other => (failureOutcome other).state

structure HealthAgrees (run : Except Exception PyValue × World) : Prop where
  settled : run.2.health.state ≠ .refreshing
  returned : ∀ token, run.1 = .ok token → run.2.health.state = .ready
  raised : ∀ error, run.1 = .error error → ∃ failure, error = .token failure ∧ run.2.health.state = failure.state

def TokenError.fromRefresh : TokenError → Bool
  | .revoked | .reauthorization | .refresh _ => true
  | _ => false

-- The kinds of exceptions that the store raises: none of the three that
-- refresh lets through as they are.
def FromStore (error : Exception) : Prop := ∀ failure, error = .token failure → failure.fromRefresh = false

theorem state_settled (failure : TokenError) : failure.state ≠ .refreshing := by
  cases failure with
  | missing | corrupt | expired | lockTimeout | persistence | refresh | callbackScope => nofun
  | revoked | reauthorization => nofun

theorem state_tabled (failure : TokenError) (stored : failure.fromRefresh = false) :
    (failureOutcome failure).state = failure.state := by
  cases failure with
  | missing | corrupt | expired | lockTimeout | persistence | callbackScope => rfl
  | revoked | reauthorization | refresh => cases stored

section Kinds

variable (codec : Codec) (manager : AtomicTokenManager) (fails : Failures) (now : ℚ)

theorem os_error_stored (errno : Nat) : FromStore (.osError errno) := nofun

theorem store_call_raises {σ : Type} (call : StoreCall) :
    Attempt.Raises FromStore (storeCall fails call : Attempt Exception σ Unit) := by
  intro before error raised
  cases answered : fails call with
  | none =>
      rw [store_call_answered fails call before answered] at raised
      cases raised
  | some errno =>
      rw [store_call_failed fails call before errno answered] at raised
      cases raised
      exact os_error_stored errno

theorem check_stat_stored (maxTokenBytes : Nat) (entry : Entry) (error : Exception)
    (refused : checkStat maxTokenBytes entry = .error error) : FromStore error := by
  cases entry with
  | regular mode content =>
      rw [checkStat] at refused
      split at refused
      · cases refused
        rintro failure ⟨⟩
        rfl
      · split at refused
        · cases refused
          rintro failure ⟨⟩
          rfl
        · cases refused
  | directory | special | symlink =>
      cases refused
      rintro failure ⟨⟩
      rfl

theorem decode_stored (content : Bytes) (error : Exception) (raised : decode codec content = .error error) :
    FromStore error := by
  rw [decode] at raised
  cases loaded : codec.load content with
  | ok value =>
      rw [loaded] at raised
      cases raised
  | error failure =>
      rw [loaded] at raised
      cases failure with
      | invalid | recursionError =>
          cases raised
          exact fun _ same => by cases same

theorem read_opened_stored (maxTokenBytes : Nat) (entry : Entry) :
    Attempt.Raises FromStore (readOpened codec maxTokenBytes fails entry) := by
  apply Attempt.raises_bind FromStore _ _ (store_call_raises fails .fstatToken)
  intro _
  apply Attempt.raises_bind FromStore _ _ (Attempt.raises_reading FromStore _ fun _ => check_stat_stored maxTokenBytes entry)
  intro content
  apply Attempt.raises_bind FromStore _ _ (store_call_raises fails .fdopenToken)
  intro _
  apply Attempt.raises_bind FromStore _ _ (Attempt.raises_update FromStore _)
  intro _
  apply Attempt.raises_ensuring FromStore _ _ _ (store_call_raises fails .closeTokenFile)
  apply Attempt.raises_bind FromStore _ _ (store_call_raises fails .readToken)
  intro _
  exact Attempt.raises_reading FromStore _ fun _ => decode_stored codec content

theorem read_failure_stored (error : Exception) (stored : FromStore error) : FromStore (readFailure error) := by
  cases error with
  | token failure => exact stored
  | osError | valueError =>
      rintro failure ⟨⟩
      rfl
  | typeError | overflowError | recursionError | foreign => exact nofun

theorem read_failing_stored (maxTokenBytes : Nat) (disk : Directory) (error : Exception)
    (raised : readFailing codec maxTokenBytes fails disk = .error error) : FromStore error := by
  have inspected : ∀ entry, Attempt.Raises FromStore (((readOpened codec maxTokenBytes fails entry).rescuing
      (fun error => Attempt.raising (readFailure error))).ensuring
        (Attempt.guarded id (storeCall fails .closeToken))) := by
    intro entry
    apply Attempt.raises_ensuring FromStore
    · apply Attempt.raises_rescuing FromStore _ FromStore _ (read_opened_stored codec fails maxTokenBytes entry)
      intro other stored
      exact Attempt.raises_raising FromStore _ (read_failure_stored other stored)
    · exact Attempt.raises_guarded FromStore _ _ (store_call_raises fails .closeToken)
  rw [readFailing] at raised
  cases opening : fails .openToken with
  | some errno =>
      rw [opening] at raised
      cases raised
      rintro failure ⟨⟩
      split <;> rfl
  | none =>
      rw [opening] at raised
      cases found : disk.token with
      | none =>
          rw [found] at raised
          cases raised
          rintro failure ⟨⟩
          rfl
      | some entry =>
          rw [found] at raised
          cases entry with
          | symlink =>
              cases raised
              rintro failure ⟨⟩
              rfl
          | regular mode content => exact inspected _ true error raised
          | directory => exact inspected _ true error raised
          | special => exact inspected _ true error raised

theorem load_current_stored (disk : Directory) (error : Exception)
    (raised : loadCurrent codec manager fails now disk = .error error) : FromStore error := by
  rw [loadCurrent] at raised
  cases reading : readFailing codec manager.settings.maxTokenBytes fails disk with
  | error failure =>
      rw [reading] at raised
      cases raised
      exact read_failing_stored codec fails _ disk error reading
  | ok value =>
      rw [reading] at raised
      cases valid : validateTokenDocument codec value with
      | error failure =>
          obtain ⟨message, rfl⟩ := validate_corrupt codec value failure valid
          simp only [bind, Except.bind, valid, Except.mapError] at raised
          cases raised
          rintro failure ⟨⟩
          rfl
      | ok token =>
          simp only [bind, Except.bind, valid, Except.mapError] at raised
          split at raised
          · cases raised
            rintro failure ⟨⟩
            rfl
          · cases raised

theorem reported_stored (error : Exception) (stored : FromStore error) : FromStore (reported error) := by
  cases error with
  | token failure => exact stored
  | osError | typeError | valueError =>
      rintro failure ⟨⟩
      rfl
  | overflowError | recursionError | foreign => exact nofun

theorem persist_call_raises (call : Call) (effect : Directory → Directory) :
    Attempt.Raises FromStore (persistCall fails call effect) :=
  Attempt.raises_bind FromStore _ _ (store_call_raises fails _) fun _ => Attempt.raises_update FromStore _

theorem dumped_stored (token : PyValue) (error : Exception) (raised : dumped codec token = .error error) :
    FromStore error := by
  rw [dumped] at raised
  cases dump : codec.dump token with
  | ok content =>
      rw [dump] at raised
      cases raised
  | error failure =>
      rw [dump] at raised
      cases failure with
      | typeError | valueError | recursionError =>
          cases raised
          exact fun _ same => by cases same

theorem create_temporary_raises : Attempt.Raises FromStore (createTemporary fails) := by
  apply Attempt.raises_bind FromStore _ _ (persist_call_raises fails _ _)
  intro _
  apply Attempt.raises_bind FromStore _ _ (Attempt.raises_update FromStore _)
  intro _
  apply Attempt.raises_bind FromStore _ _ (persist_call_raises fails _ _)
  intro _
  exact Attempt.raises_bind FromStore _ _ (persist_call_raises fails _ _) fun _ => Attempt.raises_update FromStore _

theorem fill_temporary_raises (token : PyValue) : Attempt.Raises FromStore (fillTemporary fails (dumped codec token)) := by
  apply Attempt.raises_ensuring FromStore _ _ _ (persist_call_raises fails _ _)
  apply Attempt.raises_bind FromStore _ _ (persist_call_raises fails _ _)
  intro _
  apply Attempt.raises_bind FromStore _ _ (Attempt.raises_reading FromStore _ fun _ => dumped_stored codec token)
  intro content
  apply Attempt.raises_bind FromStore _ _ (persist_call_raises fails _ _)
  intro _
  exact Attempt.raises_bind FromStore _ _ (persist_call_raises fails _ _) fun _ => persist_call_raises fails _ _

theorem replace_token_raises : Attempt.Raises FromStore (replaceToken fails) := by
  apply Attempt.raises_bind FromStore _ _ (persist_call_raises fails _ _)
  intro _ before error raised
  dsimp only at raised
  split at raised
  · cases raised
    exact nofun
  · cases raised

theorem sync_directory_raises : Attempt.Raises FromStore (syncDirectory fails) := by
  apply Attempt.raises_bind FromStore _ _ (persist_call_raises fails _ _)
  intro _
  apply Attempt.raises_ensuring FromStore _ _ _ (persist_call_raises fails _ _)
  apply Attempt.raises_rescuing FromStore _ FromStore _ (persist_call_raises fails _ _)
  intro error stored
  cases error with
  | osError errno =>
      intro before other raised
      rw [tolerating] at raised
      split at raised
      · cases raised
      · cases raised
        exact fun _ same => by cases same
  | token | typeError | valueError | overflowError | recursionError | foreign =>
      exact Attempt.raises_raising FromStore _ stored

theorem write_failing_stored (token : PyValue) (disk : Directory) (error : Exception)
    (raised : (writeFailing codec fails token disk).1 = .error error) : FromStore error := by
  have whole : Attempt.Raises FromStore (((persistToken fails (dumped codec token)).rescuing
      (fun error => Attempt.raising (reported error))).ensuring (cleanTemporary fails)) := by
    apply Attempt.raises_ensuring FromStore
    · apply Attempt.raises_rescuing FromStore _ FromStore
      · apply Attempt.raises_bind FromStore _ _ (create_temporary_raises fails)
        intro _
        apply Attempt.raises_bind FromStore _ _ (fill_temporary_raises codec fails token)
        intro _
        exact Attempt.raises_bind FromStore _ _ (replace_token_raises fails) fun _ => sync_directory_raises fails
      · intro other stored
        exact Attempt.raises_raising FromStore _ (reported_stored other stored)
    · apply Attempt.raises_bind FromStore _ _ (Attempt.raises_guarded FromStore _ _ (store_call_raises fails _))
      intro _
      apply Attempt.raises_guarded FromStore
      intro before other failed
      rw [unlinkTemporary] at failed
      split at failed
      · split at failed
        · cases failed
        · cases failed
          exact fun _ same => by cases same
      · cases failed
  exact whole _ error raised

end Kinds

end SchwabGateway.Token
