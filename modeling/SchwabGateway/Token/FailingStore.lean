import SchwabGateway.Token.HoldLock
import SchwabGateway.Token.Manager

set_option autoImplicit false

namespace SchwabGateway.Token

open SchwabGateway.Python SchwabGateway.Library

-- The system calls of a transaction: those of a read, those a write makes on
-- its way, and what its finally block calls.
inductive StoreCall where
  | openToken
  | fstatToken
  | fdopenToken
  | readToken
  | closeTokenFile
  | closeToken
  | persist (call : Call)
  | closeTemporary
  | unlinkTemporary
deriving DecidableEq

-- Any number of calls can fail, each with an errno of its own.
abbrev Failures := StoreCall → Option Nat

def Failures.only (fault : Option Fault) : Failures
  | .persist call =>
      match fault with
      | some failing => if failing.call = call then some failing.errno else none
      | none => none
  | _ => none

-- The transaction with its descriptors: token_fd in a read, temporary_fd and
-- temporary_path in a write.
structure Writing where
  disk : Directory
  temporaryFd : Bool
  temporaryPath : Bool
deriving DecidableEq

def Writing.start (disk : Directory) : Writing := ⟨disk, false, false⟩

section Code

variable (codec : Codec) (maxTokenBytes : Nat) (fails : Failures)

def storeCall {σ : Type} (call : StoreCall) : Attempt Exception σ Unit :=
  match fails call with
  | some errno => Attempt.raising (.osError errno)
  | none => pure ()

def checkStat : Entry → Except Exception Bytes
  | .regular mode content =>
      if mode ≠ ownerOnly then .error (.token (.corrupt documentPermissions))
      else if content.length > maxTokenBytes then .error (.token (.corrupt documentTooLarge))
      else .ok content
  | _ => .error (.token (.corrupt documentNotRegular))

def decode (content : Bytes) : Except Exception PyValue :=
  match codec.load content with
  | .ok value => .ok value
  | .error .invalid => .error .valueError
  | .error .recursionError => .error .recursionError

-- The try block of read. The with block owns the descriptor from fdopen on.
def readOpened (entry : Entry) : Attempt Exception Bool PyValue := do
  storeCall fails .fstatToken
  let content ← Attempt.reading (fun _ => checkStat maxTokenBytes entry)
  storeCall fails .fdopenToken
  Attempt.update (fun _ => false)
  Attempt.ensuring (do
    storeCall fails .readToken
    Attempt.reading (fun _ => decode codec content)) (storeCall fails .closeTokenFile)

-- The except clauses of read.
def readFailure : Exception → Exception
  | .osError _ => .token (.corrupt documentNotJson)
  | .valueError => .token (.corrupt documentNotJson)
  | other => other

-- read, where any of its calls can fail. ENOENT is 2.
def readFailing (disk : Directory) : Except Exception PyValue :=
  match fails .openToken with
  | some errno =>
      .error (.token (if errno = 2 then .missing documentMissing else .corrupt documentUnsafe))
  | none =>
      match disk.token with
      | none => .error (.token (.missing documentMissing))
      | some .symlink => .error (.token (.corrupt documentUnsafe))
      | some entry =>
          (((readOpened codec maxTokenBytes fails entry).rescuing
              (fun error => Attempt.raising (readFailure error))).ensuring
            (Attempt.guarded id (storeCall fails .closeToken)) true).1

def persistCall (call : Call) (effect : Directory → Directory) : Attempt Exception Writing Unit := do
  storeCall fails (.persist call)
  Attempt.update (fun writing => { writing with disk := effect writing.disk })

def createTemporary : Attempt Exception Writing Unit := do
  persistCall fails .mkstemp (Directory.withTemporary [])
  Attempt.update (fun writing => { writing with temporaryFd := true, temporaryPath := true })
  persistCall fails .fchmod id
  persistCall fails .fdopen id
  Attempt.update (fun writing => { writing with temporaryFd := false })

def dumped (token : PyValue) : Except Exception Bytes := (codec.dump token).mapError raisedBy

-- The with block of write: the file is closed on both ways out.
def fillTemporary (dumped : Except Exception Bytes) : Attempt Exception Writing Unit :=
  Attempt.ensuring (do
    persistCall fails .serialization id
    let content ← Attempt.reading (fun _ => dumped)
    persistCall fails .write (Directory.withTemporary content)
    persistCall fails .flush id
    persistCall fails .fileFsync id) (persistCall fails .fileClose id)

def replaceToken : Attempt Exception Writing Unit := do
  persistCall fails .replace id
  fun writing =>
    match writing.disk.token with
    | some .directory => (.error (.osError 21), writing)
    | _ => (.ok (), { writing with disk := ⟨writing.disk.temporary, none⟩, temporaryPath := false })

def tolerating (error : Exception) : Attempt Exception Writing Unit :=
  match error with
  | .osError errno => if errno ∈ toleratedErrnos then pure () else Attempt.raising (.osError errno)
  | other => Attempt.raising other

def syncDirectory : Attempt Exception Writing Unit := do
  persistCall fails .directoryOpen id
  ((persistCall fails .directoryFsync id).rescuing tolerating).ensuring (persistCall fails .directoryClose id)

def persistToken (dumped : Except Exception Bytes) : Attempt Exception Writing Unit := do
  createTemporary fails
  fillTemporary fails dumped
  replaceToken fails
  syncDirectory fails

def unlinkTemporary : Attempt Exception Writing Unit := fun writing =>
  match fails .unlinkTemporary with
  | some errno =>
      if errno = 2 then (.ok (), { writing with disk.temporary := none })
      else (.error (.osError errno), writing)
  | none => (.ok (), { writing with disk.temporary := none })

-- The finally block of write.
def cleanTemporary : Attempt Exception Writing Unit := do
  Attempt.guarded Writing.temporaryFd (storeCall fails .closeTemporary)
  Attempt.guarded Writing.temporaryPath (unlinkTemporary fails)

-- write, where any of its calls can fail, of what the serializer makes.
def writeText (dumped : Except Exception Bytes) : Attempt Exception Directory Unit := fun disk =>
  let run := ((persistToken fails dumped).rescuing (fun error => Attempt.raising (reported error))).ensuring
    (cleanTemporary fails) (.start disk)
  (run.1, run.2.disk)

def writeFailing (token : PyValue) : Attempt Exception Directory Unit := writeText fails (dumped codec token)

end Code

def takenOver (maxTokenBytes : Nat) (fails : Failures) (entry : Entry) : Option Bytes :=
  match fails .fstatToken, checkStat maxTokenBytes entry, fails .fdopenToken with
  | none, .ok content, none => some content
  | _, _, _ => none

def beyondRecursion : Except LoadError PyValue → Bool
  | .error .recursionError => true
  | _ => false

def unreadable : Except LoadError PyValue → Bool
  | .error .invalid => true
  | _ => false

section Reads

variable (codec : Codec) (maxTokenBytes : Nat) (fails : Failures)

theorem store_call_answered {σ : Type} (call : StoreCall) (before : σ) (answered : fails call = none) :
    storeCall fails call before = (.ok (), before) := by
  rw [storeCall, answered]
  rfl

theorem store_call_failed {σ : Type} (call : StoreCall) (before : σ) (errno : Nat)
    (failed : fails call = some errno) : storeCall fails call before = (.error (.osError errno), before) := by
  rw [storeCall, failed]
  rfl

theorem check_stat_token (entry : Entry) (error : Exception)
    (refused : checkStat maxTokenBytes entry = .error error) : error.isToken = true := by
  cases entry with
  | regular mode content =>
      rw [checkStat] at refused
      by_cases owner : mode ≠ ownerOnly
      · rw [if_pos owner] at refused
        cases refused
        rfl
      · rw [if_neg owner] at refused
        by_cases large : content.length > maxTokenBytes
        · rw [if_pos large] at refused
          cases refused
          rfl
        · rw [if_neg large] at refused
          cases refused
  | directory | special | symlink =>
      cases refused
      rfl

theorem read_failure_token (error : Exception) (named : error.isToken = true) :
    (readFailure error).isToken = true := by
  cases error with
  | token error => rfl
  | osError errno | typeError | valueError | overflowError | recursionError | foreign => cases named

theorem store_call_still {σ : Type} (call : StoreCall) :
    Attempt.Keeps id (storeCall fails call : Attempt Exception σ Unit) := by
  intro before
  cases answered : fails call with
  | none => rw [store_call_answered fails call before answered]
  | some errno => rw [store_call_failed fails call before errno answered]

theorem read_opened_refused (entry : Entry) (refused : takenOver maxTokenBytes fails entry = none) :
    ∃ error, readOpened codec maxTokenBytes fails entry true = (.error error, true) ∧
      (readFailure error).isToken = true := by
  rw [readOpened]
  cases stat : fails .fstatToken with
  | some errno => exact ⟨_, Attempt.bind_raises _ _ _ _ _ (store_call_failed fails _ true errno stat), rfl⟩
  | none =>
      rw [Attempt.bind_returns _ _ _ _ _ (store_call_answered fails _ true stat)]
      cases checked : checkStat maxTokenBytes entry with
      | error error =>
          have named := read_failure_token error (check_stat_token maxTokenBytes entry error checked)
          exact ⟨error, rfl, named⟩
      | ok content =>
          rw [Attempt.bind_reading (fun _ => .ok content) _ true content rfl]
          cases opened : fails .fdopenToken with
          | some errno => exact ⟨_, Attempt.bind_raises _ _ _ _ _ (store_call_failed fails _ true errno opened), rfl⟩
          | none => simp [takenOver, stat, checked, opened] at refused

theorem read_opened_taken (entry : Entry) (content : Bytes)
    (taken : takenOver maxTokenBytes fails entry = some content) :
    readOpened codec maxTokenBytes fails entry true =
      Attempt.ensuring (do
        storeCall fails .readToken
        Attempt.reading (fun _ => decode codec content)) (storeCall fails .closeTokenFile) false := by
  rw [readOpened]
  cases stat : fails .fstatToken with
  | some errno => simp [takenOver, stat] at taken
  | none =>
      rw [Attempt.bind_returns _ _ _ _ _ (store_call_answered fails _ true stat)]
      cases checked : checkStat maxTokenBytes entry with
      | error error => simp [takenOver, stat, checked] at taken
      | ok read =>
          rw [Attempt.bind_reading (fun _ => .ok read) _ true read rfl]
          cases opened : fails .fdopenToken with
          | some errno => simp [takenOver, stat, checked, opened] at taken
          | none =>
              simp only [takenOver, stat, checked, opened, Option.some.injEq] at taken
              rw [Attempt.bind_returns _ _ _ _ _ (store_call_answered fails _ true opened), Attempt.bind_update, taken]

-- What the except clauses of read have a name for.
def readNames (error : Exception) : Bool := (readFailure error).isToken

theorem store_call_runs {σ : Type} (names : Exception → Bool) (call : StoreCall)
    (named : ∀ errno, names (.osError errno) = true) :
    Attempt.Runs names false (fails call).isSome (storeCall fails call : Attempt Exception σ Unit) := by
  intro before
  cases answered : fails call with
  | some errno =>
      rw [store_call_failed fails call before errno answered]
      exact courses_refused _ (named errno)
  | none =>
      rw [store_call_answered fails call before answered]
      exact courses_ok ()

theorem decode_courses (content : Bytes) :
    Courses readNames (beyondRecursion (codec.load content)) (unreadable (codec.load content))
      (decode codec content) := by
  rw [decode]
  cases codec.load content with
  | ok value => exact courses_ok value
  | error failure =>
      cases failure with
      | invalid => exact courses_refused _ rfl
      | recursionError => exact courses_uncaught false _ rfl

-- The file is closed on both ways out of the with block, so that a failing
-- close hides a recursion error.
def contentLeaks (content : Bytes) : Bool :=
  (fails .closeTokenFile).isNone && (fails .readToken).isNone && beyondRecursion (codec.load content)

theorem read_taken_uncaught (content : Bytes) (before : Bool) :
    Uncaught readNames (Attempt.ensuring (do
        storeCall fails .readToken
        Attempt.reading (fun _ => decode codec content)) (storeCall fails .closeTokenFile) before).1 ↔
      contentLeaks codec fails content = true := by
  have loaded := Attempt.runs_bind _ _ _ _ _ _ _ (store_call_runs (σ := Bool) fails readNames .readToken fun _ => rfl)
    fun _ => Attempt.runs_reading _ _ _ _ (decode_courses codec content)
  have whole := Attempt.runs_ensuring _ _ _ _ _ _ _ (store_call_runs fails readNames .closeTokenFile fun _ => rfl) loaded
  refine (whole before).uncaught.trans ?_
  simp [contentLeaks, Bool.and_assoc]

def readLeaks (disk : Directory) : Bool :=
  match fails .openToken, disk.token with
  | some _, _ => false
  | none, none => false
  | none, some .symlink => false
  | none, some entry =>
      match takenOver maxTokenBytes fails entry with
      | some content => contentLeaks codec fails content
      | none => (fails .closeToken).isSome

theorem read_opened_uncaught (entry : Entry) :
    Uncaught Exception.isToken (((readOpened codec maxTokenBytes fails entry).rescuing
        (fun error => Attempt.raising (readFailure error))).ensuring
      (Attempt.guarded id (storeCall fails .closeToken)) true).1 ↔
      (match takenOver maxTokenBytes fails entry with
        | some content => contentLeaks codec fails content
        | none => (fails .closeToken).isSome) = true := by
  rw [Attempt.ensuring_result, Attempt.rescuing_map]
  cases taken : takenOver maxTokenBytes fails entry with
  | none =>
      obtain ⟨error, refused, named⟩ := read_opened_refused codec maxTokenBytes fails entry taken
      rw [refused, Attempt.guarded_passes _ _ _ rfl]
      cases closing : fails .closeToken with
      | none =>
          rw [store_call_answered fails _ true closing]
          simp [Except.mapError, uncaught_error, bind, Except.bind, named]
      | some errno =>
          rw [store_call_failed fails _ true errno closing]
          simp [uncaught_error, bind, Except.bind, Exception.isToken]
  | some content =>
      rw [read_opened_taken codec maxTokenBytes fails entry content taken]
      have closed : (Attempt.ensuring (do
          storeCall fails .readToken
          Attempt.reading (fun _ => decode codec content)) (storeCall fails .closeTokenFile) false).2 = false :=
        Attempt.keeps_ensuring id _ (Attempt.keeps_bind id _ (store_call_still fails _) _ fun _ =>
          Attempt.keeps_reading id _) _ (store_call_still fails _) false
      rw [Attempt.guarded_skips id _ _ closed]
      change Uncaught Exception.isToken ((Attempt.ensuring _ _ false).1.mapError readFailure) ↔ _
      rw [uncaught_map_error]
      exact read_taken_uncaught codec fails content false

theorem read_failing_uncaught (disk : Directory) :
    Uncaught Exception.isToken (readFailing codec maxTokenBytes fails disk) ↔
      readLeaks codec maxTokenBytes fails disk = true := by
  rw [readFailing, readLeaks]
  cases fails .openToken with
  | some errno => simp [uncaught_error, Exception.isToken]
  | none =>
      cases disk.token with
      | none => simp [uncaught_error, Exception.isToken]
      | some entry =>
          cases entry with
          | symlink => simp [uncaught_error, Exception.isToken]
          | regular mode content => exact read_opened_uncaught codec maxTokenBytes fails _
          | directory => exact read_opened_uncaught codec maxTokenBytes fails _
          | special => exact read_opened_uncaught codec maxTokenBytes fails _

end Reads

theorem read_failing_only (codec : Codec) (maxTokenBytes : Nat) (fault : Option Fault) (disk : Directory) :
    readFailing codec maxTokenBytes (.only fault) disk = read codec maxTokenBytes disk := by
  rw [readFailing, read]
  simp only [Failures.only]
  cases disk.token with
  | none => rfl
  | some entry =>
      cases entry with
      | symlink | directory | special => rfl
      | regular mode content =>
          dsimp only
          by_cases owner : mode ≠ ownerOnly
          · have checked : checkStat maxTokenBytes (.regular mode content) =
                .error (.token (.corrupt documentPermissions)) := if_pos owner
            rw [if_pos owner, readOpened, checked]
            rfl
          · rw [if_neg owner]
            by_cases large : content.length > maxTokenBytes
            · have checked : checkStat maxTokenBytes (.regular mode content) =
                  .error (.token (.corrupt documentTooLarge)) := by rw [checkStat, if_neg owner, if_pos large]
              rw [if_pos large, readOpened, checked]
              rfl
            · have taken : takenOver maxTokenBytes (.only fault) (.regular mode content) = some content := by
                simp only [takenOver, checkStat, Failures.only, if_neg owner, if_neg large]
              rw [if_neg large, Attempt.ensuring, Attempt.rescuing_map,
                read_opened_taken codec maxTokenBytes (.only fault) _ content taken]
              change ((decode codec content).mapError readFailure) = _
              rw [decode]
              cases codec.load content with
              | ok value => rfl
              | error error =>
                  cases error with
                  | invalid | recursionError => rfl

end SchwabGateway.Token
