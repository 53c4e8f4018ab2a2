import SchwabGateway.Token.FailingStore

set_option autoImplicit false

namespace SchwabGateway.Token

open SchwabGateway.Python SchwabGateway.Library

def tooDeep : Except DumpError Bytes → Bool
  | .error .recursionError => true
  | _ => false

def undumpable : Except DumpError Bytes → Bool
  | .error .typeError => true
  | .error .valueError => true
  | _ => false

def Failures.fails (failures : Failures) (call : Call) : Bool := (failures (.persist call)).isSome

def temporaryOpen (fails : Failures) : Bool :=
  !fails.fails .mkstemp && (fails.fails .fchmod || fails.fails .fdopen)

-- The with block is left by a recursion error: a failing close would hide it.
def dumpLeaks (codec : Codec) (fails : Failures) (token : PyValue) : Bool :=
  !fails.fails .fileClose && (!fails.fails .serialization && tooDeep (codec.dump token))

def fillStops (codec : Codec) (fails : Failures) (token : PyValue) : Bool :=
  fails.fails .fileClose || (fails.fails .serialization || (undumpable (codec.dump token) ||
    (fails.fails .write || (fails.fails .flush || fails.fails .fileFsync))))

def replaceStops (fails : Failures) (disk : Directory) : Bool :=
  fails.fails .replace || disk.token = some .directory

def temporaryLeft (codec : Codec) (fails : Failures) (token : PyValue) (disk : Directory) : Bool :=
  !fails.fails .mkstemp && ((fails.fails .fchmod || fails.fails .fdopen) || (dumpLeaks codec fails token ||
    (fillStops codec fails token || replaceStops fails disk)))

def persistLeaks (codec : Codec) (fails : Failures) (token : PyValue) : Bool :=
  !fails.fails .mkstemp && (!(fails.fails .fchmod || fails.fails .fdopen) && dumpLeaks codec fails token)

-- What _fsync_directory raises, apart from what it tolerates.
def untolerated (fails : Failures) : Bool :=
  match fails (.persist .directoryFsync) with
  | some errno => errno ∉ toleratedErrnos
  | none => false

def syncStops (fails : Failures) : Bool :=
  fails.fails .directoryOpen || (fails.fails .directoryClose || untolerated fails)

def unlinkFails (fails : Failures) : Bool :=
  match fails .unlinkTemporary with
  | some errno => errno ≠ 2
  | none => false

def writeNames (error : Exception) : Bool := (reported error).isToken

section Writes

variable (codec : Codec) (fails : Failures) (token : PyValue) (writing : Writing)

theorem persist_call_answered (call : Call) (effect : Directory → Directory)
    (answered : fails.fails call = false) :
    persistCall fails call effect writing = (.ok (), { writing with disk := effect writing.disk }) := by
  have none : fails (.persist call) = none := by simpa [Failures.fails] using answered
  rw [persistCall, Attempt.bind_returns _ _ _ _ _ (store_call_answered fails _ writing none)]
  rfl

theorem persist_call_failed (call : Call) (effect : Directory → Directory)
    (failed : fails.fails call = true) :
    ∃ errno, persistCall fails call effect writing = (.error (.osError errno), writing) := by
  obtain ⟨errno, some⟩ := Option.isSome_iff_exists.mp failed
  exact ⟨errno, by rw [persistCall, Attempt.bind_raises _ _ _ _ _ (store_call_failed fails _ writing errno some)]⟩

theorem persist_call_runs (call : Call) (effect : Directory → Directory) :
    Attempt.Runs writeNames false (fails.fails call) (persistCall fails call effect) := by
  intro before
  cases answered : fails.fails call with
  | false =>
      rw [persist_call_answered fails before call effect answered]
      exact courses_ok ()
  | true =>
      obtain ⟨errno, failed⟩ := persist_call_failed fails before call effect answered
      rw [failed]
      exact courses_refused _ rfl

theorem create_temporary_run :
    (fails.fails .mkstemp = true ∧ ∃ errno, createTemporary fails writing = (.error (.osError errno), writing)) ∨
    (fails.fails .mkstemp = false ∧ (fails.fails .fchmod || fails.fails .fdopen) = true ∧
      ∃ errno, createTemporary fails writing =
        (.error (.osError errno), ⟨writing.disk.withTemporary [], true, true⟩)) ∨
    (fails.fails .mkstemp = false ∧ (fails.fails .fchmod || fails.fails .fdopen) = false ∧
      createTemporary fails writing = (.ok (), ⟨writing.disk.withTemporary [], false, true⟩)) := by
  cases made : fails.fails .mkstemp with
  | true =>
      obtain ⟨errno, failed⟩ := persist_call_failed fails writing .mkstemp (Directory.withTemporary []) made
      exact .inl ⟨rfl, errno, Attempt.bind_raises _ _ _ _ _ failed⟩
  | false =>
      right
      rw [createTemporary, Attempt.bind_returns _ _ _ _ _ (persist_call_answered fails writing .mkstemp _ made),
        Attempt.bind_update]
      cases moded : fails.fails .fchmod with
      | true =>
          obtain ⟨errno, failed⟩ := persist_call_failed fails ⟨writing.disk.withTemporary [], true, true⟩ .fchmod id moded
          exact .inl ⟨rfl, rfl, errno, Attempt.bind_raises _ _ _ _ _ failed⟩
      | false =>
          rw [Attempt.bind_returns _ _ _ _ _ (persist_call_answered fails _ .fchmod _ moded)]
          cases opened : fails.fails .fdopen with
          | true =>
              obtain ⟨errno, failed⟩ :=
                persist_call_failed fails ⟨writing.disk.withTemporary [], true, true⟩ .fdopen id opened
              exact .inl ⟨rfl, rfl, errno, Attempt.bind_raises _ _ _ _ _ failed⟩
          | false =>
              rw [Attempt.bind_returns _ _ _ _ _ (persist_call_answered fails _ .fdopen _ opened)]
              exact .inr ⟨rfl, rfl, rfl⟩

def Writing.outline (writing : Writing) : Bool × Bool × Option Entry :=
  (writing.temporaryFd, writing.temporaryPath, writing.disk.token)

theorem persist_call_keeps (call : Call) (effect : Directory → Directory)
    (temporary : ∀ disk, (effect disk).token = disk.token) :
    Attempt.Keeps Writing.outline (persistCall fails call effect) := by
  intro before
  cases answered : fails.fails call with
  | false =>
      rw [persist_call_answered fails before call effect answered]
      simp only [Writing.outline, temporary]
  | true =>
      obtain ⟨errno, failed⟩ := persist_call_failed fails before call effect answered
      rw [failed]

theorem fill_temporary_keeps : Attempt.Keeps Writing.outline (fillTemporary fails (dumped codec token)) := by
  apply Attempt.keeps_ensuring
  · apply Attempt.keeps_bind _ _ (persist_call_keeps fails .serialization id fun _ => rfl)
    intro _
    apply Attempt.keeps_bind _ _ (Attempt.keeps_reading _ _)
    intro content
    apply Attempt.keeps_bind _ _ (persist_call_keeps fails .write (Directory.withTemporary content) fun _ => rfl)
    intro _
    apply Attempt.keeps_bind _ _ (persist_call_keeps fails .flush id fun _ => rfl)
    intro _
    exact persist_call_keeps fails .fileFsync id fun _ => rfl
  · exact persist_call_keeps fails .fileClose id fun _ => rfl

theorem dumped_courses :
    Courses writeNames (tooDeep (codec.dump token)) (undumpable (codec.dump token)) (dumped codec token) := by
  rw [dumped]
  cases codec.dump token with
  | ok content => exact courses_ok content
  | error error =>
      cases error with
      | typeError | valueError => exact courses_refused _ rfl
      | recursionError => exact courses_uncaught false _ rfl

theorem fill_temporary_runs :
    Attempt.Runs writeNames (dumpLeaks codec fails token) (fillStops codec fails token)
      (fillTemporary fails (dumped codec token)) := by
  have call := persist_call_runs fails
  have synced := fun content => Attempt.runs_bind _ _ _ _ _ _ _ (call .write (Directory.withTemporary content))
    fun _ => Attempt.runs_bind _ _ _ _ _ _ _ (call .flush id) fun _ => call .fileFsync id
  have filled := Attempt.runs_bind _ _ _ _ _ _ _ (call .serialization id) fun _ =>
    Attempt.runs_bind _ _ _ _ _ _ _ (Attempt.runs_reading _ _ _ _ (dumped_courses codec token)) synced
  have whole := Attempt.runs_ensuring _ _ _ _ _ _ _ (call .fileClose id) filled
  simp only [Bool.false_or, Bool.or_false, Bool.and_false] at whole
  exact whole

theorem replace_token_stops (stops : replaceStops fails writing.disk = true) :
    ∃ errno, replaceToken fails writing = (.error (.osError errno), writing) := by
  rw [replaceToken]
  cases failing : fails.fails .replace with
  | true =>
      obtain ⟨errno, failed⟩ := persist_call_failed fails writing .replace id failing
      exact ⟨errno, Attempt.bind_raises _ _ _ _ _ failed⟩
  | false =>
      have directory : writing.disk.token = some .directory := by simpa [replaceStops, failing] using stops
      refine ⟨21, ?_⟩
      rw [Attempt.bind_returns _ _ _ _ _ (persist_call_answered fails writing .replace id failing)]
      simp only [id, directory]

theorem replace_token_replaces (replaces : replaceStops fails writing.disk = false) :
    replaceToken fails writing =
      (.ok (), { writing with disk := ⟨writing.disk.temporary, none⟩, temporaryPath := false }) := by
  simp only [replaceStops, Bool.or_eq_false_iff, decide_eq_false_iff_not] at replaces
  rw [replaceToken, Attempt.bind_returns _ _ _ _ _ (persist_call_answered fails writing .replace id replaces.1)]
  cases found : writing.disk.token with
  | none => simp only [id, found]
  | some entry =>
      cases entry with
      | directory => exact absurd found replaces.2
      | regular mode content | special | symlink => simp only [id, found]

theorem sync_directory_keeps : Attempt.Keeps Writing.outline (syncDirectory fails) := by
  apply Attempt.keeps_bind _ _ (persist_call_keeps fails .directoryOpen id fun _ => rfl)
  intro _
  apply Attempt.keeps_ensuring _ _ _ _ (persist_call_keeps fails .directoryClose id fun _ => rfl)
  apply Attempt.keeps_rescuing _ _ (persist_call_keeps fails .directoryFsync id fun _ => rfl)
  intro error before
  cases error with
  | osError errno =>
      rw [tolerating]
      by_cases tolerated : errno ∈ toleratedErrnos
      · rw [if_pos tolerated]
        rfl
      · rw [if_neg tolerated]
        rfl
  | token error | typeError | valueError | overflowError | recursionError | foreign => rfl

theorem directory_fsync_runs :
    Attempt.Runs writeNames false (untolerated fails) ((persistCall fails .directoryFsync id).rescuing tolerating) := by
  intro before
  cases answered : fails (.persist .directoryFsync) with
  | none =>
      have quiet := persist_call_answered fails before .directoryFsync id (by simp [Failures.fails, answered])
      rw [Attempt.rescuing_returns _ _ _ _ _ quiet]
      simp only [untolerated, answered]
      exact courses_ok ()
  | some errno =>
      have failed : persistCall fails .directoryFsync id before = (.error (.osError errno), before) := by
        rw [persistCall, Attempt.bind_raises _ _ _ _ _ (store_call_failed fails _ before errno answered)]
      rw [Attempt.rescuing_raises _ _ _ _ _ failed, tolerating]
      simp only [untolerated, answered]
      by_cases tolerated : errno ∈ toleratedErrnos
      · rw [if_pos tolerated, decide_eq_false (by simpa using tolerated)]
        exact courses_ok ()
      · rw [if_neg tolerated, decide_eq_true (by simpa using tolerated)]
        exact courses_refused _ rfl

theorem sync_directory_runs : Attempt.Runs writeNames false (syncStops fails) (syncDirectory fails) := by
  have closed := Attempt.runs_ensuring _ _ _ _ _ _ _ (persist_call_runs fails .directoryClose id)
    (directory_fsync_runs fails)
  have whole := Attempt.runs_bind _ _ _ _ _ _ _ (persist_call_runs fails .directoryOpen id) fun _ => closed
  simp only [Bool.false_or, Bool.and_false] at whole
  exact whole

structure PersistEnds (disk : Directory) (run : Except Exception Unit × Writing) : Prop where
  descriptor : run.2.temporaryFd = temporaryOpen fails
  path : run.2.temporaryPath = temporaryLeft codec fails token disk
  uncaught : Uncaught writeNames run.1 ↔ persistLeaks codec fails token = true

theorem filled_ends (disk : Directory) (made : fails.fails .mkstemp = false)
    (created : (fails.fails .fchmod || fails.fails .fdopen) = false) :
    PersistEnds codec fails token disk ((do
      fillTemporary fails (dumped codec token)
      replaceToken fails
      syncDirectory fails : Attempt Exception Writing Unit) ⟨disk.withTemporary [], false, true⟩) := by
  have opened : temporaryOpen fails = false := by rw [temporaryOpen, created, Bool.and_false]
  have filling := fill_temporary_runs codec fails token ⟨disk.withTemporary [], false, true⟩
  have kept := fill_temporary_keeps codec fails token ⟨disk.withTemporary [], false, true⟩
  change Writing.outline _ = (false, true, disk.token) at kept
  cases filled : fillTemporary fails (dumped codec token) ⟨disk.withTemporary [], false, true⟩ with
  | mk result after =>
      rw [filled] at filling kept
      simp only [Writing.outline, Prod.mk.injEq] at kept
      obtain ⟨closed, path, unmoved⟩ := kept
      cases result with
      | error error =>
          have stopped : (dumpLeaks codec fails token || fillStops codec fails token) = true := by
            have unread := mt filling.read.mpr (by simp)
            cases leaks : dumpLeaks codec fails token with
            | true => rfl
            | false => simpa [leaks] using unread
          rw [Attempt.bind_raises _ _ _ _ _ filled]
          refine ⟨closed.trans opened.symm, path.trans ?_, ?_⟩
          · rw [temporaryLeft, made, created, ← Bool.or_assoc (dumpLeaks codec fails token), stopped]
            rfl
          · rw [persistLeaks, made, created]
            simpa using filling.uncaught
      | ok value =>
          obtain ⟨shallow, unstopped⟩ := filling.read.mp ⟨value, rfl⟩
          have leaks : persistLeaks codec fails token = false := by rw [persistLeaks, shallow]; simp
          have same : replaceStops fails after.disk = replaceStops fails disk := by
            rw [replaceStops, unmoved, replaceStops]
          rw [Attempt.bind_returns _ _ _ _ _ filled]
          cases stops : replaceStops fails disk with
          | true =>
              obtain ⟨errno, failed⟩ := replace_token_stops fails after (same.trans stops)
              rw [Attempt.bind_raises _ _ _ _ _ failed]
              refine ⟨closed.trans opened.symm, path.trans ?_, ?_⟩
              · rw [temporaryLeft, made, stops]
                simp
              · rw [leaks]
                simp [uncaught_error, writeNames, reported, Exception.isToken]
          | false =>
              rw [Attempt.bind_returns _ _ _ _ _ (replace_token_replaces fails after (same.trans stops))]
              have settled := sync_directory_keeps fails
                { after with disk := ⟨after.disk.temporary, none⟩, temporaryPath := false }
              simp only [Writing.outline, Prod.mk.injEq] at settled
              refine ⟨settled.1.trans (closed.trans opened.symm), settled.2.1.trans ?_, ?_⟩
              · rw [temporaryLeft, made, created, shallow, unstopped, stops]
                rfl
              · rw [leaks, (sync_directory_runs fails _).uncaught]

theorem persist_token_ends (disk : Directory) :
    PersistEnds codec fails token disk (persistToken fails (dumped codec token) (.start disk)) := by
  rw [persistToken]
  obtain ⟨unmade, errno, failed⟩ | ⟨made, uncreated, errno, failed⟩ | ⟨made, created, run⟩ :=
    create_temporary_run fails (.start disk)
  · rw [Attempt.bind_raises _ _ _ _ _ failed]
    constructor
    · simp [temporaryOpen, unmade, Writing.start]
    · simp [temporaryLeft, unmade, Writing.start]
    · simp [persistLeaks, unmade, uncaught_error, writeNames, reported, Exception.isToken]
  · rw [Attempt.bind_raises _ _ _ _ _ failed]
    constructor
    · simp only [temporaryOpen, made, uncreated]
      rfl
    · simp only [temporaryLeft, made, uncreated]
      rfl
    · simp [persistLeaks, uncreated, uncaught_error, writeNames, reported, Exception.isToken]
  · rw [Attempt.bind_returns _ _ _ _ _ run]
    exact filled_ends codec fails token disk made created

theorem clean_temporary_settles :
    Settles Exception.isToken ((writing.temporaryFd && (fails .closeTemporary).isSome) ||
      (writing.temporaryPath && unlinkFails fails)) (cleanTemporary fails writing).1 := by
  rw [cleanTemporary, Attempt.bind_result]
  apply settles_bind
  · apply Attempt.guarded_settles
    cases closing : fails .closeTemporary with
    | none =>
        rw [store_call_answered fails _ writing closing]
        exact settles_ok ()
    | some errno =>
        rw [store_call_failed fails _ writing errno closing]
        exact .inl ⟨rfl, _, rfl, rfl⟩
  · intro _ _
    have same : (Attempt.guarded Writing.temporaryFd (storeCall fails .closeTemporary) writing).2 = writing := by
      cases opened : writing.temporaryFd with
      | true =>
          rw [Attempt.guarded_passes _ _ _ opened]
          exact store_call_still fails .closeTemporary writing
      | false => rw [Attempt.guarded_skips _ _ _ opened]
    rw [same]
    apply Attempt.guarded_settles
    rw [unlinkTemporary, unlinkFails]
    cases fails .unlinkTemporary with
    | none => exact settles_ok ()
    | some errno =>
        dsimp only
        by_cases missing : errno = 2
        · rw [if_pos missing, decide_eq_false (by simpa using missing)]
          exact settles_ok ()
        · rw [if_neg missing, decide_eq_true (by simpa using missing)]
          exact .inl ⟨rfl, _, rfl, rfl⟩

def writeLeaks (codec : Codec) (fails : Failures) (token : PyValue) (disk : Directory) : Bool :=
  ((temporaryOpen fails && (fails .closeTemporary).isSome) ||
    (temporaryLeft codec fails token disk && unlinkFails fails)) || persistLeaks codec fails token

theorem write_failing_uncaught (disk : Directory) :
    Uncaught Exception.isToken (writeFailing codec fails token disk).1 ↔
      writeLeaks codec fails token disk = true := by
  have ends := persist_token_ends codec fails token disk
  rw [writeFailing, writeText]
  dsimp only
  rw [Attempt.ensuring_result, Attempt.rescuing_map]
  have cleaned := clean_temporary_settles fails (persistToken fails (dumped codec token) (.start disk)).2
  rw [ends.descriptor, ends.path] at cleaned
  refine uncaught_after_settles _ _ _ _ cleaned ?_
  intro _ _
  rw [uncaught_map_error]
  exact ends.uncaught

end Writes
-- The two models of a write agree where at most one call of it fails.
section OneFault

variable (codec : Codec) (fault : Option Fault)

theorem sync_directory_only (writing : Writing) :
    syncDirectory (.only fault) writing = (fsyncDirectory fault, writing) := by
  rcases fault with _ | ⟨call, errno⟩
  · rfl
  · cases call with
    | directoryFsync =>
        have struck : persistCall (.only (some ⟨.directoryFsync, errno⟩)) .directoryFsync id writing =
            (.error (.osError errno), writing) := rfl
        have handled := Attempt.rescuing_raises _ _ tolerating _ _ struck
        have target : fsyncDirectory (some ⟨.directoryFsync, errno⟩) = tolerate (.error (.osError errno)) := rfl
        have opened : persistCall (.only (some ⟨.directoryFsync, errno⟩)) .directoryOpen id writing = (.ok (), writing) := rfl
        have closed : persistCall (.only (some ⟨.directoryFsync, errno⟩)) .directoryClose id writing = (.ok (), writing) := rfl
        rw [target, syncDirectory, Attempt.bind_returns _ _ _ _ _ opened]
        by_cases tolerated : errno ∈ toleratedErrnos
        · rw [tolerating, if_pos tolerated] at handled
          rw [Attempt.ensuring_quiet _ _ _ writing (by rw [handled]; exact closed), handled, tolerate, if_pos tolerated]
          rfl
        · rw [tolerating, if_neg tolerated] at handled
          rw [Attempt.ensuring_quiet _ _ _ writing (by rw [handled]; exact closed), handled, tolerate, if_neg tolerated]
          rfl
    | _ => rfl

theorem write_failing_only (token : PyValue) (entry : Option Entry)
    (shallow : codec.dump token ≠ .error .recursionError) :
    writeFailing codec (.only fault) token ⟨entry, none⟩ = write codec fault token ⟨entry, none⟩ := by
  have shape : ∀ outcome, codec.dump token = outcome →
      dumped codec token = outcome.mapError raisedBy ∧
        serialize codec token = fun disk => (outcome.mapError raisedBy, disk) := by
    rintro (error | content) same
    · exact ⟨by rw [dumped, same], by funext disk; simp only [serialize, same]; rfl⟩
    · exact ⟨by rw [dumped, same], by funext disk; simp only [serialize, same]; rfl⟩
  obtain ⟨new, old⟩ := shape _ rfl
  have synced : syncDirectory (.only fault) = fun writing => (fsyncDirectory fault, writing) :=
    funext (sync_directory_only fault)
  rw [write, persist, prepare, old, writeFailing, writeText, persistToken, fillTemporary, new, synced]
  generalize codec.dump token = outcome at shallow
  generalize fsyncDirectory fault = synced
  cases outcome with
  | error error =>
      cases error with
      | typeError | valueError => rcases fault with _ | ⟨_ | _, _⟩ <;> rfl
      | recursionError => exact absurd rfl shallow
  | ok content =>
      cases synced with
      | ok value | error error =>
          rcases fault with _ | ⟨_ | _, _⟩ <;> rcases entry with _ | (_ | _ | _ | _) <;> rfl

end OneFault

end SchwabGateway.Token
