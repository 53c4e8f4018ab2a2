import SchwabGateway.Library.Cleanup
import SchwabGateway.Token.Store

set_option autoImplicit false

namespace SchwabGateway.Token

open SchwabGateway.Python SchwabGateway.Library

def parentUnavailable : String := "token parent directory is unavailable"
def lockUnreadable : String := "token lock file cannot be opened read-only"
def lockUnsafe : String := "token lock file cannot be opened safely"
def lockUnacquired : String := "token lock could not be acquired"

def Exception.isToken : Exception → Bool
  | .token _ => true
  | _ => false

def Exception.fromLock : Exception → Bool
  | .token (.persistence _) | .token (.lockTimeout _) | .osError _ | .valueError | .overflowError => true
  | _ => false

inductive LockMode where
  | shared
  | exclusive
deriving DecidableEq

-- The calls of _hold_lock that are made at most once: check is fstat in the
-- shared mode and fchmod in the exclusive one, closeUnusable the close of a
-- lock file that did not pass it.
inductive LockCall where
  | isDir
  | openLock
  | check
  | closeUnusable
  | unlock
  | closeLock
deriving DecidableEq

-- What the attempts to flock are answered with, up to the last one that can be
-- made. A blocked attempt reads the clock.
inductive Contention where
  | granted
  | failed (errno : Nat)
  | blocked (now : ℚ) (rest : Contention)
deriving DecidableEq

-- The answers to one run of _hold_lock: which calls fail and with what errno,
-- and what the others find.
structure LockAnswers where
  fails : LockCall → Option Nat
  parentIsDir : Bool
  timeoutMax : ℚ
  threadLock : Bool
  waitStarted : ℚ
  lockFile : Entry
  contention : Contention

-- What happens to the thread lock and to the descriptor of the lock file. A
-- close is noted when it is attempted.
inductive LockEvent where
  | acquired
  | opened
  | closed
  | released
deriving DecidableEq

structure Held (σ : Type) where
  lockFd : Bool
  events : List LockEvent
  store : σ

def Held.start {σ : Type} (store : σ) : Held σ := ⟨false, [], store⟩

def Held.note {σ : Type} (event : LockEvent) (held : Held σ) : Held σ :=
  { held with events := held.events ++ [event] }

@[simp] theorem note_events {σ : Type} (event : LockEvent) (held : Held σ) :
    (held.note event).events = held.events ++ [event] := rfl

section Code

variable {σ α : Type} (answers : LockAnswers)

abbrev LockAction (σ α : Type) := Attempt Exception (Held σ) α

def lockCall (call : LockCall) : LockAction σ Unit :=
  match answers.fails call with
  | some errno => Attempt.raising (.osError errno)
  | none => pure ()

def closeDescriptor (call : LockCall) : LockAction σ Unit := do
  Attempt.update (Held.note .closed)
  lockCall answers call

-- An OSError of its own is raised for a lock file of the wrong kind or mode.
def checkLock : LockMode → LockAction σ Unit
  | .shared => do
      lockCall answers .check
      match answers.lockFile with
      | .regular mode _ => if mode = ownerOnly then pure () else Attempt.raising (.osError 0)
      | _ => Attempt.raising (.osError 0)
  | .exclusive => lockCall answers .check

def LockMode.refusal : LockMode → Exception
  | .shared => .token (.persistence lockUnreadable)
  | .exclusive => .token (.persistence lockUnsafe)

-- _open_shared_lock and _open_exclusive_lock: only what was opened is closed.
def openLock (mode : LockMode) : LockAction σ Unit := do
  (lockCall answers .openLock).rescuing (fun _ => Attempt.raising mode.refusal)
  Attempt.update (Held.note .opened)
  (checkLock answers mode).rescuing (fun _ => do
    closeDescriptor answers .closeUnusable
    Attempt.raising mode.refusal)

def acquireFlock (deadline : ℚ) : Contention → LockAction σ Unit
  | .granted => pure ()
  | .failed _ => Attempt.raising (.token (.persistence lockUnacquired))
  | .blocked now rest =>
      if deadline - now ≤ 0 then Attempt.raising (.token (.lockTimeout lockTimedOut))
      else acquireFlock deadline rest

def checkTimeout (timeout : PyFloat) : LockAction σ ℚ :=
  match timeout with
  | .finite seconds => if seconds < 0 then Attempt.raising .valueError else pure seconds
  | _ => Attempt.raising .valueError

def checkParent : LockAction σ Unit := do
  lockCall answers .isDir
  if answers.parentIsDir then pure ()
  else Attempt.raising (.token (.persistence parentUnavailable))

-- A timeout above threading.TIMEOUT_MAX is none that a lock can wait for.
def acquireThreadLock (seconds : ℚ) : LockAction σ Unit :=
  if answers.timeoutMax < seconds then Attempt.raising .overflowError
  else if answers.threadLock then Attempt.update (Held.note .acquired)
  else Attempt.raising (.token (.lockTimeout lockTimedOut))

-- The finally block: an exception of the unlocking or of the close leaves it
-- before the thread lock is released.
def leaveLock : LockAction σ Unit := do
  Attempt.guarded Held.lockFd
    ((lockCall answers .unlock).ensuring (closeDescriptor answers .closeLock))
  Attempt.update (Held.note .released)

def onStore (body : Attempt Exception σ α) : LockAction σ α :=
  body.focus Held.store (fun held store => { held with store := store })

def withThreadLock (mode : LockMode) (seconds : ℚ) (body : Attempt Exception σ α) : LockAction σ α := do
  openLock answers mode
  Attempt.update (fun held => { held with lockFd := true })
  acquireFlock (answers.waitStarted + seconds) answers.contention
  onStore body

def holdLock (timeout : PyFloat) (mode : LockMode) (body : Attempt Exception σ α) : LockAction σ α := do
  let seconds ← checkTimeout timeout
  checkParent answers
  acquireThreadLock answers seconds
  (withThreadLock answers mode seconds body).ensuring (leaveLock answers)

end Code

def LockAnswers.acquires (answers : LockAnswers) : PyFloat → Bool
  | .finite seconds =>
      0 ≤ seconds && (answers.fails .isDir).isNone && answers.parentIsDir && seconds ≤ answers.timeoutMax &&
        answers.threadLock
  | _ => false

def LockAnswers.stumbles (answers : LockAnswers) : PyFloat → Bool
  | .finite seconds =>
      seconds < 0 || (answers.fails .isDir).isSome || (answers.parentIsDir && answers.timeoutMax < seconds)
  | _ => true

def Entry.ownerReadable : Entry → Bool
  | .regular mode _ => mode = ownerOnly
  | _ => false

def LockAnswers.opens (answers : LockAnswers) (mode : LockMode) : Bool :=
  (answers.fails .openLock).isNone && (answers.fails .check).isNone &&
    (mode = .exclusive || answers.lockFile.ownerReadable)

def Contention.grants (deadline : ℚ) : Contention → Bool
  | .granted => true
  | .failed _ => false
  | .blocked now rest => 0 < deadline - now && rest.grants deadline

def LockAnswers.closes (answers : LockAnswers) : Bool :=
  (answers.fails .unlock).isNone && (answers.fails .closeLock).isNone

section Runs

variable {σ α : Type} (answers : LockAnswers) (timeout : PyFloat) (mode : LockMode)
  (body : Attempt Exception σ α) (held : Held σ)

theorem lock_call_answered (call : LockCall) (answered : answers.fails call = none) :
    lockCall answers call held = (.ok (), held) := by
  rw [lockCall, answered]
  rfl

theorem lock_call_failed (call : LockCall) (errno : Nat) (failed : answers.fails call = some errno) :
    lockCall answers call held = (.error (.osError errno), held) := by
  rw [lockCall, failed]
  rfl

theorem lock_call_state (call : LockCall) : (lockCall answers call held).2 = held := by
  cases answered : answers.fails call with
  | none => rw [lock_call_answered answers held call answered]
  | some errno => rw [lock_call_failed answers held call errno answered]

theorem close_descriptor_run (call : LockCall) :
    closeDescriptor answers call held = lockCall answers call (held.note .closed) := rfl

theorem check_lock_passes (passes : (answers.fails .check).isNone = true)
    (readable : (mode = .exclusive || answers.lockFile.ownerReadable) = true) :
    checkLock answers mode held = (.ok (), held) := by
  have answered := lock_call_answered answers held .check (Option.isNone_iff_eq_none.mp passes)
  cases mode with
  | exclusive => exact answered
  | shared =>
      rw [checkLock, Attempt.bind_returns _ _ _ _ _ answered]
      cases file : answers.lockFile with
      | regular mode content =>
          have owner : mode = ownerOnly := by simpa [Entry.ownerReadable, file] using readable
          simp only [if_pos owner]
          rfl
      | directory | special | symlink => simp [Entry.ownerReadable, file] at readable

theorem check_lock_refuses (refuses : ((answers.fails .check).isNone &&
      (mode = .exclusive || answers.lockFile.ownerReadable)) = false) :
    ∃ error, checkLock answers mode held = (.error error, held) := by
  cases answered : answers.fails .check with
  | some errno =>
      have failed := lock_call_failed answers held .check errno answered
      cases mode with
      | exclusive => exact ⟨_, failed⟩
      | shared => exact ⟨_, Attempt.bind_raises _ _ _ _ _ failed⟩
  | none =>
      have checked := lock_call_answered answers held .check answered
      cases mode with
      | exclusive => simp [answered] at refuses
      | shared =>
          refine ⟨.osError 0, ?_⟩
          rw [checkLock, Attempt.bind_returns _ _ _ _ _ checked]
          cases file : answers.lockFile with
          | regular mode content =>
              have other : mode ≠ ownerOnly := by simpa [answered, Entry.ownerReadable, file] using refuses
              simp only [if_neg other]
              rfl
          | directory | special | symlink => rfl

theorem open_lock_opened (opened : answers.opens mode = true) :
    openLock answers mode held = (.ok (), held.note .opened) := by
  simp only [LockAnswers.opens, Bool.and_eq_true] at opened
  obtain ⟨⟨opening, passes⟩, readable⟩ := opened
  have first := Attempt.rescuing_returns _ _ (fun _ => Attempt.raising mode.refusal) _ _
    (lock_call_answered answers held .openLock (Option.isNone_iff_eq_none.mp opening))
  have checked := Attempt.rescuing_returns _ _ (fun _ => do
      closeDescriptor answers .closeUnusable
      Attempt.raising mode.refusal) _ _
    (check_lock_passes answers mode (held.note .opened) passes readable)
  rw [openLock, Attempt.bind_returns _ _ _ _ _ first]
  exact checked

theorem refusal_named : mode.refusal.isToken = true ∧ mode.refusal.fromLock = true := by
  cases mode with
  | shared | exclusive => exact ⟨rfl, rfl⟩

theorem open_lock_refused (refused : answers.opens mode = false) :
    ∃ error, (openLock answers mode held = (.error error, held) ∨
        openLock answers mode held = (.error error, (held.note .opened).note .closed)) ∧
      error.isToken = ((answers.fails .openLock).isSome || (answers.fails .closeUnusable).isNone) ∧
      error.fromLock = true := by
  cases opening : answers.fails .openLock with
  | some errno =>
      have first := Attempt.rescuing_raises _ _ (fun _ => Attempt.raising mode.refusal) _ _
        (lock_call_failed answers held .openLock errno opening)
      exact ⟨_, .inl (Attempt.bind_raises _ _ _ _ _ first), refusal_named mode⟩
  | none =>
      have first := Attempt.rescuing_returns _ _ (fun _ => Attempt.raising mode.refusal) _ _
        (lock_call_answered answers held .openLock opening)
      have refuses : ((answers.fails .check).isNone &&
          (mode = .exclusive || answers.lockFile.ownerReadable)) = false := by
        simpa [LockAnswers.opens, opening] using refused
      obtain ⟨error, unchecked⟩ := check_lock_refuses answers mode (held.note .opened) refuses
      have handled := Attempt.rescuing_raises _ _ (fun _ => do
          closeDescriptor answers .closeUnusable
          Attempt.raising mode.refusal) _ _ unchecked
      rw [openLock, Attempt.bind_returns _ _ _ _ _ first]
      cases closing : answers.fails .closeUnusable with
      | none =>
          have closed := lock_call_answered answers ((held.note .opened).note .closed) _ closing
          exact ⟨_, .inr (handled.trans (Attempt.bind_returns _ _ _ _ _ closed)), refusal_named mode⟩
      | some errno =>
          have failed := lock_call_failed answers ((held.note .opened).note .closed) _ errno closing
          exact ⟨_, .inr (handled.trans (Attempt.bind_raises _ _ _ _ _ failed)), rfl, rfl⟩

theorem acquire_flock_granted (deadline : ℚ) (contention : Contention)
    (granted : contention.grants deadline = true) : acquireFlock deadline contention held = (.ok (), held) := by
  induction contention with
  | granted => rfl
  | failed errno => cases granted
  | blocked now rest ih =>
      simp only [Contention.grants, Bool.and_eq_true, decide_eq_true_eq] at granted
      rw [acquireFlock, if_neg (not_le.mpr granted.1)]
      exact ih granted.2

theorem acquire_flock_refused (deadline : ℚ) (contention : Contention)
    (refused : contention.grants deadline = false) :
    ∃ error, acquireFlock deadline contention held = (.error error, held) ∧ error.isToken = true ∧
      error.fromLock = true := by
  induction contention with
  | granted => cases refused
  | failed errno => exact ⟨_, rfl, rfl, rfl⟩
  | blocked now rest ih =>
      rw [acquireFlock]
      by_cases late : deadline - now ≤ 0
      · rw [if_pos late]
        exact ⟨_, rfl, rfl, rfl⟩
      · rw [if_neg late]
        exact ih (by simpa [Contention.grants, not_le.mp late] using refused)

theorem with_thread_lock_granted (seconds : ℚ) (opened : answers.opens mode = true)
    (granted : answers.contention.grants (answers.waitStarted + seconds) = true) :
    withThreadLock answers mode seconds body held =
      ((body held.store).1, ⟨true, held.events ++ [.opened], (body held.store).2⟩) := by
  rw [withThreadLock, Attempt.bind_returns _ _ _ _ _ (open_lock_opened answers mode held opened), Attempt.bind_update,
    Attempt.bind_returns _ _ _ _ _ (acquire_flock_granted _ _ _ granted)]
  rfl

theorem with_thread_lock_contended (seconds : ℚ) (opened : answers.opens mode = true)
    (contended : answers.contention.grants (answers.waitStarted + seconds) = false) :
    ∃ error, withThreadLock answers mode seconds body held =
        (.error error, ⟨true, held.events ++ [.opened], held.store⟩) ∧
      error.isToken = true ∧ error.fromLock = true := by
  rw [withThreadLock, Attempt.bind_returns _ _ _ _ _ (open_lock_opened answers mode held opened), Attempt.bind_update]
  obtain ⟨error, refused, named, own⟩ := acquire_flock_refused { held.note .opened with lockFd := true } _ _ contended
  exact ⟨error, Attempt.bind_raises _ _ _ _ _ refused, named, own⟩

theorem with_thread_lock_opened (seconds : ℚ) (opened : answers.opens mode = true) :
    (withThreadLock answers mode seconds body held).2.lockFd = true ∧
      (withThreadLock answers mode seconds body held).2.events = held.events ++ [.opened] := by
  cases granted : answers.contention.grants (answers.waitStarted + seconds) with
  | true =>
      rw [with_thread_lock_granted answers mode body held seconds opened granted]
      exact ⟨rfl, rfl⟩
  | false =>
      obtain ⟨error, contended, _⟩ := with_thread_lock_contended answers mode body held seconds opened granted
      rw [contended]
      exact ⟨rfl, rfl⟩

theorem with_thread_lock_refused (seconds : ℚ) (refused : answers.opens mode = false) :
    ∃ error, (withThreadLock answers mode seconds body held = (.error error, held) ∨
        withThreadLock answers mode seconds body held = (.error error, (held.note .opened).note .closed)) ∧
      error.isToken = ((answers.fails .openLock).isSome || (answers.fails .closeUnusable).isNone) ∧
      error.fromLock = true := by
  obtain ⟨error, left, named⟩ := open_lock_refused answers mode held refused
  refine ⟨error, ?_, named⟩
  rw [withThreadLock]
  rcases left with unopened | closed
  · exact .inl (Attempt.bind_raises _ _ _ _ _ unopened)
  · exact .inr (Attempt.bind_raises _ _ _ _ _ closed)

theorem leave_lock_unopened (unopened : held.lockFd = false) :
    leaveLock answers held = (.ok (), held.note .released) := by
  have skipped : Attempt.guarded Held.lockFd
      ((lockCall answers .unlock).ensuring (closeDescriptor answers .closeLock)) held = (.ok (), held) := by
    rw [Attempt.guarded, unopened]
    rfl
  rw [leaveLock, Attempt.bind_returns _ _ _ _ _ skipped]
  rfl

theorem leave_lock_closes (opened : held.lockFd = true) (closes : answers.closes = true) :
    leaveLock answers held = (.ok (), (held.note .closed).note .released) := by
  simp only [LockAnswers.closes, Bool.and_eq_true, Option.isNone_iff_eq_none] at closes
  have unlocked := lock_call_answered answers held .unlock closes.1
  have closed : closeDescriptor answers .closeLock (lockCall answers .unlock held).2 =
      (.ok (), held.note .closed) := by
    rw [unlocked, close_descriptor_run]
    exact lock_call_answered answers _ .closeLock closes.2
  have cleaned : Attempt.guarded Held.lockFd
      ((lockCall answers .unlock).ensuring (closeDescriptor answers .closeLock)) held =
      (.ok (), held.note .closed) := by
    rw [Attempt.guarded, if_pos opened, Attempt.ensuring_quiet _ _ _ _ closed, unlocked]
  rw [leaveLock, Attempt.bind_returns _ _ _ _ _ cleaned]
  rfl

-- A failing call of the finally block skips the release of the thread lock.
theorem leave_lock_fails (opened : held.lockFd = true) (fails : answers.closes = false) :
    ∃ errno, leaveLock answers held = (.error (.osError errno), held.note .closed) := by
  have kept := lock_call_state answers held .unlock
  have skips : ∀ errno, (lockCall answers .unlock).ensuring (closeDescriptor answers .closeLock) held =
      (.error (.osError errno), held.note .closed) →
      leaveLock answers held = (.error (.osError errno), held.note .closed) := by
    intro errno raised
    have guarded : Attempt.guarded Held.lockFd
        ((lockCall answers .unlock).ensuring (closeDescriptor answers .closeLock)) held =
        (.error (.osError errno), held.note .closed) := by
      rw [Attempt.guarded, if_pos opened, raised]
    rw [leaveLock, Attempt.bind_raises _ _ _ _ _ guarded]
  cases closing : answers.fails .closeLock with
  | some errno =>
      refine ⟨errno, skips errno ?_⟩
      apply Attempt.ensuring_raises
      rw [kept, close_descriptor_run]
      exact lock_call_failed answers _ .closeLock errno closing
  | none =>
      cases unlocking : answers.fails .unlock with
      | none => simp [LockAnswers.closes, closing, unlocking] at fails
      | some errno =>
          refine ⟨errno, skips errno ?_⟩
          have closed : closeDescriptor answers .closeLock (lockCall answers .unlock held).2 =
              (.ok (), held.note .closed) := by
            rw [kept, close_descriptor_run]
            exact lock_call_answered answers _ .closeLock closing
          rw [Attempt.ensuring_quiet _ _ _ _ closed, lock_call_failed answers held .unlock errno unlocking]

theorem check_timeout_run :
    (∃ seconds, timeout = .finite seconds ∧ 0 ≤ seconds ∧ checkTimeout timeout held = (.ok seconds, held)) ∨
      (answers.acquires timeout = false ∧ answers.stumbles timeout = true ∧
        checkTimeout timeout held = (.error .valueError, held)) := by
  cases timeout with
  | finite seconds =>
      rw [checkTimeout]
      by_cases negative : seconds < 0
      · rw [if_pos negative]
        exact .inr ⟨by simp [LockAnswers.acquires, not_le.mpr negative], by simp [LockAnswers.stumbles, negative], rfl⟩
      · rw [if_neg negative]
        exact .inl ⟨seconds, rfl, not_lt.mp negative, rfl⟩
  | infinity | negInfinity | nan => exact .inr ⟨rfl, rfl, rfl⟩

theorem check_parent_run (answered : answers.fails .isDir = none) :
    checkParent answers held =
      (if answers.parentIsDir then .ok () else .error (.token (.persistence parentUnavailable)), held) := by
  rw [checkParent, Attempt.bind_returns _ _ _ _ _ (lock_call_answered answers held .isDir answered)]
  cases answers.parentIsDir with
  | true => rfl
  | false => rfl

theorem hold_lock_refused (refused : answers.acquires timeout = false) :
    ∃ error, holdLock answers timeout mode body held = (.error error, held) ∧
      error.isToken = !answers.stumbles timeout ∧ error.fromLock = true := by
  rw [holdLock]
  obtain ⟨seconds, rfl, nonnegative, checked⟩ | ⟨_, stumbles, checked⟩ := check_timeout_run answers timeout held
  · rw [Attempt.bind_returns _ _ _ _ _ checked]
    cases asked : answers.fails .isDir with
    | some errno =>
        have failed : checkParent answers held = (.error (.osError errno), held) := by
          rw [checkParent, Attempt.bind_raises _ _ _ _ _ (lock_call_failed answers held .isDir errno asked)]
        exact ⟨_, Attempt.bind_raises _ _ _ _ _ failed, by simp [LockAnswers.stumbles, asked, Exception.isToken], rfl⟩
    | none =>
        have parent := check_parent_run answers held asked
        cases isDir : answers.parentIsDir with
        | false =>
            rw [isDir] at parent
            refine ⟨_, Attempt.bind_raises _ _ _ _ _ parent, ?_, rfl⟩
            simp [LockAnswers.stumbles, asked, isDir, not_lt.mpr nonnegative, Exception.isToken]
        | true =>
            rw [isDir] at parent
            rw [Attempt.bind_returns _ _ _ _ _ parent]
            by_cases late : answers.timeoutMax < seconds
            · have overflow : acquireThreadLock answers seconds held = (.error .overflowError, held) := by
                rw [acquireThreadLock, if_pos late]
                rfl
              refine ⟨_, Attempt.bind_raises _ _ _ _ _ overflow, ?_, rfl⟩
              simp [LockAnswers.stumbles, isDir, late, Exception.isToken]
            · have ungranted : answers.threadLock = false := by
                simpa [LockAnswers.acquires, asked, isDir, nonnegative, not_lt.mp late] using refused
              have timedOut : acquireThreadLock answers seconds held =
                  (.error (.token (.lockTimeout lockTimedOut)), held) := by
                rw [acquireThreadLock, if_neg late, ungranted]
                rfl
              refine ⟨_, Attempt.bind_raises _ _ _ _ _ timedOut, ?_, rfl⟩
              simp [LockAnswers.stumbles, asked, isDir, not_lt.mpr nonnegative, late, Exception.isToken]
  · exact ⟨_, Attempt.bind_raises _ _ _ _ _ checked, by rw [stumbles]; rfl, rfl⟩

theorem hold_lock_acquired (acquired : answers.acquires timeout = true) :
    ∃ seconds, timeout = .finite seconds ∧ holdLock answers timeout mode body held =
      (withThreadLock answers mode seconds body).ensuring (leaveLock answers) (held.note .acquired) := by
  obtain ⟨seconds, rfl, nonnegative, checked⟩ | ⟨refused, _, _⟩ := check_timeout_run answers timeout held
  · simp only [LockAnswers.acquires, Bool.and_eq_true, decide_eq_true_eq, Option.isNone_iff_eq_none] at acquired
    obtain ⟨⟨⟨⟨_, asked⟩, isDir⟩, bounded⟩, granted⟩ := acquired
    have parent := check_parent_run answers held asked
    rw [isDir] at parent
    have threadLock : acquireThreadLock answers seconds held = (.ok (), held.note .acquired) := by
      rw [acquireThreadLock, if_neg (not_lt.mpr bounded), granted]
      rfl
    refine ⟨seconds, rfl, ?_⟩
    rw [holdLock, Attempt.bind_returns _ _ _ _ _ checked, Attempt.bind_returns _ _ _ _ _ parent,
      Attempt.bind_returns _ _ _ _ _ threadLock]
  · cases acquired.symm.trans refused

def LockAnswers.leaks (answers : LockAnswers) (timeout : PyFloat) (mode : LockMode) : Bool :=
  answers.stumbles timeout || (answers.acquires timeout &&
    ((!answers.opens mode && ((answers.fails .openLock).isNone && (answers.fails .closeUnusable).isSome)) ||
      (answers.opens mode && !answers.closes)))

def LockAnswers.enters (answers : LockAnswers) (mode : LockMode) : PyFloat → Bool
  | .finite seconds =>
      answers.acquires (.finite seconds) &&
        (answers.opens mode && answers.contention.grants (answers.waitStarted + seconds))
  | _ => false

theorem acquires_steady (acquired : answers.acquires timeout = true) : answers.stumbles timeout = false := by
  cases timeout with
  | finite seconds =>
      simp only [LockAnswers.acquires, Bool.and_eq_true, decide_eq_true_eq, Option.isNone_iff_eq_none] at acquired
      obtain ⟨⟨⟨⟨nonnegative, asked⟩, _⟩, bounded⟩, _⟩ := acquired
      simp [LockAnswers.stumbles, asked, not_lt.mpr nonnegative, not_lt.mpr bounded]
  | infinity | negInfinity | nan => cases acquired

end Runs

section Endings

variable {σ α : Type} (answers : LockAnswers) (timeout : PyFloat) (mode : LockMode)
  (body : Attempt Exception σ α) (store : σ)

theorem leave_lock_after (seconds : ℚ) (held left : Held σ) (result : Except Exception α)
    (run : withThreadLock answers mode seconds body held = (result, left)) :
    (∃ after, (withThreadLock answers mode seconds body).ensuring (leaveLock answers) held = (result, after) ∧
        after.store = left.store ∧ (left.lockFd && !answers.closes) = false) ∨
      ∃ errno after, (withThreadLock answers mode seconds body).ensuring (leaveLock answers) held =
          (.error (.osError errno), after) ∧ (left.lockFd && !answers.closes) = true := by
  have leaving : (withThreadLock answers mode seconds body held).2 = left := by rw [run]
  cases opened : left.lockFd with
  | false =>
      have released := leave_lock_unopened answers left opened
      rw [← leaving] at released
      exact .inl ⟨left.note .released, by rw [Attempt.ensuring_quiet _ _ _ _ released, run], rfl, rfl⟩
  | true =>
      cases closes : answers.closes with
      | true =>
          have released := leave_lock_closes answers left opened closes
          rw [← leaving] at released
          exact .inl ⟨(left.note .closed).note .released, by rw [Attempt.ensuring_quiet _ _ _ _ released, run], rfl, rfl⟩
      | false =>
          obtain ⟨errno, failed⟩ := leave_lock_fails answers left opened closes
          rw [← leaving] at failed
          exact .inr ⟨errno, _, Attempt.ensuring_raises _ _ _ _ _ failed, rfl⟩

-- Whatever holds of how the body ends, and of each exception of the lock in
-- any state of the store, holds of the whole.
theorem hold_lock_ends (post : Except Exception α → σ → Prop)
    (lock : ∀ error store, error.fromLock = true → post (.error error) store)
    (inner : post (body store).1 (body store).2) :
    post (holdLock answers timeout mode body (.start store)).1
      (holdLock answers timeout mode body (.start store)).2.store := by
  cases acquired : answers.acquires timeout with
  | false =>
      obtain ⟨error, refused, _, own⟩ := hold_lock_refused answers timeout mode body (.start store) acquired
      rw [refused]
      exact lock error _ own
  | true =>
      obtain ⟨seconds, _, run⟩ := hold_lock_acquired answers timeout mode body (.start store) acquired
      rw [run]
      have whole : ∀ result left, withThreadLock answers mode seconds body ((Held.start store).note .acquired) =
          (result, left) → post result left.store →
          post ((withThreadLock answers mode seconds body).ensuring (leaveLock answers)
              ((Held.start store).note .acquired)).1
            ((withThreadLock answers mode seconds body).ensuring (leaveLock answers)
              ((Held.start store).note .acquired)).2.store := by
        intro result left reached held
        obtain ⟨after, ended, same, _⟩ | ⟨errno, after, ended, _⟩ :=
          leave_lock_after answers mode body seconds _ left result reached
        · rw [ended, same]
          exact held
        · rw [ended]
          exact lock _ _ rfl
      cases opened : answers.opens mode with
      | false =>
          obtain ⟨error, left | left, _, own⟩ :=
            with_thread_lock_refused answers mode body ((Held.start store).note .acquired) seconds opened
          · exact whole _ _ left (lock error _ own)
          · exact whole _ _ left (lock error _ own)
      | true =>
          cases granted : answers.contention.grants (answers.waitStarted + seconds) with
          | true => exact whole _ _ (with_thread_lock_granted answers mode body _ seconds opened granted) inner
          | false =>
              obtain ⟨error, contended, _, own⟩ :=
                with_thread_lock_contended answers mode body ((Held.start store).note .acquired) seconds opened granted
              exact whole _ _ contended (lock error _ own)

theorem leave_lock_uncaught (seconds : ℚ) (held left : Held σ) (result : Except Exception α)
    (run : withThreadLock answers mode seconds body held = (result, left)) :
    Uncaught Exception.isToken ((withThreadLock answers mode seconds body).ensuring (leaveLock answers) held).1 ↔
      (left.lockFd && !answers.closes) = true ∨ Uncaught Exception.isToken result := by
  obtain ⟨after, ended, _, calm⟩ | ⟨errno, after, ended, failed⟩ :=
    leave_lock_after answers mode body seconds held left result run
  · rw [ended, calm]
    simp
  · rw [ended, failed, uncaught_error]
    simp [Exception.isToken]

theorem hold_lock_uncaught :
    Uncaught Exception.isToken (holdLock answers timeout mode body (.start store)).1 ↔
      answers.leaks timeout mode = true ∨
        (answers.enters mode timeout = true ∧ Uncaught Exception.isToken (body store).1) := by
  cases acquired : answers.acquires timeout with
  | false =>
      obtain ⟨error, refused, named, _⟩ := hold_lock_refused answers timeout mode body (.start store) acquired
      have outside : answers.enters mode timeout = false := by
        cases timeout with
        | finite seconds => simp [LockAnswers.enters, acquired]
        | infinity | negInfinity | nan => rfl
      rw [refused, uncaught_error, named, outside, LockAnswers.leaks, acquired]
      simp
  | true =>
      obtain ⟨seconds, rfl, run⟩ := hold_lock_acquired answers timeout mode body (.start store) acquired
      have steady := acquires_steady answers (.finite seconds) acquired
      rw [run, LockAnswers.leaks, LockAnswers.enters, steady, acquired]
      cases opened : answers.opens mode with
      | false =>
          obtain ⟨error, left | left, named, _⟩ :=
            with_thread_lock_refused answers mode body ((Held.start store).note .acquired) seconds opened
          all_goals
            rw [leave_lock_uncaught answers mode body seconds _ _ _ left, uncaught_error, named]
            simp [Held.note, Held.start]
      | true =>
          cases granted : answers.contention.grants (answers.waitStarted + seconds) with
          | true =>
              rw [leave_lock_uncaught answers mode body seconds _ _ _
                (with_thread_lock_granted answers mode body _ seconds opened granted)]
              simp [Held.note, Held.start]
          | false =>
              obtain ⟨error, contended, named, _⟩ :=
                with_thread_lock_contended answers mode body ((Held.start store).note .acquired) seconds opened granted
              rw [leave_lock_uncaught answers mode body seconds _ _ _ contended, uncaught_error, named]
              simp

-- The body has run, and what it returned is lost.
theorem hold_lock_failed_exit (entered : answers.enters mode timeout = true) (fails : answers.closes = false) :
    ∃ errno after, holdLock answers timeout mode body (.start store) = (.error (.osError errno), after) ∧
      after.store = (body store).2 := by
  cases timeout with
  | finite given =>
      simp only [LockAnswers.enters, Bool.and_eq_true] at entered
      obtain ⟨acquired, opened, granted⟩ := entered
      obtain ⟨seconds, same, run⟩ := hold_lock_acquired answers (.finite given) mode body (.start store) acquired
      cases same
      have reached := with_thread_lock_granted answers mode body ((Held.start store).note .acquired) given opened granted
      obtain ⟨errno, failed⟩ := leave_lock_fails answers ⟨true, _, (body store).2⟩ rfl fails
      have left : leaveLock answers (withThreadLock answers mode given body ((Held.start store).note .acquired)).2 =
          _ := (congrArg (fun run => leaveLock answers run.2) reached).trans failed
      exact ⟨errno, _, run.trans (Attempt.ensuring_raises _ _ _ _ _ left), rfl⟩
  | infinity | negInfinity | nan => cases entered

end Endings

end SchwabGateway.Token
