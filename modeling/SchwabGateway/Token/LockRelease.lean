import SchwabGateway.Token.HoldLock

set_option autoImplicit false

namespace SchwabGateway.Token

open SchwabGateway.Python SchwabGateway.Library

-- Every descriptor was closed or its close attempted, and the thread lock was
-- released as often as it was acquired, which is once or not at all.
structure LocksReleased (events : List LockEvent) : Prop where
  closed : events.count .closed = events.count .opened
  once : .acquired ∈ events → events.count .released = 1
  never : .acquired ∉ events → events.count .released = 0

theorem released_unopened : LocksReleased [.acquired, .released] := ⟨by decide, by decide, by decide⟩

theorem released_unusable : LocksReleased [.acquired, .opened, .closed, .released] :=
  ⟨by decide, by decide, by decide⟩

theorem unreleased : ¬ LocksReleased [.acquired, .opened, .closed] := fun released =>
  absurd (released.once (by decide)) (by decide)

section Release

variable {σ α : Type} (answers : LockAnswers) (timeout : PyFloat) (mode : LockMode)
  (body : Attempt Exception σ α) (store : σ)

-- Either the thread lock was not had, or no usable lock file was opened, or
-- both calls of the finally block return.
def LockAnswers.cleanExit (answers : LockAnswers) (timeout : PyFloat) (mode : LockMode) : Bool :=
  !answers.acquires timeout || !answers.opens mode || answers.closes

theorem locks_released_iff :
    LocksReleased (holdLock answers timeout mode body (.start store)).2.events ↔
      answers.cleanExit timeout mode = true := by
  cases acquired : answers.acquires timeout with
  | false =>
      obtain ⟨error, refused, _⟩ := hold_lock_refused answers timeout mode body (.start store) acquired
      rw [refused]
      exact ⟨fun _ => by simp [LockAnswers.cleanExit, acquired], fun _ => ⟨rfl, nofun, fun _ => rfl⟩⟩
  | true =>
      obtain ⟨seconds, _, run⟩ := hold_lock_acquired answers timeout mode body (.start store) acquired
      rw [run]
      cases opened : answers.opens mode with
      | false =>
          have clean : answers.cleanExit timeout mode = true := by simp [LockAnswers.cleanExit, opened]
          refine ⟨fun _ => clean, fun _ => ?_⟩
          obtain ⟨error, left | left, _⟩ :=
            with_thread_lock_refused answers mode body ((Held.start store).note .acquired) seconds opened
          · have released := leave_lock_unopened answers _ (congrArg (·.2.lockFd) left)
            rw [Attempt.ensuring_quiet _ _ _ _ released, left]
            exact released_unopened
          · have released := leave_lock_unopened answers _ (congrArg (·.2.lockFd) left)
            rw [Attempt.ensuring_quiet _ _ _ _ released, left]
            exact released_unusable
      | true =>
          obtain ⟨descriptor, events⟩ :=
            with_thread_lock_opened answers mode body ((Held.start store).note .acquired) seconds opened
          cases closes : answers.closes with
          | true =>
              have released := leave_lock_closes answers _ descriptor closes
              rw [Attempt.ensuring_quiet _ _ _ _ released]
              refine ⟨fun _ => by simp [LockAnswers.cleanExit, closes], fun _ => ?_⟩
              simp only [note_events, events]
              exact released_unusable
          | false =>
              obtain ⟨errno, skipped⟩ := leave_lock_fails answers _ descriptor closes
              rw [Attempt.ensuring_raises _ _ _ _ _ skipped]
              simp only [note_events, events]
              refine ⟨fun released => absurd released unreleased, fun clean => ?_⟩
              simp [LockAnswers.cleanExit, acquired, opened, closes] at clean

end Release

-- Everything is granted at once but the unlocking, which fails with EIO.
def unlockingFails : LockAnswers where
  fails := fun call => if call = .unlock then some 5 else none
  parentIsDir := true
  timeoutMax := 9223372036
  threadLock := true
  waitStarted := 0
  lockFile := .regular ownerOnly []
  contention := .granted

theorem thread_lock_kept_after_failed_unlock :
    ¬ LocksReleased (holdLock unlockingFails (.finite 10) .exclusive (pure ()) (Held.start ())).2.events := by
  have events : (holdLock unlockingFails (.finite 10) .exclusive (pure ()) (Held.start ())).2.events =
      [.acquired, .opened, .closed] := by decide +kernel
  rw [events]
  exact unreleased

end SchwabGateway.Token
