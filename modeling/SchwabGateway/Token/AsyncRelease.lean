import SchwabGateway.Token.AsyncTransaction

set_option autoImplicit false

namespace SchwabGateway.Token.Async

open SchwabGateway.Python SchwabGateway.Library

def State.atRest (state : State) : Prop :=
  (∃ ending, state.place = .ended ending) ∧ state.queue = [] ∧ state.helper = .idle

structure LockReturned (state : State) : Prop where
  once : state.entries.length ≤ 1
  exited : state.exits = state.entries
  threadLock : state.threadLock = none
  flock : state.flock = false

-- No cancellation takes the handler of an earlier one away from an
-- acquisition that has succeeded or still succeeds.
def Uninterrupted (state : State) : Event → Prop
  | .cancel => state.place = .settling → state.acquired ≠ some (.ok ())
  | .takeFlock _ => state.place = .acquiring ∨ state.place = .settling
  | _ => True

def Place.before : Place → Bool
  | .acquiring => true
  | .settling => true
  | _ => false

def Place.after : Place → Bool
  | .closing _ => true
  | .ended _ => true
  | _ => false

def Place.exiting : Place → Bool
  | .abandoning => true
  | .releasing _ => true
  | .closing _ => true
  | .ended _ => true
  | _ => false

structure Outside (flock : Bool) (entries exits : List Nat) : Prop where
  flock : flock = false
  entries : entries = []
  exits : exits = []

structure Inside (worker : Option Nat) (acquired : Option (Except Exception Unit))
    (entries : List Nat) (thread : Nat) : Prop where
  worker : worker = some thread
  acquired : acquired = some (.ok ())
  entries : entries = [thread]

structure Locked (threadLock : Option Nat) (flock : Bool) (exits : List Nat) (thread : Nat) :
    Prop where
  threadLock : threadLock = some thread
  flock : flock = true
  exits : exits = []

def State.outside (state : State) : Prop := Outside state.flock state.entries state.exits

def State.inside (state : State) (thread : Nat) : Prop :=
  Inside state.worker state.acquired state.entries thread

def State.locked (state : State) (thread : Nat) : Prop :=
  Locked state.threadLock state.flock state.exits thread

inductive Course (state : State) : Prop where
  | resting (place : state.place = .created ∨ ∃ ending, state.place = .ended ending)
      (worker : state.worker = none) (queue : state.queue = []) (helper : state.helper = .idle)
      (acquired : state.acquired = none) (threadLock : state.threadLock = none)
      (outside : state.outside)
  | queued (thread : Nat) (place : state.place.before = true) (worker : state.worker = some thread)
      (queue : state.queue = [.enter]) (helper : state.helper = .idle)
      (acquired : state.acquired = none) (threadLock : state.threadLock = none)
      (outside : state.outside)
  | taking (thread : Nat) (place : state.place.before = true ∨ ∃ ending, state.place = .closing ending)
      (worker : state.worker = some thread) (queue : state.queue = [])
      (helper : state.helper = .takingThread thread)
      (acquired : state.acquired = none) (threadLock : state.threadLock = none)
      (outside : state.outside)
  | locking (thread : Nat) (place : state.place.before = true ∨ ∃ ending, state.place = .closing ending)
      (worker : state.worker = some thread) (queue : state.queue = [])
      (helper : state.helper = .takingFlock thread)
      (acquired : state.acquired = none) (threadLock : state.threadLock = some thread)
      (outside : state.outside)
  | refused (place : (state.place.before = true ∧ ∃ error, state.acquired = some (.error error)) ∨
        (state.place.after = true ∧ state.acquired ≠ some (.ok ())))
      (queue : state.queue = []) (helper : state.helper = .idle)
      (threadLock : state.threadLock = none) (outside : state.outside)
  | entered (thread : Nat) (place : state.place.before = true ∨ state.place = .operating)
      (queue : state.queue = []) (helper : state.helper = .idle)
      (inside : state.inside thread) (locked : state.locked thread)
  | leaving (thread : Nat) (place : state.place.exiting = true)
      (job : (state.queue = [.exit] ∧ state.helper = .idle) ∨
        (state.queue = [] ∧ state.helper = .exiting thread))
      (inside : state.inside thread) (locked : state.locked thread)
  | left (thread : Nat) (place : state.place.exiting = true) (queue : state.queue = [])
      (helper : state.helper = .idle) (inside : state.inside thread)
      (threadLock : state.threadLock = none) (flock : state.flock = false)
      (exits : state.exits = [thread])

structure Tracked (state : State) : Prop where
  course : Course state
  heard : state.notified = true → state.acquired ≠ none

theorem tracked_start (thread : Nat) : Tracked (State.start thread) where
  course := .resting (.inl rfl) rfl rfl rfl rfl rfl ⟨rfl, rfl, rfl⟩
  heard notified := by cases notified

theorem course_at_rest (state : State) (course : Course state) (atRest : state.atRest) :
    LockReturned state := by
  obtain ⟨⟨ending, place⟩, queue, helper⟩ := atRest
  cases course with
  | resting _ _ _ _ _ threadLock outside =>
      exact ⟨by simp [outside.entries], outside.exits.trans outside.entries.symm, threadLock, outside.flock⟩
  | refused _ _ _ threadLock outside =>
      exact ⟨by simp [outside.entries], outside.exits.trans outside.entries.symm, threadLock, outside.flock⟩
  | left thread _ _ _ inside threadLock flock exits =>
      exact ⟨by simp [inside.entries], exits.trans inside.entries.symm, threadLock, flock⟩
  | queued _ before => simp [place, Place.before] at before
  | taking _ _ _ _ busy => simp [helper] at busy
  | locking _ _ _ _ busy => simp [helper] at busy
  | entered _ before => simp [place, Place.before] at before
  | leaving _ _ job => simp [queue, helper] at job

theorem submitted (state : State) (thread : Nat) (job : Job) (worker : state.worker = some thread) :
    state.submit job = { state with queue := state.queue ++ [job] } := by
  simp [State.submit, worker]

theorem exit_submitted (state : State) (thread : Nat) (place : Place) (exiting : place.exiting = true)
    (queue : state.queue = []) (helper : state.helper = .idle) (inside : state.inside thread)
    (locked : state.locked thread) : Course ((state.submit .exit).move place) := by
  rw [submitted state thread .exit inside.worker]
  refine .leaving thread exiting (.inl ⟨?_, helper⟩) inside
    locked
  simp [State.move, queue]

theorem settled_course (state : State) (course : Course state) (place : state.place.before = true)
    (done : state.acquired ≠ none) : Course state.settled := by
  unfold State.settled
  cases course with
  | entered thread _ queue helper inside locked =>
      rw [inside.acquired]
      exact exit_submitted state thread .abandoning rfl queue helper inside locked
  | refused result queue helper threadLock outside =>
      cases result with
      | inl failed =>
          obtain ⟨_, error, acquired⟩ := failed
          rw [acquired]
          exact .refused (.inr ⟨rfl, by simp [State.move, acquired]⟩) queue helper threadLock
            outside
      | inr past => cases here : state.place <;> simp_all [Place.before, Place.after]
  | resting elsewhere => rcases elsewhere with here | ⟨ending, here⟩ <;> simp [here, Place.before] at place
  | queued _ _ _ _ _ acquired => exact absurd acquired done
  | taking _ _ _ _ _ acquired => exact absurd acquired done
  | locking _ _ _ _ _ acquired => exact absurd acquired done
  | leaving _ elsewhere => cases here : state.place <;> simp_all [Place.before, Place.exiting]
  | left _ elsewhere => cases here : state.place <;> simp_all [Place.before, Place.exiting]

theorem created_course (state : State) (course : Course state) (place : state.place = .created) :
    state.worker = none ∧ state.queue = [] ∧ state.helper = .idle ∧ state.acquired = none ∧
      state.threadLock = none ∧ state.outside := by
  cases course with
  | resting _ worker queue helper acquired threadLock outside =>
      exact ⟨worker, queue, helper, acquired, threadLock, outside⟩
  | queued _ elsewhere => simp [place, Place.before] at elsewhere
  | taking _ elsewhere => simp [place, Place.before] at elsewhere
  | locking _ elsewhere => simp [place, Place.before] at elsewhere
  | refused elsewhere => simp [place, Place.before, Place.after] at elsewhere
  | entered _ elsewhere => simp [place, Place.before] at elsewhere
  | leaving _ elsewhere => simp [place, Place.exiting] at elsewhere
  | left _ elsewhere => simp [place, Place.exiting] at elsewhere

theorem exiting_course (state : State) (course : Course state)
    (place : state.place = .abandoning ∨ ∃ ending, state.place = .releasing ending) (next : Place)
    (exiting : next.exiting = true) : Course (state.move next) := by
  cases course with
  | leaving thread _ job inside locked =>
      exact .leaving thread exiting job inside
        locked
  | left thread _ queue helper inside threadLock flock exits =>
      exact .left thread exiting queue helper inside
        threadLock flock exits
  | resting elsewhere => rcases place with here | ⟨ending, here⟩ <;> simp [here] at elsewhere
  | queued _ elsewhere =>
      rcases place with here | ⟨ending, here⟩ <;> simp [here, Place.before] at elsewhere
  | taking _ elsewhere =>
      rcases place with here | ⟨ending, here⟩ <;> simp [here, Place.before] at elsewhere
  | locking _ elsewhere =>
      rcases place with here | ⟨ending, here⟩ <;> simp [here, Place.before] at elsewhere
  | refused elsewhere =>
      rcases place with here | ⟨ending, here⟩ <;>
        simp [here, Place.before, Place.after] at elsewhere
  | entered _ elsewhere =>
      rcases place with here | ⟨ending, here⟩ <;> simp [here, Place.before] at elsewhere

theorem acquiring_course (state : State) (course : Course state) (place : state.place = .acquiring) :
    Course (state.move .settling) := by
  cases course with
  | queued thread _ worker queue helper acquired threadLock outside =>
      exact .queued thread rfl worker queue helper acquired threadLock
        outside
  | taking thread _ worker queue helper acquired threadLock outside =>
      exact .taking thread (.inl rfl) worker queue helper acquired threadLock
        outside
  | locking thread _ worker queue helper acquired threadLock outside =>
      exact .locking thread (.inl rfl) worker queue helper acquired threadLock
        outside
  | refused result queue helper threadLock outside =>
      simp only [place, Place.before, Place.after, true_and, Bool.false_eq_true, false_and,
        or_false] at result
      exact .refused (.inl ⟨rfl, result⟩) queue helper threadLock
        outside
  | entered thread _ queue helper inside locked =>
      exact .entered thread (.inl rfl) queue helper inside
        locked
  | resting elsewhere => simp [place] at elsewhere
  | leaving _ elsewhere => simp [place, Place.exiting] at elsewhere
  | left _ elsewhere => simp [place, Place.exiting] at elsewhere

-- The second one, when the acquisition has not succeeded: a queued job goes,
-- a running one is left to itself.
theorem settling_course (state : State) (course : Course state) (place : state.place = .settling)
    (pending : state.acquired ≠ some (.ok ())) :
    Course { state.move (.closing .cancelled) with queue := state.queue.erase .enter } := by
  cases course with
  | queued thread _ worker queue helper acquired threadLock outside =>
      exact .refused (.inr ⟨rfl, pending⟩) (by simp [queue]) helper threadLock
        outside
  | taking thread _ worker queue helper acquired threadLock outside =>
      exact .taking thread (.inr ⟨_, rfl⟩) worker (by simp [queue]) helper acquired threadLock
        outside
  | locking thread _ worker queue helper acquired threadLock outside =>
      exact .locking thread (.inr ⟨_, rfl⟩) worker (by simp [queue]) helper acquired threadLock
        outside
  | refused _ queue helper threadLock outside =>
      exact .refused (.inr ⟨rfl, pending⟩) (by simp [queue]) helper threadLock
        outside
  | entered _ _ _ _ inside => exact absurd inside.acquired pending
  | resting elsewhere => simp [place] at elsewhere
  | leaving _ elsewhere => simp [place, Place.exiting] at elsewhere
  | left _ elsewhere => simp [place, Place.exiting] at elsewhere

theorem operating_course (state : State) (course : Course state) (place : state.place = .operating) :
    ∃ thread, state.queue = [] ∧ state.helper = .idle ∧ state.inside thread ∧ state.locked thread := by
  cases course with
  | entered thread _ queue helper inside locked => exact ⟨thread, queue, helper, inside, locked⟩
  | resting elsewhere => simp [place] at elsewhere
  | queued _ elsewhere => simp [place, Place.before] at elsewhere
  | taking _ elsewhere => simp [place, Place.before] at elsewhere
  | locking _ elsewhere => simp [place, Place.before] at elsewhere
  | refused elsewhere => simp [place, Place.before, Place.after] at elsewhere
  | leaving _ elsewhere => simp [place, Place.exiting] at elsewhere
  | left _ elsewhere => simp [place, Place.exiting] at elsewhere

theorem cancel_course (state : State) (tracked : Tracked state)
    (pending : state.place = .settling → state.acquired ≠ some (.ok ())) :
    Course state.cancel := by
  unfold State.cancel
  cases place : state.place with
  | created =>
      obtain ⟨worker, queue, helper, acquired, threadLock, outside⟩ :=
        created_course state tracked.course place
      exact .resting (.inr ⟨_, rfl⟩) worker queue helper acquired threadLock
        outside
  | acquiring =>
      dsimp only
      cases notified : state.notified with
      | false => exact acquiring_course state tracked.course place
      | true =>
          rw [if_pos rfl]
          exact settled_course state tracked.course (by rw [place]; rfl) (tracked.heard notified)
  | settling => exact settling_course state tracked.course place (pending place)
  | abandoning => exact exiting_course state tracked.course (.inl place) (.closing .cancelled) rfl
  | operating => exact tracked.course
  | releasing ending =>
      exact exiting_course state tracked.course (.inr ⟨ending, place⟩) (.ended .cancelled) rfl
  | closing ending => exact tracked.course
  | ended ending => exact tracked.course

theorem pick_course (state : State) (course : Course state) (thread : Nat)
    (worker : state.worker = some thread) (some : state.queue ≠ []) :
    Course (state.pick thread) := by
  unfold State.pick
  cases course with
  | queued other place mine queue _ acquired threadLock outside =>
      rw [queue]
      exact .taking thread (.inl place) worker rfl rfl acquired threadLock
        outside
  | leaving other place job inside locked =>
      cases job with
      | inl waiting =>
          have same : other = thread := by simpa [inside.worker] using worker
          subst same
          rw [waiting.1]
          exact .leaving other place (.inr ⟨rfl, rfl⟩)
            inside
            locked
      | inr running => exact absurd running.1 some
  | resting _ _ queue => exact absurd queue some
  | taking _ _ _ queue => exact absurd queue some
  | locking _ _ _ queue => exact absurd queue some
  | refused _ queue => exact absurd queue some
  | entered _ _ queue => exact absurd queue some
  | left _ _ queue => exact absurd queue some

theorem seeking_course (state : State) (course : Course state) (thread : Nat)
    (running : state.helper = .takingThread thread ∨ state.helper = .takingFlock thread) :
    (state.place.before = true ∨ ∃ ending, state.place = .closing ending) ∧
      state.worker = some thread ∧ state.queue = [] ∧ state.acquired = none ∧
        (state.helper = .takingThread thread → state.threadLock = none) ∧
          (state.helper = .takingFlock thread → state.threadLock = some thread) ∧ state.outside := by
  cases course with
  | taking other place worker queue helper acquired threadLock outside =>
      rw [helper] at running
      rcases running with same | same <;> cases same
      refine ⟨place, worker, queue, acquired, fun _ => threadLock, ?_, outside⟩
      intro locking
      cases helper.symm.trans locking
  | locking other place worker queue helper acquired threadLock outside =>
      rw [helper] at running
      rcases running with same | same <;> cases same
      refine ⟨place, worker, queue, acquired, ?_, fun _ => threadLock, outside⟩
      intro taking
      cases helper.symm.trans taking
  | leaving _ _ job => rcases job with ⟨_, helper⟩ | ⟨_, helper⟩ <;> simp [helper] at running
  | resting _ _ _ helper => simp [helper] at running
  | queued _ _ _ _ helper => simp [helper] at running
  | refused _ _ helper => simp [helper] at running
  | entered _ _ _ helper => simp [helper] at running
  | left _ _ _ helper => simp [helper] at running

theorem taking_course (state : State) (course : Course state) (thread : Nat)
    (running : state.helper = .takingThread thread) :
    (state.place.before = true ∨ ∃ ending, state.place = .closing ending) ∧
      state.worker = some thread ∧ state.queue = [] ∧ state.acquired = none ∧
        state.threadLock = none ∧ state.outside := by
  obtain ⟨place, worker, queue, acquired, free, _, outside⟩ :=
    seeking_course state course thread (.inl running)
  exact ⟨place, worker, queue, acquired, free running, outside⟩

theorem locking_course (state : State) (course : Course state) (thread : Nat)
    (running : state.helper = .takingFlock thread) :
    (state.place.before = true ∨ ∃ ending, state.place = .closing ending) ∧
      state.worker = some thread ∧ state.queue = [] ∧ state.acquired = none ∧
        state.threadLock = some thread ∧ state.outside := by
  obtain ⟨place, worker, queue, acquired, _, held, outside⟩ :=
    seeking_course state course thread (.inr running)
  exact ⟨place, worker, queue, acquired, held running, outside⟩

theorem refused_course (state : State) (error : Exception)
    (place : state.place.before = true ∨ ∃ ending, state.place = .closing ending)
    (acquired : state.acquired = some (.error error)) (queue : state.queue = [])
    (helper : state.helper = .idle) (threadLock : state.threadLock = none)
    (outside : state.outside) : Course state := by
  refine .refused ?_ queue helper threadLock outside
  cases place with
  | inl before => exact .inl ⟨before, error, acquired⟩
  | inr closing =>
      obtain ⟨ending, closing⟩ := closing
      exact .inr ⟨by rw [closing]; rfl, by simp [acquired]⟩

theorem leave_course (state : State) (course : Course state) (thread : Nat)
    (running : state.helper = .exiting thread) :
    Course (state.perform (.leave thread)) := by
  cases course with
  | leaving other place job inside locked =>
      cases job with
      | inl waiting => simp [running] at waiting
      | inr job =>
          have same : other = thread := by simpa [running, eq_comm] using job.2
          subst same
          refine .left other place job.1 rfl inside rfl rfl ?_
          simp [State.perform, locked.exits]
  | resting _ _ _ helper => simp [running] at helper
  | queued _ _ _ _ helper => simp [running] at helper
  | taking _ _ _ _ helper => simp [running] at helper
  | locking _ _ _ _ helper => simp [running] at helper
  | refused _ _ helper => simp [running] at helper
  | entered _ _ _ helper => simp [running] at helper
  | left _ _ _ helper => simp [running] at helper

theorem acquired_course (state : State) (course : Course state) (place : state.place = .acquiring)
    (acquired : state.acquired = some (.ok ())) :
    ∃ thread, state.queue = [] ∧ state.helper = .idle ∧ state.inside thread ∧ state.locked thread := by
  cases course with
  | entered thread _ queue helper inside locked => exact ⟨thread, queue, helper, inside, locked⟩
  | refused result => simp [acquired, place, Place.after] at result
  | resting elsewhere => simp [place] at elsewhere
  | queued _ _ _ _ _ pending => simp [acquired] at pending
  | taking _ _ _ _ _ pending => simp [acquired] at pending
  | locking _ _ _ _ _ pending => simp [acquired] at pending
  | leaving _ elsewhere => simp [place, Place.exiting] at elsewhere
  | left _ elsewhere => simp [place, Place.exiting] at elsewhere

theorem proceed_course (state : State) (course : Course state) (loaded : Except Exception PyValue)
    (place : state.place = .acquiring) (acquired : state.acquired = some (.ok ())) :
    Course (state.proceed loaded) := by
  obtain ⟨thread, queue, helper, inside, locked⟩ := acquired_course state course place acquired
  cases loaded with
  | error error =>
      exact exit_submitted (state.record (loadFailure error)) thread _ rfl queue helper
        inside
        locked
  | ok current =>
      exact .entered thread (.inr rfl) queue helper inside
        locked

theorem failed_course (state : State) (course : Course state) (error : Exception)
    (place : state.place = .acquiring) (acquired : state.acquired = some (.error error)) :
    Course (state.perform (.fail error)) := by
  cases course with
  | refused _ queue helper threadLock outside =>
      exact .refused (.inr ⟨rfl, by simp [State.perform, State.move, State.record, acquired]⟩) queue
        helper threadLock outside
  | entered _ _ _ _ inside => simp [inside.acquired] at acquired
  | resting elsewhere => simp [place] at elsewhere
  | queued _ _ _ _ _ pending => simp [acquired] at pending
  | taking _ _ _ _ _ pending => simp [acquired] at pending
  | locking _ _ _ _ _ pending => simp [acquired] at pending
  | leaving _ elsewhere => simp [place, Place.exiting] at elsewhere
  | left _ elsewhere => simp [place, Place.exiting] at elsewhere

theorem closing_course (state : State) (course : Course state) (ending : Ending)
    (place : state.place = .closing ending) (queue : state.queue = []) (helper : state.helper = .idle) :
    Course (state.move (.ended ending)) := by
  cases course with
  | refused result _ _ threadLock outside =>
      simp only [place, Place.before, Bool.false_eq_true, false_and, false_or] at result
      exact .refused (.inr ⟨rfl, result.2⟩) queue helper threadLock
        outside
  | left thread _ _ _ inside threadLock flock exits =>
      exact .left thread rfl queue helper inside
        threadLock flock exits
  | resting elsewhere => simp [place] at elsewhere
  | queued _ elsewhere => simp [place, Place.before] at elsewhere
  | taking _ _ _ _ busy => simp [helper] at busy
  | locking _ _ _ _ busy => simp [helper] at busy
  | entered _ elsewhere => simp [place, Place.before] at elsewhere
  | leaving _ _ job => simp [queue, helper] at job

theorem notify_course (state : State) (course : Course state) : Course (state.perform .notify) := by
  cases course with
  | resting place worker queue helper acquired threadLock outside =>
      exact .resting place worker queue helper acquired threadLock
        outside
  | queued thread place worker queue helper acquired threadLock outside =>
      exact .queued thread place worker queue helper acquired threadLock
        outside
  | taking thread place worker queue helper acquired threadLock outside =>
      exact .taking thread place worker queue helper acquired threadLock
        outside
  | locking thread place worker queue helper acquired threadLock outside =>
      exact .locking thread place worker queue helper acquired threadLock
        outside
  | refused place queue helper threadLock outside =>
      exact .refused place queue helper threadLock outside
  | entered thread place queue helper inside locked =>
      exact .entered thread place queue helper inside
        locked
  | leaving thread place job inside locked =>
      exact .leaving thread place job inside
        locked
  | left thread place queue helper inside threadLock flock exits =>
      exact .left thread place queue helper inside
        threadLock flock exits

theorem course_perform (state : State) (event : Event) (tracked : Tracked state)
    (guard : state.enabled event) (uninterrupted : Uninterrupted state event) :
    Course (state.perform event) := by
  have course := tracked.course
  cases event with
  | begin =>
      obtain ⟨worker, queue, helper, acquired, threadLock, outside⟩ :=
        created_course state course guard
      have begun : state.perform .begin = { state with
          place := .acquiring, worker := some state.spare, spare := state.spare + 1,
          queue := [.enter] } := by
        simp [State.perform, State.submit, State.move, worker, queue]
      rw [begun]
      exact .queued state.spare rfl rfl rfl helper acquired threadLock
        outside
  | cannotStart error =>
      obtain ⟨worker, queue, helper, acquired, threadLock, outside⟩ :=
        created_course state course guard
      exact .resting (.inr ⟨_, rfl⟩) worker queue helper acquired threadLock
        outside
  | cancel => exact cancel_course state tracked uninterrupted
  | pick thread => exact pick_course state course thread guard.1 guard.2.2
  | takeThread thread =>
      obtain ⟨place, worker, queue, acquired, _, outside⟩ := taking_course state course thread guard
      exact .locking thread place worker queue rfl acquired rfl
        outside
  | refuse thread error =>
      obtain ⟨place, _, queue, _, threadLock, outside⟩ := taking_course state course thread guard
      exact refused_course _ error place rfl queue rfl threadLock
        outside
  | takeFlock thread =>
      obtain ⟨_, worker, queue, _, threadLock, outside⟩ := locking_course state course thread guard
      refine .entered thread (.inl ?_) queue rfl ⟨worker, rfl, ?_⟩ ⟨threadLock, rfl, outside.exits⟩
      · cases uninterrupted with
        | inl place => simp [State.perform, place, Place.before]
        | inr place => simp [State.perform, place, Place.before]
      · simp [State.perform, outside.entries]
  | giveUp thread error =>
      obtain ⟨place, _, queue, _, _, outside⟩ := locking_course state course thread guard
      exact refused_course _ error place rfl queue rfl rfl
        outside
  | leave thread => exact leave_course state course thread guard
  | notify => exact notify_course state course
  | proceed loaded => exact proceed_course state course loaded guard.1 guard.2.2
  | fail error => exact failed_course state course error guard.1 guard.2.2
  | settle => exact settled_course state course (by rw [guard.1]; rfl) (tracked.heard guard.2)
  | abandoned => exact exiting_course state course (.inl guard.1) (.closing .cancelled) rfl
  | finish ending =>
      obtain ⟨thread, queue, helper, inside, locked⟩ := operating_course state course guard
      exact exit_submitted state thread (.releasing ending) rfl queue helper inside locked
  | released ending => exact exiting_course state course (.inr ⟨ending, guard.1⟩) (.closing ending) rfl
  | shutDown ending => exact closing_course state course ending guard.1 guard.2.1 guard.2.2

def Unheard (before after : State) : Prop :=
  after.acquired = before.acquired ∧ after.notified = before.notified

theorem submit_unheard (state : State) (job : Job) : Unheard state (state.submit job) := by
  unfold State.submit
  split <;> exact ⟨rfl, rfl⟩

theorem settled_unheard (state : State) : Unheard state state.settled := by
  unfold State.settled
  split
  · exact submit_unheard state .exit
  · exact ⟨rfl, rfl⟩

theorem cancel_unheard (state : State) : Unheard state state.cancel := by
  unfold State.cancel
  split
  · exact ⟨rfl, rfl⟩
  · split
    · exact settled_unheard state
    · exact ⟨rfl, rfl⟩
  all_goals exact ⟨rfl, rfl⟩

theorem pick_unheard (state : State) (thread : Nat) : Unheard state (state.pick thread) := by
  unfold State.pick
  split <;> exact ⟨rfl, rfl⟩

theorem proceed_unheard (state : State) (loaded : Except Exception PyValue) :
    Unheard state (state.proceed loaded) := by
  cases loaded with
  | error error => exact submit_unheard (state.record (loadFailure error)) .exit
  | ok current => exact ⟨rfl, rfl⟩

theorem heard_unheard (before after : State) (heard : before.notified = true → before.acquired ≠ none)
    (same : Unheard before after) : after.notified = true → after.acquired ≠ none := by
  rw [same.1, same.2]
  exact heard

theorem heard_perform (state : State) (event : Event) (guard : state.enabled event)
    (heard : state.notified = true → state.acquired ≠ none) :
    (state.perform event).notified = true → (state.perform event).acquired ≠ none := by
  cases event with
  | begin => exact heard_unheard state _ heard (submit_unheard state .enter)
  | cancel => exact heard_unheard state _ heard (cancel_unheard state)
  | pick thread => exact heard_unheard state _ heard (pick_unheard state thread)
  | proceed loaded => exact heard_unheard state _ heard (proceed_unheard state loaded)
  | settle => exact heard_unheard state _ heard (settled_unheard state)
  | finish ending => exact heard_unheard state _ heard (submit_unheard state .exit)
  | notify => exact fun _ => guard.1
  | refuse thread error => exact fun _ => by nofun
  | takeFlock thread => exact fun _ => by nofun
  | giveUp thread error => exact fun _ => by nofun
  | cannotStart error => exact heard
  | takeThread thread => exact heard
  | leave thread => exact heard
  | fail error => exact heard
  | abandoned => exact heard
  | released ending => exact heard
  | shutDown ending => exact heard

theorem async_lock_returned (thread : Nat) (state : State)
    (reached : (asyncSystem.restrict Uninterrupted).Reaches Set.univ (State.start thread) state)
    (atRest : state.atRest) : LockReturned state := by
  have tracked : Tracked state := by
    apply System.reaches_invariant _ Set.univ _ _ _ _ reached (tracked_start thread)
    intro before event _ tracked guard
    exact ⟨course_perform before event tracked guard.1 guard.2,
      heard_perform before event guard.1 tracked.heard⟩
  exact course_at_rest state tracked.course atRest

-- The second cancellation comes while the helper is still taking the flock.
def interruptedEvents : List Event :=
  [.begin, .pick 7, .takeThread 7, .cancel, .cancel, .takeFlock 7, .shutDown .cancelled]

def interruptedFinal : State := asyncSystem.performAll (State.start 7) interruptedEvents

theorem interrupted_lock_leaks :
    asyncSystem.Reaches Set.univ (State.start 7) interruptedFinal ∧ interruptedFinal.atRest ∧
      interruptedFinal.entries = [7] ∧ interruptedFinal.exits = [] ∧
        interruptedFinal.threadLock = some 7 ∧ interruptedFinal.flock = true ∧
          ¬ LockReturned interruptedFinal := by
  refine ⟨?_, ⟨⟨.cancelled, rfl⟩, rfl, rfl⟩, rfl, rfl, rfl, rfl, fun returned => ?_⟩
  · apply System.reaches_perform_all _ Set.univ _ interruptedEvents (fun _ _ => trivial)
    exact ⟨rfl, ⟨rfl, rfl, nofun⟩, rfl, rfl, rfl, rfl, ⟨rfl, rfl, rfl⟩, trivial⟩
  · cases returned.flock

-- One cancellation while the helper waits for the flock, and one more while
-- the exit that it leads to is under way.
def cancelledEvents : List Event :=
  [.begin, .pick 7, .takeThread 7, .cancel, .takeFlock 7, .notify, .settle, .cancel, .pick 7,
    .leave 7, .shutDown .cancelled]

def cancelledFinal : State := asyncSystem.performAll (State.start 7) cancelledEvents

theorem async_lock_returned_sample : LockReturned cancelledFinal := by
  have guards : asyncSystem.EnabledAll (State.start 7) cancelledEvents :=
    ⟨rfl, ⟨rfl, rfl, nofun⟩, rfl, rfl, rfl, ⟨nofun, rfl⟩, ⟨rfl, rfl⟩, rfl, ⟨rfl, rfl, nofun⟩, rfl,
      ⟨rfl, rfl, rfl⟩, trivial⟩
  have kept : asyncSystem.EveryStep Uninterrupted (State.start 7) cancelledEvents :=
    ⟨trivial, trivial, trivial, nofun, .inr rfl, trivial, trivial, nofun, trivial, trivial, trivial,
      trivial⟩
  have reached := System.reaches_restrict _ _ (State.start 7) cancelledEvents guards kept
  exact async_lock_returned 7 cancelledFinal reached ⟨⟨.cancelled, rfl⟩, rfl, rfl⟩

end SchwabGateway.Token.Async
