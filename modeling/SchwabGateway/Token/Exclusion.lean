import SchwabGateway.Token.Atomicity
import SchwabGateway.Token.Locking

set_option autoImplicit false

namespace SchwabGateway.Token

open SchwabGateway.Python SchwabGateway.Library

variable (codec : Codec) (settings : Settings) (requests : Nat → Request)

def Stage.waiting : Stage → Bool
  | .idle => true
  | .waitingThread => true
  | .waitingFlock => true
  | _ => false

-- The call that has the flock is the one inside and the newest to enter; all
-- others have not begun their locked code or are through with it.
structure Consistent (initial : Documents) (state : State) : Prop where
  follows : (tokenSections codec settings requests).Follows initial state.documents state.body
    state.entered
  holder : ∀ call, state.stage call = .inside ↔ state.flock = some call
  newest : ∀ call, state.flock = some call →
    ∃ steps earlier, state.entered = (call, steps) :: earlier
  fresh : ∀ call, (state.stage call).waiting = true → call ∉ state.entered.map Prod.fst
  finished : ∀ call, call ∈ state.entered.map Prod.fst → state.flock ≠ some call →
    (state.body call).phase.isLeaving = true
  unbegun : ∀ call, call ∉ state.entered.map Prod.fst →
    state.body call = (tokenSections codec settings requests).start call

variable {codec settings requests}

theorem consistent_start (entry : Option Entry) :
    Consistent codec settings requests (Documents.start entry)
      (State.start codec settings requests entry) where
  follows := Sections.follows_start _ _
  holder call := by simp [State.start]
  newest call held := by simp [State.start] at held
  fresh call _ := by simp [State.start]
  finished call member _ := by simp [State.start] at member
  unbegun _ _ := rfl

theorem consistent_move (initial : Documents) (before after : State) (call : Nat) (stage : Stage)
    (consistent : Consistent codec settings requests initial before)
    (documents : after.documents = before.documents) (body : after.body = before.body)
    (flock : after.flock = before.flock) (entered : after.entered = before.entered)
    (moved : after.stage = Function.update before.stage call stage)
    (outside : before.stage call ≠ .inside) (away : stage ≠ .inside)
    (unentered : stage.waiting = true → (before.stage call).waiting = true) :
    Consistent codec settings requests initial after where
  follows := by
    rw [documents, body, entered]
    exact consistent.follows
  holder other := by
    rw [flock, ← consistent.holder other, moved]
    by_cases same : other = call
    · subst same
      simp [away, outside]
    · rw [Function.update_of_ne same]
  newest := by
    rw [flock, entered]
    exact consistent.newest
  fresh other waiting := by
    rw [entered]
    apply consistent.fresh
    rw [moved] at waiting
    by_cases same : other = call
    · subst same
      rw [Function.update_self] at waiting
      exact unentered waiting
    · rwa [Function.update_of_ne same] at waiting
  finished := by
    rw [flock, body, entered]
    exact consistent.finished
  unbegun := by
    rw [body, entered]
    exact consistent.unbegun

theorem consistent_acquire (initial : Documents) (state : State) (call : Nat)
    (consistent : Consistent codec settings requests initial state)
    (waiting : state.stage call = .waitingFlock) (free : state.flock = none) :
    Consistent codec settings requests initial
      (state.perform codec settings requests (.acquireFlock call)) where
  follows := by
    apply Sections.follows_enter initial _ state.body _ state.entered call consistent.follows
    · exact consistent.fresh call (by rw [waiting]; rfl)
    · exact Function.update_self ..
    · intro other different
      exact Function.update_of_ne different ..
  holder other := by
    by_cases same : other = call
    · subst same
      simp [State.perform, State.move]
    · have outside := (consistent.holder other).not.mpr (by rw [free]; nofun)
      simp [State.perform, State.move, Function.update_of_ne same, outside, Ne.symm same]
  newest other held := by
    cases held
    exact ⟨0, state.entered, rfl⟩
  fresh other waits := by
    by_cases same : other = call
    · subst same
      simp [State.perform, State.move, Stage.waiting] at waits
    · simp only [State.perform, State.move, Function.update_of_ne same] at waits
      have unentered := consistent.fresh other waits
      simpa [State.perform, same] using unentered
  finished other member away := by
    have different : other ≠ call := by
      rintro rfl
      exact away rfl
    simp only [State.perform, List.map_cons, List.mem_cons, different, false_or] at member
    simp only [State.perform, Function.update_of_ne different]
    exact consistent.finished other member (by rw [free]; nofun)
  unbegun other unentered := by
    simp only [State.perform, List.map_cons, List.mem_cons, not_or] at unentered
    simp only [State.perform, Function.update_of_ne unentered.1]
    exact consistent.unbegun other unentered.2

theorem consistent_advance (initial : Documents) (state : State) (call : Nat)
    (consistent : Consistent codec settings requests initial state)
    (inside : state.stage call = .inside) :
    Consistent codec settings requests initial
      (state.perform codec settings requests (.advance call)) := by
  have held := (consistent.holder call).mp inside
  obtain ⟨steps, earlier, entered⟩ := consistent.newest call held
  have counted : countStep state.entered = (call, steps + 1) :: earlier := by rw [entered]; rfl
  have keys : (countStep state.entered).map Prod.fst = state.entered.map Prod.fst := by
    rw [counted, entered]
    rfl
  exact
    { follows := by
        have before := consistent.follows
        rw [entered] at before
        simp only [State.perform, State.advance, State.announce, counted]
        apply Sections.follows_advance initial state.documents state.body _ earlier call steps _ before
        · simp only [Function.update_self]
          rfl
        · intro other different
          exact Function.update_of_ne different ..
      holder := consistent.holder
      newest := by
        intro other same
        have different : other = call := by
          simp only [State.perform, State.advance, State.announce, held, Option.some.injEq] at same
          exact same.symm
        subst different
        exact ⟨steps + 1, earlier, counted⟩
      fresh := by
        intro other waits
        simp only [State.perform, State.advance, State.announce, keys]
        exact consistent.fresh other waits
      finished := by
        intro other member away
        have different : other ≠ call := by
          rintro rfl
          exact away held
        simp only [State.perform, State.advance, State.announce, keys] at member
        simp only [State.perform, State.advance, State.announce, Function.update_of_ne different]
        exact consistent.finished other member away
      unbegun := by
        intro other unentered
        simp only [State.perform, State.advance, State.announce, keys] at unentered
        have different : other ≠ call := by
          rintro rfl
          exact unentered (by simp [entered])
        simp only [State.perform, State.advance, State.announce, Function.update_of_ne different]
        exact consistent.unbegun other unentered }

theorem consistent_unlock (initial : Documents) (state : State) (call : Nat)
    (consistent : Consistent codec settings requests initial state)
    (inside : state.stage call = .inside) (done : (state.body call).phase.isLeaving = true) :
    Consistent codec settings requests initial
      (state.perform codec settings requests (.unlockFlock call)) where
  follows := consistent.follows
  holder other := by
    have held := (consistent.holder call).mp inside
    by_cases same : other = call
    · subst same
      simp [State.perform, State.move]
    · have outside : state.stage other ≠ .inside := by
        intro within
        have also := (consistent.holder other).mp within
        rw [held] at also
        exact same (Option.some.inj also).symm
      simp [State.perform, State.move, Function.update_of_ne same, outside]
  newest other held := by cases held
  fresh other waits := by
    by_cases same : other = call
    · subst same
      simp [State.perform, State.move, Stage.waiting] at waits
    · simp only [State.perform, State.move, Function.update_of_ne same] at waits
      exact consistent.fresh other waits
  finished other member _ := by
    by_cases same : other = call
    · subst same
      exact done
    · apply consistent.finished other member
      rw [(consistent.holder call).mp inside]
      simpa using Ne.symm same
  unbegun := consistent.unbegun

theorem consistent_perform (initial : Documents) (state : State) (event : Event)
    (consistent : Consistent codec settings requests initial state)
    (guard : state.enabled requests event) :
    Consistent codec settings requests initial (state.perform codec settings requests event) := by
  cases event with
  | begin call =>
      apply consistent_move initial state (state.perform codec settings requests (.begin call)) call .waitingThread consistent rfl rfl rfl rfl rfl
      · rw [show state.stage call = .idle from guard]; nofun
      · nofun
      · intro _
        rw [show state.stage call = .idle from guard]
        rfl
  | acquireThread call =>
      apply consistent_move initial state (state.perform codec settings requests (.acquireThread call)) call .waitingFlock consistent rfl rfl rfl rfl rfl
      · rw [guard.1]; nofun
      · nofun
      · intro _
        rw [guard.1]
        rfl
  | threadTimeout call =>
      apply consistent_move initial state (state.perform codec settings requests (.threadTimeout call)) call (.recording false) consistent rfl rfl rfl rfl rfl
      · rw [guard.1]; nofun
      · nofun
      · nofun
  | acquireFlock call => exact consistent_acquire initial state call consistent guard.1 guard.2
  | flockTimeout call =>
      apply consistent_move initial state (state.perform codec settings requests (.flockTimeout call)) call (.recording false) consistent rfl rfl rfl rfl rfl
      · rw [guard.1]; nofun
      · nofun
      · nofun
  | advance call => exact consistent_advance initial state call consistent guard.1
  | unlockFlock call => exact consistent_unlock initial state call consistent guard.1 guard.2
  | releaseThread call =>
      apply consistent_move initial state (state.perform codec settings requests (.releaseThread call)) call (.recording true) consistent rfl rfl rfl rfl rfl
      · rw [show state.stage call = .unlocked from guard]; nofun
      · nofun
      · nofun
  | record call =>
      cases guard with
      | inl recording =>
          apply consistent_move initial state (state.perform codec settings requests (.record call)) call (.ended true) consistent
          all_goals simp [State.perform, recording, State.move, State.announce, Stage.waiting]
      | inr recording =>
          apply consistent_move initial state (state.perform codec settings requests (.record call)) call (.ended false) consistent
          all_goals simp [State.perform, recording, State.move, State.announce, Stage.waiting]

end SchwabGateway.Token
