import SchwabGateway.Provider.Exclusivity

set_option autoImplicit false

namespace SchwabGateway.Provider

open SchwabGateway.Library

variable {α ε : Type}

def ownSteps (request : Nat) : Set (Event α ε) := fun event =>
  match event with
  | .startWorker other => other = request
  | .failStart other => other = request
  | .releaseFailed other => other = request
  | .enter other => other = request
  | .finish other _ => other = request
  | .release other => other = request
  | _ => False

def distance (place : Place) (worker : Worker α ε) : Nat :=
  match worker with
  | .started => 3
  | .executing => 2
  | .finished _ => 1
  | .absent =>
      match place with
      | .starting => 4
      | .startFailed => 1
      | _ => 0
  | _ => 0

def State.distance (state : State α ε) (request : Nat) : Nat :=
  Provider.distance (state.place request) (state.worker request)

theorem own_step_request (request : Nat) (event : Event α ε) (own : event ∈ ownSteps request) :
    event.request = request := by
  cases event with
  | startWorker other => exact own
  | failStart other => exact own
  | releaseFailed other => exact own
  | enter other => exact own
  | finish other outcome => exact own
  | release other => exact own
  | call other => cases own
  | acquire other => cases own
  | busy other => cases own
  | wake other => cases own
  | cancel other => cases own
  | deliver other => cases own
  | resume other => cases own

theorem owner_steps [Inhabited ε] (state : State α ε) (request : Nat) (leased : Leased state)
    (owner : state.ledger.owner = some request) :
    ∃ event, event ∈ ownSteps request ∧ state.enabled event := by
  cases leased.course request with
  | waiting _ _ _ other => exact absurd owner other
  | abandoned _ _ _ other => exact absurd owner other
  | failed _ _ _ other => exact absurd owner other
  | through _ _ _ other => exact absurd owner other
  | leasing place =>
      cases here : state.place request with
      | starting => exact ⟨.startWorker request, rfl, here⟩
      | startFailed => exact ⟨.releaseFailed request, rfl, here⟩
      | _ => simp [here, Place.leasing] at place
  | working _ worker =>
      cases here : state.worker request with
      | started => exact ⟨.enter request, rfl, here⟩
      | executing => exact ⟨.finish request (.error default), rfl, here⟩
      | finished outcome => exact ⟨.release request, rfl, outcome, here⟩
      | _ => simp [here, Worker.working] at worker

-- As long as the owner keeps the lease each of its own steps brings it nearer
-- to giving it back, and a cancellation takes it no further away.
theorem distance_step (state : State α ε) (event : Event α ε) (leased : Leased state)
    (guard : state.enabled event) (owner : state.ledger.owner = some event.request)
    (kept : (state.perform event).ledger = state.ledger) :
    (state.perform event).distance event.request ≤ state.distance event.request ∧
      (event ∈ ownSteps event.request →
        (state.perform event).distance event.request < state.distance event.request) := by
  have course := leased.course event.request
  cases event with
  | call request =>
      have place : state.place request = .idle := guard
      exact absurd owner (waiting_course state request course (by rw [place]; rfl)).2.2.1
  | acquire request =>
      have place : state.place request = .checking := guard.1
      exact absurd owner (waiting_course state request course (by rw [place]; rfl)).2.2.1
  | busy request =>
      have place : state.place request = .checking := guard.1
      exact absurd owner (waiting_course state request course (by rw [place]; rfl)).2.2.1
  | wake request =>
      have place : state.place request = .sleeping := guard
      exact absurd owner (waiting_course state request course (by rw [place]; rfl)).2.2.1
  | cancel request =>
      refine ⟨?_, fun own => by cases own⟩
      simp only [State.distance, State.perform, State.move, Event.request, Function.update_self]
      cases guard with
      | inl place => simp [place, distance]
      | inr place => simp [place, distance]
  | startWorker request =>
      have place : state.place request = .starting := guard
      have worker := (leasing_course state request course (by rw [place]; rfl)).1
      have lower : (state.perform (.startWorker request)).distance request < state.distance request := by
        simp [State.distance, State.perform, State.move, State.turn, place, worker, distance]
      exact ⟨Nat.le_of_lt lower, fun _ => lower⟩
  | failStart request =>
      have place : state.place request = .starting := guard
      have worker := (leasing_course state request course (by rw [place]; rfl)).1
      have lower : (state.perform (.failStart request)).distance request < state.distance request := by
        simp [State.distance, State.perform, State.move, place, worker, distance]
      exact ⟨Nat.le_of_lt lower, fun _ => lower⟩
  | enter request =>
      have worker : state.worker request = .started := guard
      have lower : (state.perform (.enter request)).distance request < state.distance request := by
        simp [State.distance, State.perform, State.turn, worker, distance]
      exact ⟨Nat.le_of_lt lower, fun _ => lower⟩
  | finish request outcome =>
      have worker : state.worker request = .executing := guard
      have lower : (state.perform (.finish request outcome)).distance request < state.distance request := by
        simp [State.distance, State.perform, State.turn, worker, distance]
      exact ⟨Nat.le_of_lt lower, fun _ => lower⟩
  | releaseFailed request => simp [State.perform, State.releaseLease, State.move] at kept
  | release request => simp [State.perform, State.releaseLease, State.turn] at kept
  | deliver request =>
      obtain ⟨outcome, worker⟩ := guard
      exact absurd owner (through_course state request course (by rw [worker]; rfl)).2.2.1
  | resume request =>
      obtain ⟨_, outcome, worker⟩ := guard
      exact absurd owner (through_course state request course (by rw [worker]; rfl)).2.2.1

theorem owner_step (state : State α ε) (event : Event α ε) (request : Nat) (leased : Leased state)
    (guard : state.enabled event) (owner : state.ledger.owner = some request) :
    ((state.perform event).ledger.owner = some request ∧
        (state.perform event).distance request ≤ state.distance request ∧
        (event ∈ ownSteps request →
          (state.perform event).distance request < state.distance request)) ∨
      (state.perform event).ledger.releases request = 1 := by
  rcases ledger_cases state event leased guard with
    ⟨same, _⟩ | ⟨_, _, free⟩ | ⟨releaser, given, _, giving⟩
  · refine .inl ⟨by rw [same]; exact owner, ?_⟩
    by_cases acting : event.request = request
    · subst acting
      exact distance_step state event leased guard owner same
    · unfold State.distance
      rw [place_other state event request (Ne.symm acting), worker_other state event request (Ne.symm acting)]
      exact ⟨Nat.le_refl _, fun own => absurd (own_step_request request event own) acting⟩
  · rw [owner] at free
    cases free
  · have after := leased_perform state event leased guard
    have counts := balanced_counts (state.perform event).ledger request after.balanced
    have once := course_once state request (leased.course request)
    have before := balanced_counts state.ledger request leased.balanced
    rw [owner] at giving
    cases giving
    rw [owner, if_pos rfl] at before
    rw [given, acquisitions_given] at counts
    simp only [Ledger.owner, reduceCtorEq, if_false] at counts
    rw [given]
    exact .inr (by omega)

theorem worker_lease_exclusive [Inhabited ε] (state : State α ε)
    (reached : (leaseSystem α ε).Reaches Set.univ (State.start α ε) state) :
    LeaseExclusive state ∧
      ∀ run : (leaseSystem α ε).Execution Set.univ, run.state 0 = state →
        (∀ request, run.WeaklyFair (ownSteps request)) → ∀ request, state.acquired request →
          run.Eventually 0 (fun later => later.ledger.releases request = 1) := by
  have leased := leased_reachable state reached
  refine ⟨lease_exclusive state leased, ?_⟩
  rintro run rfl fair request acquired
  have always : ∀ n, Leased (run.state n) := by
    intro n
    apply run.invariant_always Leased _ leased
    intro before event _ held guard
    exact leased_perform before event held guard
  by_cases owner : (run.state 0).ledger.owner = some request
  · have released := run.leads_to_rank (fun s => s.ledger.owner = some request)
      (fun s => s.ledger.releases request = 1) (fun s => s.distance request) (ownSteps request)
      (fair request) ?_ (fun n owner => owner_steps _ request (always n) owner) ?_
    · exact released 0 owner
    · intro n owner
      rw [run.follows n]
      exact (owner_step _ _ request (always n) (run.guarded n) owner).imp_left
        (fun kept => ⟨kept.1, kept.2.1⟩)
    · intro n owner own
      rw [run.follows n]
      exact (owner_step _ _ request (always n) (run.guarded n) owner).imp_left
        (fun kept => ⟨kept.1, kept.2.2 own⟩)
  · refine ⟨0, Nat.le_refl 0, ?_⟩
    have counts := balanced_counts _ request leased.balanced
    have once := course_once _ request (leased.course request)
    have positive := (acquisitions_pos _ request).mpr acquired
    rw [if_neg owner] at counts
    show (run.state 0).ledger.releases request = 1
    omega

-- Request 0 is cancelled while its thread runs, request 1 waits for that
-- thread and then cannot start its own.
def sampleEvents : List (Event Nat String) :=
  [.call 0, .acquire 0, .startWorker 0, .call 1, .busy 1, .cancel 0, .wake 1, .enter 0,
    .finish 0 (.error "SchwabClientOperationError"), .busy 1, .release 0, .wake 1, .acquire 1,
    .failStart 1, .releaseFailed 1]

def sampleFinal : State Nat String :=
  (leaseSystem Nat String).performAll (State.start Nat String) sampleEvents

theorem sample_enabled :
    (leaseSystem Nat String).EnabledAll (State.start Nat String) sampleEvents :=
  ⟨rfl, ⟨rfl, rfl⟩, rfl, rfl, ⟨rfl, rfl⟩, .inr rfl, rfl, rfl, rfl, ⟨rfl, rfl⟩, ⟨_, rfl⟩, rfl,
    ⟨rfl, rfl⟩, rfl, rfl, trivial⟩

theorem worker_lease_exclusive_sample :
    sampleFinal.ledger =
        [.given 1 .coroutine, .taken 1, .given 0 .thread, .taken 0] ∧
      sampleFinal.active = false ∧ LeaseExclusive sampleFinal := by
  refine ⟨rfl, rfl, ?_⟩
  have reached := System.reaches_perform_all _ Set.univ _ sampleEvents (fun _ _ => trivial)
    sample_enabled
  exact (worker_lease_exclusive sampleFinal reached).1

end SchwabGateway.Provider
