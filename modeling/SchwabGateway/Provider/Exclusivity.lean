import SchwabGateway.Provider.Lease

set_option autoImplicit false

namespace SchwabGateway.Provider

open SchwabGateway.Library

variable {α ε : Type}

def Place.leasing : Place → Bool
  | .starting => true
  | .startFailed => true
  | _ => false

def Place.waiting : Place → Bool
  | .idle => true
  | .checking => true
  | .sleeping => true
  | _ => false

def Worker.working : Worker α ε → Bool
  | .started => true
  | .executing => true
  | .finished _ => true
  | _ => false

def Worker.through : Worker α ε → Bool
  | .released _ => true
  | .delivered _ => true
  | _ => false

def State.acquired (state : State α ε) (request : Nat) : Prop := .taken request ∈ state.ledger

def State.failedToStart (state : State α ε) (request : Nat) : Prop :=
  state.place request = .ended .raised ∧ state.worker request = .absent

structure LeaseExclusive (state : State α ε) : Prop where
  one_executing : ∀ first second, state.worker first = .executing →
    state.worker second = .executing → first = second
  active_iff : state.active = true ↔ ∃! request, state.acquired request ∧
    (state.worker request).through = false ∧ ¬ state.failedToStart request
  acquired_once : ∀ request, state.ledger.acquisitions request ≤ 1
  released_once : ∀ request, state.ledger.acquisitions request = state.ledger.releases request +
    if state.ledger.owner = some request then 1 else 0
  release_follows : ∀ later request releaser earlier,
    state.ledger = later ++ .given request releaser :: earlier →
      ∃ rest, earlier = .taken request :: rest
  cancelled_started : ∀ request, state.place request = .ended .cancelled →
    .given request .coroutine ∉ state.ledger
  cancelled_waiting : ∀ request, state.place request = .ended .cancelled →
    state.worker request = .absent → state.ledger.releases request = 0
  cancelled_final : ∀ request event, state.place request = .ended .cancelled → state.enabled event →
    (state.perform event).place request = .ended .cancelled

inductive Course (state : State α ε) (request : Nat) : Prop where
  | waiting (place : (state.place request).waiting = true) (worker : state.worker request = .absent)
      (taken : state.ledger.acquisitions request = 0) (owner : state.ledger.owner ≠ some request)
      (given : .given request .coroutine ∉ state.ledger)
  | abandoned (place : state.place request = .ended .cancelled)
      (worker : state.worker request = .absent) (taken : state.ledger.acquisitions request = 0)
      (owner : state.ledger.owner ≠ some request) (given : .given request .coroutine ∉ state.ledger)
  | leasing (place : (state.place request).leasing = true) (worker : state.worker request = .absent)
      (taken : state.ledger.acquisitions request = 1) (owner : state.ledger.owner = some request)
      (given : .given request .coroutine ∉ state.ledger)
  | failed (place : state.place request = .ended .raised) (worker : state.worker request = .absent)
      (taken : state.ledger.acquisitions request = 1) (owner : state.ledger.owner ≠ some request)
      (given : .given request .coroutine ∈ state.ledger)
  | working (place : state.place request = .awaiting ∨ state.place request = .ended .cancelled)
      (worker : (state.worker request).working = true)
      (taken : state.ledger.acquisitions request = 1) (owner : state.ledger.owner = some request)
      (given : .given request .coroutine ∉ state.ledger)
  | through (place : state.place request = .awaiting ∨ ∃ ending, state.place request = .ended ending)
      (worker : (state.worker request).through = true)
      (taken : state.ledger.acquisitions request = 1) (owner : state.ledger.owner ≠ some request)
      (given : .given request .coroutine ∉ state.ledger)

structure Leased (state : State α ε) : Prop where
  balanced : state.ledger.Balanced
  active : state.active = state.ledger.owner.isSome
  course : ∀ request, Course state request

theorem leased_start : Leased (State.start α ε) where
  balanced := .empty
  active := rfl
  course request := .waiting rfl rfl rfl (by simp [State.start, Ledger.owner]) (by simp [State.start])

theorem waiting_course (state : State α ε) (request : Nat) (course : Course state request)
    (place : (state.place request).waiting = true) :
    state.worker request = .absent ∧ state.ledger.acquisitions request = 0 ∧
      state.ledger.owner ≠ some request ∧ .given request .coroutine ∉ state.ledger := by
  cases course with
  | waiting _ worker taken owner given => exact ⟨worker, taken, owner, given⟩
  | abandoned elsewhere => simp [elsewhere, Place.waiting] at place
  | leasing elsewhere => cases here : state.place request <;> simp_all [Place.waiting, Place.leasing]
  | failed elsewhere => simp [elsewhere, Place.waiting] at place
  | working elsewhere => cases elsewhere with | _ here => simp [here, Place.waiting] at place
  | through elsewhere =>
      rcases elsewhere with here | ⟨ending, here⟩ <;> simp [here, Place.waiting] at place

theorem leasing_course (state : State α ε) (request : Nat) (course : Course state request)
    (place : (state.place request).leasing = true) :
    state.worker request = .absent ∧ state.ledger.acquisitions request = 1 ∧
      state.ledger.owner = some request ∧ .given request .coroutine ∉ state.ledger := by
  cases course with
  | leasing _ worker taken owner given => exact ⟨worker, taken, owner, given⟩
  | waiting elsewhere => cases here : state.place request <;> simp_all [Place.waiting, Place.leasing]
  | abandoned elsewhere => simp [elsewhere, Place.leasing] at place
  | failed elsewhere => simp [elsewhere, Place.leasing] at place
  | working elsewhere => cases elsewhere with | _ here => simp [here, Place.leasing] at place
  | through elsewhere =>
      rcases elsewhere with here | ⟨ending, here⟩ <;> simp [here, Place.leasing] at place

theorem working_course (state : State α ε) (request : Nat) (course : Course state request)
    (worker : (state.worker request).working = true) :
    (state.place request = .awaiting ∨ state.place request = .ended .cancelled) ∧
      state.ledger.acquisitions request = 1 ∧ state.ledger.owner = some request ∧
        .given request .coroutine ∉ state.ledger := by
  cases course with
  | working place _ taken owner given => exact ⟨place, taken, owner, given⟩
  | waiting _ absent => simp [absent, Worker.working] at worker
  | abandoned _ absent => simp [absent, Worker.working] at worker
  | leasing _ absent => simp [absent, Worker.working] at worker
  | failed _ absent => simp [absent, Worker.working] at worker
  | through _ done =>
      cases here : state.worker request <;> simp_all [Worker.working, Worker.through]

theorem through_course (state : State α ε) (request : Nat) (course : Course state request)
    (worker : (state.worker request).through = true) :
    (state.place request = .awaiting ∨ ∃ ending, state.place request = .ended ending) ∧
      state.ledger.acquisitions request = 1 ∧ state.ledger.owner ≠ some request ∧
        .given request .coroutine ∉ state.ledger := by
  cases course with
  | through place _ taken owner given => exact ⟨place, taken, owner, given⟩
  | waiting _ absent => simp [absent, Worker.through] at worker
  | abandoned _ absent => simp [absent, Worker.through] at worker
  | leasing _ absent => simp [absent, Worker.through] at worker
  | failed _ absent => simp [absent, Worker.through] at worker
  | working _ busy =>
      cases here : state.worker request <;> simp_all [Worker.working, Worker.through]

theorem awaiting_course (state : State α ε) (request : Nat) (course : Course state request)
    (place : state.place request = .awaiting) :
    (state.worker request).working = true ∨ (state.worker request).through = true := by
  cases course with
  | working _ worker => exact .inl worker
  | through _ worker => exact .inr worker
  | waiting elsewhere => simp [place, Place.waiting] at elsewhere
  | leasing elsewhere => simp [place, Place.leasing] at elsewhere
  | abandoned elsewhere => simp [place] at elsewhere
  | failed elsewhere => simp [place] at elsewhere

theorem course_congr (before after : State α ε) (request : Nat) (course : Course before request)
    (place : after.place request = before.place request)
    (worker : after.worker request = before.worker request)
    (taken : after.ledger.acquisitions request = before.ledger.acquisitions request)
    (owner : after.ledger.owner = some request ↔ before.ledger.owner = some request)
    (given : LeaseEvent.given request Releaser.coroutine ∈ after.ledger ↔
      LeaseEvent.given request Releaser.coroutine ∈ before.ledger) : Course after request := by
  cases course with
  | waiting one two three four five =>
      exact .waiting (place ▸ one) (worker ▸ two) (taken ▸ three) (owner.not.mpr four) (given.not.mpr five)
  | abandoned one two three four five =>
      exact .abandoned (place ▸ one) (worker ▸ two) (taken ▸ three) (owner.not.mpr four) (given.not.mpr five)
  | leasing one two three four five =>
      exact .leasing (place ▸ one) (worker ▸ two) (taken ▸ three) (owner.mpr four) (given.not.mpr five)
  | failed one two three four five =>
      exact .failed (place ▸ one) (worker ▸ two) (taken ▸ three) (owner.not.mpr four) (given.mpr five)
  | working one two three four five =>
      exact .working (place ▸ one) (worker ▸ two) (taken ▸ three) (owner.mpr four) (given.not.mpr five)
  | through one two three four five =>
      exact .through (place ▸ one) (worker ▸ two) (taken ▸ three) (owner.not.mpr four) (given.not.mpr five)

theorem place_other (state : State α ε) (event : Event α ε) (other : Nat)
    (different : other ≠ event.request) : (state.perform event).place other = state.place other := by
  cases event with
  | enter request => rfl
  | finish request outcome => rfl
  | release request => rfl
  | deliver request => rfl
  | call request => exact Function.update_of_ne different ..
  | acquire request => exact Function.update_of_ne different ..
  | busy request => exact Function.update_of_ne different ..
  | wake request => exact Function.update_of_ne different ..
  | cancel request => exact Function.update_of_ne different ..
  | startWorker request => exact Function.update_of_ne different ..
  | failStart request => exact Function.update_of_ne different ..
  | releaseFailed request => exact Function.update_of_ne different ..
  | resume request => exact Function.update_of_ne different ..

theorem worker_other (state : State α ε) (event : Event α ε) (other : Nat)
    (different : other ≠ event.request) : (state.perform event).worker other = state.worker other := by
  cases event with
  | startWorker request => exact Function.update_of_ne different ..
  | enter request => exact Function.update_of_ne different ..
  | finish request outcome => exact Function.update_of_ne different ..
  | release request => exact Function.update_of_ne different ..
  | deliver request => exact Function.update_of_ne different ..
  | call request => rfl
  | acquire request => rfl
  | busy request => rfl
  | wake request => rfl
  | cancel request => rfl
  | failStart request => rfl
  | releaseFailed request => rfl
  | resume request => rfl

theorem ledger_cases (state : State α ε) (event : Event α ε) (leased : Leased state)
    (guard : state.enabled event) :
    ((state.perform event).ledger = state.ledger ∧ (state.perform event).active = state.active) ∨
      ((state.perform event).ledger = .taken event.request :: state.ledger ∧
        (state.perform event).active = true ∧ state.ledger.owner = none) ∨
      ∃ releaser, (state.perform event).ledger = .given event.request releaser :: state.ledger ∧
        (state.perform event).active = false ∧ state.ledger.owner = some event.request := by
  cases event with
  | acquire request =>
      have free := leased.active
      rw [guard.2] at free
      have none : state.ledger.owner = none := by simpa using free.symm
      exact .inr (.inl ⟨rfl, rfl, none⟩)
  | releaseFailed request =>
      have place : state.place request = .startFailed := guard
      have leasing := leasing_course state request (leased.course request) (by rw [place]; rfl)
      exact .inr (.inr ⟨.coroutine, rfl, rfl, leasing.2.2.1⟩)
  | release request =>
      obtain ⟨outcome, worker⟩ := guard
      have working := working_course state request (leased.course request) (by rw [worker]; rfl)
      exact .inr (.inr ⟨.thread, rfl, rfl, working.2.2.1⟩)
  | _ => exact .inl ⟨rfl, rfl⟩

theorem course_other (state : State α ε) (event : Event α ε) (other : Nat) (leased : Leased state)
    (guard : state.enabled event) (different : other ≠ event.request) :
    Course (state.perform event) other := by
  have place := place_other state event other different
  have worker := worker_other state event other different
  rcases ledger_cases state event leased guard with
    ⟨same, _⟩ | ⟨taken, _, owner⟩ | ⟨releaser, given, _, owner⟩
  · apply course_congr state _ other (leased.course other) place worker <;> rw [same]
  · apply course_congr state _ other (leased.course other) place worker
    · rw [taken, acquisitions_taken, if_neg (Ne.symm different), Nat.add_zero]
    · rw [taken, owner]
      simp [Ledger.owner, Ne.symm different]
    · simp [taken]
  · apply course_congr state _ other (leased.course other) place worker
    · rw [given, acquisitions_given]
    · rw [given, owner]
      simp [Ledger.owner, Ne.symm different]
    · simp [given, different]

theorem course_acting (state : State α ε) (event : Event α ε) (leased : Leased state)
    (guard : state.enabled event) : Course (state.perform event) event.request := by
  have course := leased.course event.request
  cases event with
  | call request =>
      have place : state.place request = .idle := guard
      obtain ⟨worker, taken, owner, given⟩ := waiting_course state request course (by rw [place]; rfl)
      exact .waiting (by simp [State.perform, State.move, Event.request, Place.waiting]) worker taken
        owner given
  | wake request =>
      have place : state.place request = .sleeping := guard
      obtain ⟨worker, taken, owner, given⟩ := waiting_course state request course (by rw [place]; rfl)
      exact .waiting (by simp [State.perform, State.move, Event.request, Place.waiting]) worker taken
        owner given
  | busy request =>
      have place : state.place request = .checking := guard.1
      obtain ⟨worker, taken, owner, given⟩ := waiting_course state request course (by rw [place]; rfl)
      exact .waiting (by simp [State.perform, State.move, Event.request, Place.waiting]) worker taken
        owner given
  | acquire request =>
      have place : state.place request = .checking := guard.1
      obtain ⟨worker, taken, owner, given⟩ := waiting_course state request course (by rw [place]; rfl)
      refine .leasing ?_ worker ?_ rfl ?_
      · simp [State.perform, State.move, Event.request, Place.leasing]
      · simp [State.perform, Event.request, taken]
      · simpa [State.perform, Event.request] using given
  | cancel request =>
      have after : (state.perform (.cancel request)).place request = .ended .cancelled := by
        simp [State.perform, State.move]
      cases guard with
      | inl place =>
          obtain ⟨worker, taken, owner, given⟩ :=
            waiting_course state request course (by rw [place]; rfl)
          exact .abandoned after worker taken owner given
      | inr place =>
          cases awaiting_course state request course place with
          | inl working =>
              obtain ⟨_, taken, owner, given⟩ := working_course state request course working
              exact .working (.inr after) working taken owner given
          | inr through =>
              obtain ⟨_, taken, owner, given⟩ := through_course state request course through
              exact .through (.inr ⟨.cancelled, after⟩) through taken owner given
  | startWorker request =>
      have place : state.place request = .starting := guard
      obtain ⟨_, taken, owner, given⟩ := leasing_course state request course (by rw [place]; rfl)
      refine .working (.inl ?_) ?_ taken owner given
      · simp [State.perform, State.move, State.turn, Event.request]
      · simp [State.perform, State.turn, Event.request, Worker.working]
  | failStart request =>
      have place : state.place request = .starting := guard
      obtain ⟨worker, taken, owner, given⟩ := leasing_course state request course (by rw [place]; rfl)
      exact .leasing (by simp [State.perform, State.move, Event.request, Place.leasing]) worker taken
        owner given
  | releaseFailed request =>
      have place : state.place request = .startFailed := guard
      obtain ⟨worker, taken, owner, given⟩ := leasing_course state request course (by rw [place]; rfl)
      refine .failed ?_ worker ?_ ?_ ?_
      · simp [State.perform, State.move, Event.request]
      · simpa [State.perform, State.releaseLease, State.move, Event.request] using taken
      · simp [State.perform, State.releaseLease, State.move, Event.request, Ledger.owner]
      · simp [State.perform, State.releaseLease, State.move, Event.request]
  | enter request =>
      have worker : state.worker request = .started := guard
      obtain ⟨place, taken, owner, given⟩ := working_course state request course (by rw [worker]; rfl)
      exact .working place (by simp [State.perform, State.turn, Event.request, Worker.working]) taken
        owner given
  | finish request outcome =>
      have worker : state.worker request = .executing := guard
      obtain ⟨place, taken, owner, given⟩ := working_course state request course (by rw [worker]; rfl)
      exact .working place (by simp [State.perform, State.turn, Event.request, Worker.working]) taken
        owner given
  | release request =>
      obtain ⟨outcome, worker⟩ := guard
      obtain ⟨place, taken, owner, given⟩ := working_course state request course (by rw [worker]; rfl)
      refine .through (place.imp_right (fun ended => ⟨_, ended⟩)) ?_ ?_ ?_ ?_
      · simp [State.perform, State.turn, Event.request, worker, Worker.release, Worker.through]
      · simpa [State.perform, State.releaseLease, State.turn, Event.request] using taken
      · simp [State.perform, State.releaseLease, State.turn, Event.request, Ledger.owner]
      · simpa [State.perform, State.releaseLease, State.turn, Event.request] using given
  | deliver request =>
      obtain ⟨outcome, worker⟩ := guard
      obtain ⟨place, taken, owner, given⟩ := through_course state request course (by rw [worker]; rfl)
      refine .through place ?_ taken owner given
      simp [State.perform, State.turn, Event.request, worker, Worker.deliver, Worker.through]
  | resume request =>
      obtain ⟨_, outcome, worker⟩ := guard
      obtain ⟨_, taken, owner, given⟩ := through_course state request course (by rw [worker]; rfl)
      refine .through (.inr ⟨_, Function.update_self ..⟩) ?_ taken owner given
      simp [State.perform, State.move, Event.request, worker, Worker.through]

theorem leased_perform (state : State α ε) (event : Event α ε) (leased : Leased state)
    (guard : state.enabled event) : Leased (state.perform event) where
  balanced := by
    rcases ledger_cases state event leased guard with
      ⟨same, _⟩ | ⟨taken, _, owner⟩ | ⟨releaser, given, _, owner⟩
    · rw [same]
      exact leased.balanced
    · rw [taken]
      exact .take _ _ leased.balanced owner
    · rw [given]
      exact .give _ _ _ leased.balanced owner
  active := by
    rcases ledger_cases state event leased guard with
      ⟨same, flag⟩ | ⟨taken, flag, _⟩ | ⟨releaser, given, flag, _⟩
    · rw [same, flag]
      exact leased.active
    · rw [taken, flag]
      rfl
    · rw [given, flag]
      rfl
  course request := by
    by_cases same : request = event.request
    · rw [same]
      exact course_acting state event leased guard
    · exact course_other state event request leased guard same

theorem leased_reachable (state : State α ε)
    (reached : (leaseSystem α ε).Reaches Set.univ (State.start α ε) state) : Leased state := by
  apply System.reaches_invariant _ Set.univ _ _ _ _ reached leased_start
  intro before event _ leased guard
  exact leased_perform before event leased guard

theorem owner_iff (state : State α ε) (request : Nat) (course : Course state request) :
    state.ledger.owner = some request ↔ state.acquired request ∧
      (state.worker request).through = false ∧ ¬ state.failedToStart request := by
  have positive := acquisitions_pos state.ledger request
  unfold State.acquired State.failedToStart
  rw [← positive]
  cases course with
  | waiting _ _ taken owner => simp [taken, owner]
  | abandoned _ _ taken owner => simp [taken, owner]
  | leasing place worker taken owner =>
      have begun : state.place request ≠ .ended .raised := by
        intro ended
        simp [ended, Place.leasing] at place
      simp [taken, owner, begun, worker, Worker.through]
  | failed place worker _ owner => simp [owner, place, worker]
  | working _ worker taken owner =>
      have busy : (state.worker request).through = false ∧ state.worker request ≠ .absent := by
        cases here : state.worker request <;> simp_all [Worker.working, Worker.through]
      simp [taken, owner, busy]
  | through _ worker _ owner => simp [owner, worker]

theorem course_once (state : State α ε) (request : Nat) (course : Course state request) :
    state.ledger.acquisitions request ≤ 1 := by
  cases course with
  | waiting _ _ taken => omega
  | abandoned _ _ taken => omega
  | leasing _ _ taken => omega
  | failed _ _ taken => omega
  | working _ _ taken => omega
  | through _ _ taken => omega

theorem cancelled_course (state : State α ε) (request : Nat) (course : Course state request)
    (cancelled : state.place request = .ended .cancelled) :
    .given request .coroutine ∉ state.ledger ∧
      (state.worker request = .absent → state.ledger.acquisitions request = 0) := by
  cases course with
  | abandoned _ _ taken _ given => exact ⟨given, fun _ => taken⟩
  | waiting _ _ taken _ given => exact ⟨given, fun _ => taken⟩
  | leasing place => simp [cancelled, Place.leasing] at place
  | failed place => simp [cancelled] at place
  | working _ worker _ _ given =>
      refine ⟨given, fun absent => ?_⟩
      simp [absent, Worker.working] at worker
  | through _ worker _ _ given =>
      refine ⟨given, fun absent => ?_⟩
      simp [absent, Worker.through] at worker

theorem ended_final (state : State α ε) (request : Nat) (event : Event α ε) (ending : Ending)
    (ended : state.place request = .ended ending) (guard : state.enabled event) :
    (state.perform event).place request = .ended ending := by
  by_cases same : request = event.request
  · subst same
    cases event with
    | enter request => exact ended
    | finish request outcome => exact ended
    | release request => exact ended
    | deliver request => exact ended
    | _ => simp_all [State.enabled, Event.request]
  · rw [place_other state event request same]
    exact ended

theorem lease_exclusive (state : State α ε) (leased : Leased state) : LeaseExclusive state where
  one_executing first second one other := by
    have left := working_course state first (leased.course first) (by rw [one]; rfl)
    have right := working_course state second (leased.course second) (by rw [other]; rfl)
    exact Option.some.inj (left.2.2.1.symm.trans right.2.2.1)
  active_iff := by
    simp only [← owner_iff state _ (leased.course _)]
    rw [leased.active, Option.isSome_iff_exists]
    constructor
    · rintro ⟨request, owner⟩
      exact ⟨request, owner, fun other also => Option.some.inj (also.symm.trans owner)⟩
    · rintro ⟨request, owner, _⟩
      exact ⟨request, owner⟩
  acquired_once request := course_once state request (leased.course request)
  released_once request := balanced_counts state.ledger request leased.balanced
  release_follows later request releaser earlier shape :=
    given_follows state.ledger later earlier request releaser leased.balanced shape
  cancelled_started request cancelled :=
    (cancelled_course state request (leased.course request) cancelled).1
  cancelled_waiting request cancelled absent := by
    have taken := (cancelled_course state request (leased.course request) cancelled).2 absent
    have counts := balanced_counts state.ledger request leased.balanced
    omega
  cancelled_final request event cancelled guard :=
    ended_final state request event .cancelled cancelled guard

end SchwabGateway.Provider
