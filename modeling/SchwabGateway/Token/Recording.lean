import SchwabGateway.Library.Precedes
import SchwabGateway.Token.Exclusion

set_option autoImplicit false

namespace SchwabGateway.Token

open SchwabGateway.Python SchwabGateway.Library

variable (codec : Codec) (settings : Settings) (requests : Nat → Request)

def Event.call : Event → Nat
  | .begin call => call
  | .acquireThread call => call
  | .threadTimeout call => call
  | .acquireFlock call => call
  | .flockTimeout call => call
  | .advance call => call
  | .unlockFlock call => call
  | .releaseThread call => call
  | .record call => call

def State.recordedBy (state : State) : Event → List Health
  | .advance call =>
      (stepPhase codec settings (requests call).now (state.body call).phase
        state.documents).transitions
  | .record call =>
      match state.stage call with
      | .recording enteredStore =>
          recordOutcome (requests call).kind enteredStore (state.resultOf call enteredStore)
      | _ => []
  | _ => []

structure Watched where
  base : State
  log : List (Nat × Health)

def Watched.perform (watched : Watched) (event : Event) : Watched where
  base := watched.base.perform codec settings requests event
  log := ((watched.base.recordedBy codec settings requests event).reverse.map
    (fun health => (event.call, health))) ++ watched.log

def watchedSystem : System Watched Event where
  enabled watched event := watched.base.enabled requests event
  perform := Watched.perform codec settings requests

instance (watched : Watched) (event : Event) :
    Decidable ((watchedSystem codec settings requests).enabled watched event) :=
  inferInstanceAs (Decidable (watched.base.enabled requests event))

def Watched.start (entry : Option Entry) : Watched := ⟨State.start codec settings requests entry, []⟩

def State.holders (state : State) : List Nat := state.entered.map Prod.fst

def State.recordedLater (state : State) (call : Nat) : List Health :=
  recordOutcome (requests call).kind true (state.resultOf call true)

def State.outcome (state : State) (call : Nat) : Option Health :=
  ((state.body call).transitions ++ state.recordedLater requests call).getLast?

def State.owing (state : State) (call : Nat) : Prop :=
  (state.stage call = .unlocked ∨ state.stage call = .recording true) ∧
    state.recordedLater requests call ≠ []

def Stage.held : Stage → Bool
  | .inside => true
  | .unlocked => true
  | .recording true => true
  | .ended true => true
  | _ => false

-- Of the calls on one manager, none gets the lock between another's release
-- of it and what that one then records.
def HandedOver (watched : Watched) : Event → Prop
  | .acquireFlock call =>
      ∀ other, (requests other).manager = (requests call).manager → ¬ watched.base.owing requests other
  | _ => True

def State.made (state : State) (call : Nat) : List Health :=
  (state.body call).transitions ++
    if state.stage call = .ended true then state.recordedLater requests call else []

def Watched.own (watched : Watched) (call : Nat) : List Health :=
  (watched.log.filter (fun record => record.1 = call)).map Prod.snd

def State.inOrder (state : State) (newer older : Nat × Health) : Prop :=
  (requests newer.1).manager = (requests older.1).manager → newer.1 ∈ state.holders →
    older.1 ∈ state.holders → newer.1 = older.1 ∨ Precedes state.holders newer.1 older.1

structure Recorded (initial : Documents) (watched : Watched) : Prop where
  consistent : Consistent codec settings requests initial watched.base
  places : ∀ call, call ∈ watched.base.holders ↔ (watched.base.stage call).held = true
  settled : ∀ newer older, Precedes watched.base.holders newer older →
    (requests newer).manager = (requests older).manager → ¬ watched.base.owing requests older
  known : ∀ record ∈ watched.log,
    record.1 ∈ watched.base.holders ∨ watched.base.stage record.1 = .ended false
  own : ∀ call ∈ watched.base.holders, watched.own call = (watched.base.made requests call).reverse
  ordered : watched.log.Pairwise (watched.base.inOrder requests)
  latest : ∀ manager, watched.base.health manager =
    ((watched.log.find? (fun record => (requests record.1).manager = manager)).map
      Prod.snd).getD ⟨.uninitialized, "not_checked"⟩

variable {codec settings requests}

theorem holders_perform (state : State) (event : Event) :
    (state.perform codec settings requests event).holders =
      match event with
      | .acquireFlock call => call :: state.holders
      | _ => state.holders := by
  cases event with
  | advance call =>
      simp only [State.perform, State.advance, State.announce, State.holders]
      cases state.entered <;> rfl
  | record call =>
      simp only [State.perform]
      split <;> rfl
  | begin call => rfl
  | acquireThread call => rfl
  | threadTimeout call => rfl
  | acquireFlock call => rfl
  | flockTimeout call => rfl
  | unlockFlock call => rfl
  | releaseThread call => rfl

theorem stage_other (state : State) (event : Event) (other : Nat) (different : other ≠ event.call) :
    (state.perform codec settings requests event).stage other = state.stage other := by
  cases event with
  | record call =>
      simp only [State.perform]
      split
      · exact Function.update_of_ne different ..
      · rfl
  | advance call => rfl
  | begin call => exact Function.update_of_ne different ..
  | acquireThread call => exact Function.update_of_ne different ..
  | threadTimeout call => exact Function.update_of_ne different ..
  | acquireFlock call => exact Function.update_of_ne different ..
  | flockTimeout call => exact Function.update_of_ne different ..
  | unlockFlock call => exact Function.update_of_ne different ..
  | releaseThread call => exact Function.update_of_ne different ..

theorem body_other (state : State) (event : Event) (other : Nat) (different : other ≠ event.call) :
    (state.perform codec settings requests event).body other = state.body other := by
  cases event with
  | record call =>
      simp only [State.perform]
      split <;> rfl
  | advance call => exact Function.update_of_ne different ..
  | acquireFlock call => exact Function.update_of_ne different ..
  | begin call => rfl
  | acquireThread call => rfl
  | threadTimeout call => rfl
  | flockTimeout call => rfl
  | unlockFlock call => rfl
  | releaseThread call => rfl

theorem health_perform (state : State) (event : Event) (manager : Nat) :
    (state.perform codec settings requests event).health manager =
      if (requests event.call).manager = manager then
        ((state.recordedBy codec settings requests event).getLast?).getD (state.health manager)
      else state.health manager := by
  have announced : ∀ (call : Nat) (transitions : List Health),
      Function.update state.health (requests call).manager
          (transitions.getLast?.getD (state.health (requests call).manager)) manager =
        if (requests call).manager = manager then
          (transitions.getLast?).getD (state.health manager)
        else state.health manager := by
    intro call transitions
    by_cases same : (requests call).manager = manager
    · subst same
      rw [Function.update_self, if_pos rfl]
    · rw [Function.update_of_ne (Ne.symm same), if_neg same]
  cases event with
  | advance call => exact announced call _
  | record call =>
      simp only [State.perform, State.recordedBy]
      cases state.stage call with
      | recording enteredStore => exact announced call _
      | _ => simp
  | begin call => simp [State.perform, State.recordedBy, State.move]
  | acquireThread call => simp [State.perform, State.recordedBy, State.move, State.setThread]
  | threadTimeout call => simp [State.perform, State.recordedBy, State.move]
  | acquireFlock call => simp [State.perform, State.recordedBy, State.move]
  | flockTimeout call => simp [State.perform, State.recordedBy, State.move, State.setThread]
  | unlockFlock call => simp [State.perform, State.recordedBy, State.move]
  | releaseThread call => simp [State.perform, State.recordedBy, State.move, State.setThread]

theorem later_other (state : State) (event : Event) (other : Nat) (different : other ≠ event.call) :
    (state.perform codec settings requests event).recordedLater requests other =
      state.recordedLater requests other := by
  simp only [State.recordedLater, State.resultOf, body_other state event other different]

theorem made_other (state : State) (event : Event) (other : Nat) (different : other ≠ event.call) :
    (state.perform codec settings requests event).made requests other = state.made requests other := by
  simp only [State.made, body_other state event other different,
    stage_other state event other different, later_other state event other different]

theorem acting_unended (state : State) (event : Event) (enteredStore : Bool)
    (guard : state.enabled requests event) : state.stage event.call ≠ .ended enteredStore := by
  intro ended
  cases event <;> simp_all [State.enabled, Event.call]

theorem held_perform (state : State) (event : Event) (guard : state.enabled requests event)
    (acquires : event ≠ .acquireFlock event.call) :
    ((state.perform codec settings requests event).stage event.call).held =
      (state.stage event.call).held := by
  cases event with
  | begin call => simp_all [State.enabled, State.perform, State.move, Event.call, Stage.held]
  | acquireThread call =>
      simp_all [State.enabled, State.perform, State.move, State.setThread, Event.call, Stage.held]
  | threadTimeout call => simp_all [State.enabled, State.perform, State.move, Event.call, Stage.held]
  | acquireFlock call => exact absurd rfl acquires
  | flockTimeout call => simp_all [State.enabled, State.perform, State.move, Event.call, Stage.held]
  | advance call => rfl
  | unlockFlock call => simp_all [State.enabled, State.perform, State.move, Event.call, Stage.held]
  | releaseThread call => simp_all [State.enabled, State.perform, State.move, Event.call, Stage.held]
  | record call =>
      cases guard with
      | inl recording => simp [State.perform, recording, State.move, Event.call, Stage.held]
      | inr recording => simp [State.perform, recording, State.move, Event.call, Stage.held]

theorem made_perform (state : State) (event : Event) (guard : state.enabled requests event)
    (held : (state.stage event.call).held = true) :
    (state.perform codec settings requests event).made requests event.call =
      state.made requests event.call ++ state.recordedBy codec settings requests event := by
  cases event with
  | begin call =>
      rw [show state.stage (Event.begin call).call = .idle from guard] at held
      cases held
  | acquireThread call =>
      rw [show state.stage (Event.acquireThread call).call = .waitingThread from guard.1] at held
      cases held
  | threadTimeout call =>
      rw [show state.stage (Event.threadTimeout call).call = .waitingThread from guard.1] at held
      cases held
  | acquireFlock call =>
      rw [show state.stage (Event.acquireFlock call).call = .waitingFlock from guard.1] at held
      cases held
  | flockTimeout call =>
      rw [show state.stage (Event.flockTimeout call).call = .waitingFlock from guard.1] at held
      cases held
  | advance call =>
      simp [State.made, State.perform, State.advance, State.announce, State.recordedBy, Event.call,
        guard.1]
  | unlockFlock call =>
      simp [State.made, State.perform, State.move, State.recordedBy, Event.call, guard.1]
  | releaseThread call =>
      have place : state.stage call = .unlocked := guard
      simp [State.made, State.perform, State.move, State.setThread, State.recordedBy, Event.call,
        place]
  | record call =>
      cases guard with
      | inl recording =>
          simp [State.made, State.perform, recording, State.move, State.announce, State.recordedBy,
            State.recordedLater, State.resultOf, Event.call]
      | inr recording =>
          rw [show state.stage (Event.record call).call = .recording false from recording] at held
          cases held

theorem made_acquired (state : State) (call : Nat) :
    (state.perform codec settings requests (.acquireFlock call)).made requests call = [] := by
  simp [State.made, State.perform, State.move, tokenSections]

theorem holders_kept (state : State) (event : Event) (acquires : event ≠ .acquireFlock event.call) :
    (state.perform codec settings requests event).holders = state.holders := by
  rw [holders_perform]
  cases event with
  | acquireFlock call => exact absurd rfl acquires
  | _ => rfl

theorem holders_grow (state : State) (event : Event) (call : Nat) (member : call ∈ state.holders) :
    call ∈ (state.perform codec settings requests event).holders := by
  rw [holders_perform]
  cases event with
  | acquireFlock acquiring => exact List.mem_cons_of_mem acquiring member
  | _ => exact member

theorem precedes_grow (state : State) (event : Event) (newer older : Nat)
    (before : Precedes state.holders newer older) :
    Precedes (state.perform codec settings requests event).holders newer older := by
  rw [holders_perform]
  cases event with
  | acquireFlock acquiring => exact precedes_later acquiring state.holders newer older before
  | _ => exact before

theorem owing_perform (state : State) (event : Event) (call : Nat)
    (guard : state.enabled requests event) (unlocks : event ≠ .unlockFlock call)
    (owing : (state.perform codec settings requests event).owing requests call) :
    state.owing requests call := by
  by_cases different : call = event.call
  · subst different
    obtain ⟨place, later⟩ := owing
    cases event with
    | releaseThread call =>
        refine ⟨.inl guard, ?_⟩
        simpa [State.recordedLater, State.resultOf, State.perform, State.move, State.setThread,
          Event.call] using later
    | unlockFlock call => exact absurd rfl unlocks
    | advance call => exact False.elim (by simp_all [State.perform, State.advance, State.announce,
        Event.call, State.enabled])
    | record call =>
        cases guard with
        | inl recording => simp [State.perform, recording, State.move, Event.call] at place
        | inr recording => simp [State.perform, recording, State.move, Event.call] at place
    | begin call => simp [State.perform, State.move, Event.call] at place
    | acquireThread call => simp [State.perform, State.move, Event.call] at place
    | threadTimeout call => simp [State.perform, State.move, Event.call] at place
    | acquireFlock call => simp [State.perform, State.move, Event.call] at place
    | flockTimeout call => simp [State.perform, State.move, Event.call] at place
  · unfold State.owing at owing ⊢
    rwa [stage_other state event call different, later_other state event call different] at owing

theorem places_perform (initial : Documents) (watched : Watched) (event : Event)
    (recorded : Recorded codec settings requests initial watched)
    (guard : watched.base.enabled requests event) (call : Nat) :
    call ∈ (watched.base.perform codec settings requests event).holders ↔
      ((watched.base.perform codec settings requests event).stage call).held = true := by
  by_cases same : call = event.call
  · by_cases acquires : event = .acquireFlock event.call
    · rw [holders_perform]
      cases event with
      | acquireFlock acquiring =>
          subst same
          simp [State.perform, State.move, Stage.held]
      | _ => cases acquires
    · rw [holders_kept _ _ acquires, same, held_perform _ _ guard acquires]
      exact recorded.places event.call
  · rw [stage_other _ _ _ same, ← recorded.places call, holders_perform]
    cases event with
    | acquireFlock acquiring => simp [show call ≠ acquiring from same]
    | _ => rfl

theorem settled_perform (initial : Documents) (watched : Watched) (event : Event)
    (recorded : Recorded codec settings requests initial watched)
    (guard : watched.base.enabled requests event) (handed : HandedOver requests watched event)
    (newer older : Nat)
    (before : Precedes (watched.base.perform codec settings requests event).holders newer older)
    (manager : (requests newer).manager = (requests older).manager) :
    ¬ (watched.base.perform codec settings requests event).owing requests older := by
  intro owing
  have distinct := recorded.consistent.follows.distinct
  by_cases unlocks : event = .unlockFlock older
  · subst unlocks
    obtain ⟨steps, earlier, entered⟩ := recorded.consistent.newest older
      ((recorded.consistent.holder older).mp guard.1)
    rw [holders_kept _ _ (by nofun), State.holders, entered] at before
    rw [entered] at distinct
    exact head_not_preceded older _ newer distinct before
  · have owed := owing_perform watched.base event older guard unlocks owing
    by_cases acquires : event = .acquireFlock event.call
    · cases event with
      | acquireFlock acquiring =>
          rw [holders_perform] at before
          cases precedes_cons acquiring _ newer older before with
          | inl first =>
              obtain ⟨rfl, member⟩ := first
              exact handed older manager.symm owed
          | inr deeper => exact recorded.settled newer older deeper manager owed
      | _ => cases acquires
    · rw [holders_kept _ _ acquires] at before
      exact recorded.settled newer older before manager owed

theorem own_acting (watched : Watched) (event : Event) :
    (watched.perform codec settings requests event).own event.call =
      (watched.base.recordedBy codec settings requests event).reverse ++ watched.own event.call := by
  simp [Watched.own, Watched.perform, List.filter_map, Function.comp_def]

theorem own_other (watched : Watched) (event : Event) (other : Nat) (different : other ≠ event.call) :
    (watched.perform codec settings requests event).own other = watched.own other := by
  simp [Watched.own, Watched.perform, List.filter_map, Function.comp_def, Ne.symm different]

theorem own_perform (initial : Documents) (watched : Watched) (event : Event)
    (recorded : Recorded codec settings requests initial watched)
    (guard : watched.base.enabled requests event) (call : Nat)
    (member : call ∈ (watched.base.perform codec settings requests event).holders) :
    (watched.perform codec settings requests event).own call =
      ((watched.base.perform codec settings requests event).made requests call).reverse := by
  have held := (places_perform initial watched event recorded guard call).mp member
  by_cases same : call = event.call
  · by_cases acquires : event = .acquireFlock event.call
    · cases event with
      | acquireFlock acquiring =>
          subst same
          rw [made_acquired]
          have waiting : watched.base.stage call = .waitingFlock := guard.1
          have unknown : ∀ record ∈ watched.log, record.1 ≠ call := by
            intro record logged same
            have known := recorded.known record logged
            rw [recorded.places, same, waiting] at known
            simp [Stage.held] at known
          simp only [Watched.own, Watched.perform, State.recordedBy, Event.call]
          simpa [List.filter_eq_nil_iff] using fun number health logged => unknown (number, health) logged
      | _ => cases acquires
    · subst same
      rw [held_perform _ _ guard acquires] at held
      rw [own_acting, made_perform _ _ guard held, List.reverse_append,
        recorded.own event.call ((recorded.places event.call).mpr held)]
  · rw [stage_other _ _ _ same] at held
    rw [own_other watched event call same, made_other _ _ _ same]
    exact recorded.own call ((recorded.places call).mpr held)

theorem recorder_known (initial : Documents) (watched : Watched) (event : Event)
    (recorded : Recorded codec settings requests initial watched)
    (guard : watched.base.enabled requests event)
    (active : watched.base.recordedBy codec settings requests event ≠ []) :
    event.call ∈ watched.base.holders ∨
      (watched.base.perform codec settings requests event).stage event.call = .ended false := by
  rw [recorded.places]
  cases event with
  | advance call =>
      rw [show watched.base.stage (Event.advance call).call = .inside from guard.1]
      exact .inl rfl
  | record call =>
      cases guard with
      | inl recording =>
          rw [show watched.base.stage (Event.record call).call = .recording true from recording]
          exact .inl rfl
      | inr recording => exact .inr (by simp [State.perform, recording, State.move, Event.call])
  | _ => exact absurd rfl active

-- Of the holders on its manager, the one that records is the last to have
-- entered: the lock keeps out others, and after it nobody owes a record.
theorem recorder_newest (initial : Documents) (watched : Watched) (event : Event)
    (recorded : Recorded codec settings requests initial watched)
    (guard : watched.base.enabled requests event)
    (active : watched.base.recordedBy codec settings requests event ≠ []) (other : Nat)
    (mine : event.call ∈ watched.base.holders) (theirs : other ∈ watched.base.holders)
    (manager : (requests event.call).manager = (requests other).manager) :
    event.call = other ∨ Precedes watched.base.holders event.call other := by
  by_cases same : event.call = other
  · exact .inl same
  cases precedes_total watched.base.holders event.call other mine theirs same with
  | inl before => exact .inr before
  | inr after =>
      exfalso
      cases event with
      | advance call =>
          have distinct := recorded.consistent.follows.distinct
          obtain ⟨steps, earlier, entered⟩ := recorded.consistent.newest call
            ((recorded.consistent.holder call).mp guard.1)
          rw [State.holders, entered] at after
          rw [entered] at distinct
          exact head_not_preceded call _ other distinct after
      | record call =>
          cases guard with
          | inl recording =>
              apply recorded.settled other call after manager.symm
              refine ⟨.inr recording, ?_⟩
              simpa [State.recordedBy, recording, State.recordedLater] using active
          | inr recording =>
              have held := (recorded.places call).mp mine
              rw [recording] at held
              cases held
      | _ => exact active rfl

theorem known_perform (initial : Documents) (watched : Watched) (event : Event)
    (recorded : Recorded codec settings requests initial watched)
    (guard : watched.base.enabled requests event) (record : Nat × Health)
    (logged : record ∈ (watched.perform codec settings requests event).log) :
    record.1 ∈ (watched.base.perform codec settings requests event).holders ∨
      (watched.base.perform codec settings requests event).stage record.1 = .ended false := by
  cases List.mem_append.mp logged with
  | inl fresh =>
      obtain ⟨health, member, rfl⟩ := List.mem_map.mp fresh
      have active : watched.base.recordedBy codec settings requests event ≠ [] :=
        List.ne_nil_of_mem (List.mem_reverse.mp member)
      exact (recorder_known initial watched event recorded guard active).imp
        (holders_grow watched.base event event.call) id
  | inr old =>
      cases recorded.known record old with
      | inl member => exact .inl (holders_grow watched.base event record.1 member)
      | inr ended =>
          have different : record.1 ≠ event.call := by
            intro same
            rw [same] at ended
            exact acting_unended watched.base event false guard ended
          exact .inr ((stage_other watched.base event record.1 different).trans ended)

theorem ordered_kept (initial : Documents) (watched : Watched) (event : Event)
    (recorded : Recorded codec settings requests initial watched)
    (guard : watched.base.enabled requests event) :
    watched.log.Pairwise
      ((watched.base.perform codec settings requests event).inOrder requests) := by
  have unacquired : ∀ record ∈ watched.log,
      record.1 ∈ (watched.base.perform codec settings requests event).holders →
        record.1 ∈ watched.base.holders := by
    intro record logged member
    cases recorded.known record logged with
    | inl before => exact before
    | inr ended =>
        have different : record.1 ≠ event.call := by
          intro same
          rw [same] at ended
          exact acting_unended watched.base event false guard ended
        have held := (places_perform initial watched event recorded guard record.1).mp member
        rw [stage_other _ _ _ different, ended] at held
        cases held
  apply recorded.ordered.imp_of_mem
  intro newer older first second before manager left right
  have order := before manager (unacquired newer first left) (unacquired older second right)
  exact order.imp_right (precedes_grow watched.base event newer.1 older.1)

theorem ordered_perform (initial : Documents) (watched : Watched) (event : Event)
    (recorded : Recorded codec settings requests initial watched)
    (guard : watched.base.enabled requests event) :
    (watched.perform codec settings requests event).log.Pairwise
      ((watched.base.perform codec settings requests event).inOrder requests) := by
  apply List.pairwise_append.mpr
  refine ⟨?_, ordered_kept initial watched event recorded guard, ?_⟩
  · apply List.pairwise_of_forall_mem_list
    intro newer first older second _ _ _
    obtain ⟨_, _, rfl⟩ := List.mem_map.mp first
    obtain ⟨_, _, rfl⟩ := List.mem_map.mp second
    exact .inl rfl
  · intro newer first older second manager left right
    obtain ⟨health, member, rfl⟩ := List.mem_map.mp first
    have active : watched.base.recordedBy codec settings requests event ≠ [] :=
      List.ne_nil_of_mem (List.mem_reverse.mp member)
    have quiet : event ≠ .acquireFlock event.call := by
      intro acquires
      rw [acquires] at active
      exact active rfl
    rw [holders_kept _ _ quiet] at left right ⊢
    exact recorder_newest initial watched event recorded guard active older.1 left right manager

theorem latest_perform (initial : Documents) (watched : Watched) (event : Event)
    (recorded : Recorded codec settings requests initial watched) (manager : Nat) :
    (watched.base.perform codec settings requests event).health manager =
      (((watched.perform codec settings requests event).log.find?
        (fun record => (requests record.1).manager = manager)).map
          Prod.snd).getD ⟨.uninitialized, "not_checked"⟩ := by
  rw [health_perform, Watched.perform, List.find?_append, recorded.latest manager]
  by_cases same : (requests event.call).manager = manager
  · rw [if_pos same, ← List.head?_reverse]
    cases (watched.base.recordedBy codec settings requests event).reverse with
    | nil => simp
    | cons newest rest => simp [same]
  · have foreign : ((watched.base.recordedBy codec settings requests event).reverse.map
        (fun health => (event.call, health))).find?
          (fun record => (requests record.1).manager = manager) = none := by
      rw [List.find?_map, Option.map_eq_none_iff, List.find?_eq_none]
      intro health _
      simp [same]
    rw [if_neg same, foreign, Option.none_or]

theorem recorded_perform (initial : Documents) (watched : Watched) (event : Event)
    (recorded : Recorded codec settings requests initial watched)
    (guard : watched.base.enabled requests event) (handed : HandedOver requests watched event) :
    Recorded codec settings requests initial (watched.perform codec settings requests event) where
  consistent := consistent_perform initial watched.base event recorded.consistent guard
  places := places_perform initial watched event recorded guard
  settled := settled_perform initial watched event recorded guard handed
  known := known_perform initial watched event recorded guard
  own := own_perform initial watched event recorded guard
  ordered := ordered_perform initial watched event recorded guard
  latest := latest_perform initial watched event recorded

theorem recorded_start (entry : Option Entry) :
    Recorded codec settings requests (Documents.start entry)
      (Watched.start codec settings requests entry) where
  consistent := consistent_start entry
  places call := by simp [Watched.start, State.start, State.holders, Stage.held]
  settled newer older before := absurd before (by simp [Watched.start, State.start, State.holders, Precedes])
  known record logged := by cases logged
  own call member := by cases member
  ordered := List.Pairwise.nil
  latest manager := rfl

end SchwabGateway.Token
