import SchwabGateway.Token.Clocked
import SchwabGateway.Token.Serializable

set_option autoImplicit false

namespace SchwabGateway.Token

open SchwabGateway.Python SchwabGateway.Library

def Kind.returnsDocument : Kind → Bool
  | .access _ => false
  | _ => true

def Phase.agrees (kind : Kind) : Phase → Prop
  | .entered other => other = kind
  | .calling _ _ => kind.returnsDocument = true
  | .replacing _ _ => kind.returnsDocument = true
  | .operating _ _ => kind.returnsDocument = false
  | .writing _ _ _ => kind.returnsDocument = false
  | .replacingScoped _ _ _ _ => kind.returnsDocument = false
  | .leaving _ => True

def Phase.prepared (codec : Codec) : Phase → Prop
  | .replacing refreshed temporary => Prepared codec refreshed temporary
  | .replacingScoped refreshed temporary _ _ => Prepared codec refreshed temporary
  | _ => True

def Stage.pending : Stage → Bool
  | .inside => true
  | .unlocked => true
  | .recording true => true
  | _ => false

variable (codec : Codec) (settings : Settings) (requests : Nat → Request)

-- What a load or refresh is about to return is what the disk holds, until it
-- has recorded its end.
structure ReadyInvariant (initial : Documents) (clocked : Clocked) : Prop where
  consistent : Consistent codec settings requests initial clocked.base
  agrees : ∀ call, (clocked.base.body call).phase.agrees (requests call).kind
  prepared : ∀ call, (clocked.base.body call).phase.prepared codec
  stored : ∀ call document, (requests call).kind.returnsDocument = true →
    (clocked.base.stage call).pending = true → (clocked.base.body call).phase = .leaving (.ok document) →
      Stores codec settings clocked.base.documents.directory document
  usable : ReadyUsable codec settings requests clocked

variable {codec settings requests}

section Steps

variable {now : ℚ} {documents : Documents} {phase : Phase} {step : Step}

theorem makes_agrees (makes : Makes codec settings now documents phase step) (kind : Kind)
    (agrees : phase.agrees kind) : step.phase.agrees kind := by
  cases makes with
  | refused => trivial
  | loaded => trivial
  | started callback =>
      obtain rfl := agrees
      rfl
  | opened operation =>
      obtain rfl := agrees
      rfl
  | prepared => exact agrees
  | replaced => trivial
  | returned => trivial
  | continued => exact agrees
  | requested => exact agrees
  | rejected => exact agrees
  | preparedScoped => exact agrees
  | failedScoped => exact agrees
  | replacedScoped => exact agrees
  | left => trivial

theorem makes_prepared (makes : Makes codec settings now documents phase step) : step.phase.prepared codec := by
  cases makes with
  | prepared callback current refreshed temporary written => exact written
  | preparedScoped token refreshed temporary next held written => exact written
  | _ => trivial

inductive Renames (phase : Phase) (documents after : Documents) : Prop where
  | none (same : after = documents)
  | refreshed (document : PyValue) (temporary : Option Entry) (here : phase = .replacing document temporary)
      (there : after = documents.push temporary)
  | withinScope (document : PyValue) (temporary : Option Entry) (next : Except Exception Unit → Operation)
      (held : Callbacks) (here : phase = .replacingScoped document temporary next held)
      (there : after = documents.push temporary)

theorem makes_renames (makes : Makes codec settings now documents phase step) :
    Renames phase documents step.documents := by
  cases makes with
  | replaced refreshed temporary => exact .refreshed refreshed temporary rfl rfl
  | replacedScoped refreshed temporary next held => exact .withinScope refreshed temporary next held rfl rfl
  | _ => exact .none rfl

theorem makes_document (makes : Makes codec settings now documents phase step) (kind : Kind)
    (agrees : phase.agrees kind) (returns : kind.returnsDocument = true) (running : phase.isLeaving = false)
    (document : PyValue) (leaves : step.phase = .leaving (.ok document)) :
    (loadFromTransaction codec settings now documents.directory = .ok document ∧ step.documents = documents) ∨
      ∃ temporary, phase = .replacing document temporary ∧ step.documents = documents.push temporary := by
  cases makes with
  | refused => cases leaves
  | loaded current found =>
      cases leaves
      exact .inl ⟨found, rfl⟩
  | replaced refreshed temporary =>
      cases leaves
      exact .inr ⟨temporary, rfl, rfl⟩
  | returned operation callbacks result => exact absurd (returns.symm.trans agrees) nofun
  | left => cases running
  | started => cases leaves
  | opened => cases leaves
  | prepared => cases leaves
  | continued => cases leaves
  | requested => cases leaves
  | rejected => cases leaves
  | preparedScoped => cases leaves
  | failedScoped => cases leaves
  | replacedScoped => cases leaves

theorem makes_ready (makes : Makes codec settings now documents phase step) (health : Health)
    (member : health ∈ step.transitions) (ready : health.state = .ready) :
    (∃ operation current, phase = .entered (.access operation) ∧
      loadFromTransaction codec settings now documents.directory = .ok current ∧ step.documents = documents) ∨
    ∃ refreshed temporary next held, phase = .replacingScoped refreshed temporary next held ∧
      step.documents = documents.push temporary := by
  cases makes with
  | refused _ error transitions quiet => exact absurd ready (quiet health member)
  | loaded => cases member
  | started =>
      rw [List.mem_singleton.mp member] at ready
      cases ready
  | opened operation current found => exact .inl ⟨operation, current, rfl, found, rfl⟩
  | prepared => cases member
  | replaced => cases member
  | returned => cases member
  | continued => cases member
  | requested =>
      rw [List.mem_singleton.mp member] at ready
      cases ready
  | rejected token next held operation transitions quiet => exact absurd ready (quiet health member)
  | preparedScoped => cases member
  | failedScoped refreshed temporary next held operation transitions quiet =>
      exact absurd ready (quiet health member)
  | replacedScoped refreshed temporary next held =>
      exact .inr ⟨refreshed, temporary, next, held, rfl, rfl⟩
  | left => cases member

end Steps

section Records

theorem record_quiet (kind : Kind) (error : Exception) (enteredStore : Bool) :
    Quiet (recordOutcome kind enteredStore (.error error)) := by
  intro health member
  cases kind with
  | load => exact failure_quiet error health member
  | refresh callback =>
      dsimp only [recordOutcome] at member
      unfold recordRefresh at member
      split at member
      · rename_i same
        cases same
      · cases member
      · cases member
      · cases member
      · rename_i same
        cases same
        exact failure_quiet error health member
  | access operation =>
      cases enteredStore with
      | true => cases member
      | false => exact failure_quiet error health member

theorem record_ready (kind : Kind) (enteredStore : Bool) (result : Except Exception PyValue) (health : Health)
    (member : health ∈ recordOutcome kind enteredStore result) (ready : health.state = .ready) :
    kind.returnsDocument = true ∧ ∃ document, result = .ok document := by
  cases result with
  | error error => exact absurd ready (record_quiet kind error enteredStore health member)
  | ok document =>
      refine ⟨?_, document, rfl⟩
      cases kind with
      | load => rfl
      | refresh callback => rfl
      | access operation =>
          cases enteredStore with
          | true => cases member
          | false => cases member

theorem returned_ready (kind : Kind) (returns : kind.returnsDocument = true) (document : PyValue) :
    ∃ health ∈ recordOutcome kind true (.ok document), health.state = .ready := by
  cases kind with
  | load => exact ⟨tokenLoaded, List.mem_singleton.mpr rfl, rfl⟩
  | refresh callback => exact ⟨refreshSucceeded, List.mem_singleton.mpr rfl, rfl⟩
  | access operation => cases returns

theorem result_of_ok (state : State) (call : Nat) (enteredStore : Bool) (document : PyValue)
    (returned : state.resultOf call enteredStore = .ok document) :
    enteredStore = true ∧ (state.body call).phase = .leaving (.ok document) := by
  unfold State.resultOf at returned
  split at returned
  · rename_i result leaves
    rw [returned] at leaves
    exact ⟨rfl, leaves⟩
  · cases returned

theorem result_leaving (state : State) (call : Nat) (document : PyValue)
    (leaves : (state.body call).phase = .leaving (.ok document)) : state.resultOf call true = .ok document := by
  unfold State.resultOf
  rw [leaves]

end Records

section Events

variable (codec settings requests) (state : State) (event : Event) (call : Nat)

theorem body_perform :
    (state.perform codec settings requests event).body call = state.body call ∨
      (event = .acquireFlock call ∧ (state.perform codec settings requests event).body call =
        (tokenSections codec settings requests).start call) ∨
      (event = .advance call ∧ ((state.perform codec settings requests event).body call).phase =
        (stepPhase codec settings (requests call).now (state.body call).phase state.documents).phase) := by
  by_cases different : call = event.call
  · subst different
    cases event with
    | acquireFlock call => exact .inr (.inl ⟨rfl, Function.update_self ..⟩)
    | advance call =>
        refine .inr (.inr ⟨rfl, ?_⟩)
        simp [State.perform, State.advance, State.announce, Event.call]
    | record call =>
        left
        simp only [State.perform]
        split <;> rfl
    | begin call => exact .inl rfl
    | acquireThread call => exact .inl rfl
    | threadTimeout call => exact .inl rfl
    | flockTimeout call => exact .inl rfl
    | unlockFlock call => exact .inl rfl
    | releaseThread call => exact .inl rfl
  · exact .inl (body_other state event call different)

theorem documents_perform (quiet : ∀ actor, event ≠ .advance actor) :
    (state.perform codec settings requests event).documents = state.documents := by
  cases event with
  | advance actor => exact absurd rfl (quiet actor)
  | record call =>
      simp only [State.perform]
      split <;> rfl
  | begin call => rfl
  | acquireThread call => rfl
  | threadTimeout call => rfl
  | acquireFlock call => rfl
  | flockTimeout call => rfl
  | unlockFlock call => rfl
  | releaseThread call => rfl

theorem pending_before (guard : state.enabled requests event) (acquires : event ≠ .acquireFlock call)
    (pending : ((state.perform codec settings requests event).stage call).pending = true) :
    (state.stage call).pending = true := by
  by_cases different : call = event.call
  · subst different
    cases event with
    | begin call => simp [State.perform, State.move, Event.call, Stage.pending] at pending
    | acquireThread call =>
        simp [State.perform, State.move, State.setThread, Event.call, Stage.pending] at pending
    | threadTimeout call => simp [State.perform, State.move, Event.call, Stage.pending] at pending
    | acquireFlock call => exact absurd rfl acquires
    | flockTimeout call =>
        simp [State.perform, State.move, State.setThread, Event.call, Stage.pending] at pending
    | advance call => exact pending
    | unlockFlock call =>
        rw [show state.stage (Event.unlockFlock call).call = .inside from guard.1]
        rfl
    | releaseThread call =>
        rw [show state.stage (Event.releaseThread call).call = .unlocked from guard]
        rfl
    | record call =>
        cases guard with
        | inl recording =>
            rw [show state.stage (Event.record call).call = .recording true from recording]
            rfl
        | inr recording =>
            simp [State.perform, recording, State.move, Event.call, Stage.pending] at pending
  · rwa [stage_other state event call different] at pending

end Events

section Run

variable (initial : Documents) (clocked : Clocked) (reading : Reading)

theorem agrees_perform (invariant : ReadyInvariant codec settings requests initial clocked) (call : Nat) :
    ((clocked.perform codec settings requests reading).base.body call).phase.agrees (requests call).kind := by
  obtain same | ⟨_, begun⟩ | ⟨_, stepped⟩ :=
    body_perform codec settings requests clocked.base reading.event call
  · rw [Clocked.perform, same]
    exact invariant.agrees call
  · rw [Clocked.perform, begun]
    rfl
  · rw [Clocked.perform, stepped]
    exact makes_agrees (step_makes codec settings (requests call).now clocked.base.documents _) _
      (invariant.agrees call)

theorem prepared_perform (invariant : ReadyInvariant codec settings requests initial clocked) (call : Nat) :
    ((clocked.perform codec settings requests reading).base.body call).phase.prepared codec := by
  obtain same | ⟨_, begun⟩ | ⟨_, stepped⟩ :=
    body_perform codec settings requests clocked.base reading.event call
  · rw [Clocked.perform, same]
    exact invariant.prepared call
  · rw [Clocked.perform, begun]
    trivial
  · rw [Clocked.perform, stepped]
    exact makes_prepared (step_makes codec settings (requests call).now clocked.base.documents _)

theorem left_owes (state : State) (call : Nat) (document : PyValue)
    (returns : (requests call).kind.returnsDocument = true) (pending : (state.stage call).pending = true)
    (outside : state.stage call ≠ .inside) (leaves : (state.body call).phase = .leaving (.ok document)) :
    state.owesReady requests call := by
  constructor
  · cases place : state.stage call with
    | unlocked => exact .inl rfl
    | recording enteredStore =>
        cases enteredStore with
        | true => exact .inr rfl
        | false =>
            rw [place] at pending
            cases pending
    | inside => exact absurd place outside
    | _ =>
        rw [place] at pending
        cases pending
  · rw [State.recordedLater, result_leaving state call document leaves]
    exact returned_ready (requests call).kind returns document

-- The document that a step renames into place is stored, and nobody counted
-- on the one before it.
theorem renamed_stores (faithful : codec.Faithful) (actor : Nat) (clock : ℚ)
    (invariant : ReadyInvariant codec settings requests initial clocked)
    (timely : Timely codec settings requests clocked ⟨.advance actor, clock⟩)
    (refreshed : PyValue) (temporary : Option Entry)
    (here : (clocked.base.body actor).phase = .replacing refreshed temporary ∨
      ∃ next held, (clocked.base.body actor).phase = .replacingScoped refreshed temporary next held) :
    Stores codec settings ⟨temporary, none⟩ refreshed ∧ ∀ other, ¬ clocked.base.owesReady requests other := by
  have prepared := invariant.prepared actor
  unfold Timely at timely
  dsimp only at timely
  obtain here | ⟨next, held, here⟩ := here
  · rw [here] at prepared timely
    exact ⟨prepared_stores faithful refreshed temporary prepared timely.1, timely.2⟩
  · rw [here] at prepared timely
    exact ⟨prepared_stores faithful refreshed temporary prepared timely.1, timely.2.2⟩

theorem stored_advance (faithful : codec.Faithful) (actor : Nat) (clock : ℚ)
    (invariant : ReadyInvariant codec settings requests initial clocked)
    (guard : clocked.base.enabled requests (.advance actor))
    (timely : Timely codec settings requests clocked ⟨.advance actor, clock⟩) (call : Nat) (document : PyValue)
    (returns : (requests call).kind.returnsDocument = true) (pending : (clocked.base.stage call).pending = true)
    (leaves : ((clocked.base.perform codec settings requests (.advance actor)).body call).phase =
      .leaving (.ok document)) :
    Stores codec settings (clocked.base.perform codec settings requests (.advance actor)).documents.directory
      document := by
  have makes := step_makes codec settings (requests actor).now clocked.base.documents (clocked.base.body actor).phase
  have renamed := renamed_stores initial clocked faithful actor clock invariant timely
  change Stores codec settings (stepPhase codec settings (requests actor).now (clocked.base.body actor).phase
    clocked.base.documents).documents.directory document
  by_cases same : call = actor
  · subst same
    have phase : (stepPhase codec settings (requests call).now (clocked.base.body call).phase
        clocked.base.documents).phase = .leaving (.ok document) := by
      rw [← leaves]
      simp [State.perform, State.advance, State.announce]
    obtain ⟨found, kept⟩ | ⟨temporary, here, there⟩ :=
      makes_document makes _ (invariant.agrees call) returns guard.2 document phase
    · rw [kept]
      exact loaded_stores codec settings _ _ document found
    · rw [there]
      exact (renamed document temporary (.inl here)).1
  · rw [body_other clocked.base (.advance actor) call same] at leaves
    have outside : clocked.base.stage call ≠ .inside := by
      intro inside
      have mine := (invariant.consistent.holder call).mp inside
      rw [(invariant.consistent.holder actor).mp guard.1] at mine
      exact same (Option.some.inj mine).symm
    have owes := left_owes clocked.base call document returns pending outside leaves
    cases makes_renames makes with
    | none kept =>
        rw [kept]
        exact invariant.stored call document returns pending leaves
    | refreshed refreshed temporary here there =>
        exact absurd owes ((renamed refreshed temporary (.inl here)).2 call)
    | withinScope refreshed temporary next held here there =>
        exact absurd owes ((renamed refreshed temporary (.inr ⟨next, held, here⟩)).2 call)

theorem stored_perform (faithful : codec.Faithful)
    (invariant : ReadyInvariant codec settings requests initial clocked)
    (guard : clocked.base.enabled requests reading.event)
    (timely : Timely codec settings requests clocked reading) (call : Nat) (document : PyValue)
    (returns : (requests call).kind.returnsDocument = true)
    (pending : ((clocked.base.perform codec settings requests reading.event).stage call).pending = true)
    (leaves : ((clocked.base.perform codec settings requests reading.event).body call).phase =
      .leaving (.ok document)) :
    Stores codec settings (clocked.base.perform codec settings requests reading.event).documents.directory
      document := by
  obtain ⟨event, clock⟩ := reading
  dsimp only at guard pending leaves ⊢
  by_cases acquires : event = .acquireFlock call
  · subst acquires
    simp [State.perform, State.move, tokenSections] at leaves
  · have earlier := pending_before codec settings requests clocked.base event call guard acquires pending
    by_cases steps : ∃ actor, event = .advance actor
    · obtain ⟨actor, rfl⟩ := steps
      exact stored_advance initial clocked faithful actor clock invariant guard timely call document returns
        earlier leaves
    · have quiet : ∀ actor, event ≠ .advance actor := fun actor same => steps ⟨actor, same⟩
      rw [documents_perform codec settings requests clocked.base event quiet]
      apply invariant.stored call document returns earlier
      obtain same | ⟨begun, _⟩ | ⟨stepped, _⟩ := body_perform codec settings requests clocked.base event call
      · rw [← same]
        exact leaves
      · exact absurd begun acquires
      · exact absurd stepped (quiet call)

theorem advance_usable (faithful : codec.Faithful) (actor : Nat) (clock : ℚ)
    (invariant : ReadyInvariant codec settings requests initial clocked)
    (timely : Timely codec settings requests clocked ⟨.advance actor, clock⟩) (health : Health)
    (member : health ∈ clocked.base.recordedBy codec settings requests (.advance actor))
    (ready : health.state = .ready) :
    Usable codec settings (requests actor).now
        (clocked.base.perform codec settings requests (.advance actor)).documents.directory ∧
      Usable codec settings clock
        (clocked.base.perform codec settings requests (.advance actor)).documents.directory := by
  have makes := step_makes codec settings (requests actor).now clocked.base.documents (clocked.base.body actor).phase
  have renamed := renamed_stores initial clocked faithful actor clock invariant timely
  change Usable codec settings _ (stepPhase codec settings (requests actor).now (clocked.base.body actor).phase
    clocked.base.documents).documents.directory ∧ Usable codec settings _ (stepPhase codec settings
      (requests actor).now (clocked.base.body actor).phase clocked.base.documents).documents.directory
  unfold Timely at timely
  dsimp only at timely
  obtain ⟨operation, current, here, found, kept⟩ | ⟨refreshed, temporary, next, held, here, there⟩ :=
    makes_ready makes health member ready
  · rw [here] at timely
    rw [kept]
    exact ⟨⟨current, found⟩, stores_usable codec settings clock _ current
      (loaded_stores codec settings _ _ current found) (timely current found).2⟩
  · have stores := (renamed refreshed temporary (.inr ⟨next, held, here⟩)).1
    rw [here] at timely
    rw [there]
    exact ⟨stores_usable codec settings _ _ refreshed stores timely.2.1.1,
      stores_usable codec settings _ _ refreshed stores timely.2.1.2⟩

theorem record_usable (call : Nat) (clock : ℚ)
    (invariant : ReadyInvariant codec settings requests initial clocked)
    (guard : clocked.base.enabled requests (.record call))
    (timely : Timely codec settings requests clocked ⟨.record call, clock⟩) (health : Health)
    (member : health ∈ clocked.base.recordedBy codec settings requests (.record call))
    (ready : health.state = .ready) :
    Usable codec settings (requests call).now clocked.base.documents.directory ∧
      Usable codec settings clock clocked.base.documents.directory := by
  unfold State.recordedBy at member
  dsimp only at member
  cases guard with
  | inl recording =>
      rw [recording] at member
      obtain ⟨returns, document, returned⟩ := record_ready _ _ _ health member ready
      obtain ⟨_, leaves⟩ := result_of_ok clocked.base call true document returned
      have pending : (clocked.base.stage call).pending = true := by
        rw [recording]
        rfl
      have lasts := timely ⟨.inr recording, health, member, ready⟩ document leaves
      have stores := invariant.stored call document returns pending leaves
      exact ⟨stores_usable codec settings _ _ document stores lasts.1,
        stores_usable codec settings _ _ document stores lasts.2⟩
  | inr recording =>
      rw [recording] at member
      exact absurd ready (record_quiet _ _ false health member)

theorem usable_perform (faithful : codec.Faithful)
    (invariant : ReadyInvariant codec settings requests initial clocked)
    (guard : clocked.base.enabled requests reading.event)
    (timely : Timely codec settings requests clocked reading) :
    ReadyUsable codec settings requests (clocked.perform codec settings requests reading) := by
  intro noted member ready
  cases List.mem_append.mp member with
  | inr old => exact invariant.usable noted old ready
  | inl fresh =>
      obtain ⟨health, recorded, rfl⟩ := List.mem_map.mp fresh
      have made := List.mem_reverse.mp recorded
      obtain ⟨event, clock⟩ := reading
      cases event with
      | advance actor =>
          exact advance_usable initial clocked faithful actor clock invariant timely health made ready
      | record call =>
          have kept := documents_perform codec settings requests clocked.base (.record call) nofun
          dsimp only
          rw [kept]
          exact record_usable initial clocked call clock invariant guard timely health made ready
      | _ => cases made

theorem ready_perform (faithful : codec.Faithful)
    (invariant : ReadyInvariant codec settings requests initial clocked)
    (guard : clocked.base.enabled requests reading.event)
    (timely : Timely codec settings requests clocked reading) :
    ReadyInvariant codec settings requests initial (clocked.perform codec settings requests reading) where
  consistent := consistent_perform initial clocked.base reading.event invariant.consistent guard
  agrees := agrees_perform initial clocked reading invariant
  prepared := prepared_perform initial clocked reading invariant
  stored := stored_perform initial clocked reading faithful invariant guard timely
  usable := usable_perform initial clocked reading faithful invariant guard timely

end Run

theorem ready_start (entry : Option Entry) :
    ReadyInvariant codec settings requests (Documents.start entry)
      (Clocked.start codec settings requests entry) where
  consistent := consistent_start entry
  agrees call := rfl
  prepared call := trivial
  stored call document _ pending := by cases pending
  usable noted member := by cases member

-- In every run in which no step outlives, overfills or overtakes what READY
-- is recorded for, READY is recorded for a document that a load returns.
theorem ready_implies_usable (faithful : codec.Faithful) (entry : Option Entry) (clocked : Clocked)
    (reached : ((clockedSystem codec settings requests).restrict (Timely codec settings requests)).Reaches
      Set.univ (Clocked.start codec settings requests entry) clocked) :
    ReadyUsable codec settings requests clocked := by
  have invariant : ReadyInvariant codec settings requests (Documents.start entry) clocked := by
    apply System.reaches_invariant _ Set.univ _ _ _ _ reached
    · exact ready_start entry
    · intro before reading _ held guard
      exact ready_perform (Documents.start entry) before reading faithful held guard.1 guard.2
  exact invariant.usable

def threeStamps : Codec where
  dumps _ := true
  dump value :=
    match value with
    | .dict ((.str "creation_timestamp", .int (.ofNat stamp)) :: _) =>
        if stamp ∈ [1, 2, 3] then .ok (sampleContent stamp) else .error .typeError
    | _ => .error .typeError
  load := sampleCodec.load

theorem sample_loads (stamp : Nat) (small : stamp ∈ [1, 2, 3]) :
    sampleCodec.load (sampleContent stamp) = .ok (sampleToken stamp) := by
  have different : sampleContent 2 ≠ sampleContent 1 ∧ sampleContent 3 ≠ sampleContent 1 ∧
      sampleContent 3 ≠ sampleContent 2 := by decide +kernel
  simp only [List.mem_cons, List.not_mem_nil, or_false] at small
  obtain rfl | rfl | rfl := small
  · simp [sampleCodec]
  · simp [sampleCodec, different]
  · simp [sampleCodec, different]

theorem three_stamps_faithful : threeStamps.Faithful where
  reload token content _ dumped := by
    unfold threeStamps at dumped
    dsimp only at dumped
    split at dumped
    · rename_i stamp rest _
      split at dumped
      · rename_i small
        cases dumped
        have limit : 3 < floatLimit := by decide +kernel
        have bounds : 0 < stamp ∧ stamp ≤ 3 := by
          simp only [List.mem_cons, List.not_mem_nil, or_false] at small
          omega
        refine ⟨sampleToken stamp, sample_loads stamp small, sample_valid stamp bounds.1 (by omega), ?_⟩
        intro ttl
        simp [expiresAt, sampleToken, PyValue.get]
      · cases dumped
    · cases dumped

-- One refresh, and any number of scoped writes.
def renewing : Nat → Request
  | 0 => ⟨0, 0, 0, .refresh fun _ => .ok (sampleToken 2), 10⟩
  | _ => ⟨0, 0, 0, .access (.write (sampleToken 3) fun _ => .returns (sampleToken 3)), 20⟩

theorem access_owes_nothing (state : State) (call : Nat) (access : (requests call).kind.returnsDocument = false) :
    ¬ state.owesReady requests call := by
  rintro ⟨_, health, member, ready⟩
  obtain ⟨returns, _⟩ := record_ready _ _ _ health member ready
  cases returns.symm.trans access

instance (state : State) : Decidable (∀ other, ¬ state.owesReady renewing other) :=
  decidable_of_iff (¬ state.owesReady renewing 0)
    ⟨fun quiet other => match other with
      | 0 => quiet
      | later + 1 => access_owes_nothing state (later + 1) rfl,
      fun quiet => quiet 0⟩

-- Both documents are checked, written and recorded at clock readings of their own.
def renewReadings : List Reading :=
  [⟨.begin 0, 10⟩, ⟨.acquireThread 0, 10⟩, ⟨.acquireFlock 0, 10⟩, ⟨.advance 0, 10⟩, ⟨.advance 0, 11⟩, ⟨.advance 0, 12⟩,
    ⟨.unlockFlock 0, 12⟩, ⟨.releaseThread 0, 12⟩, ⟨.record 0, 13⟩, ⟨.begin 1, 20⟩, ⟨.acquireThread 1, 20⟩,
    ⟨.acquireFlock 1, 20⟩, ⟨.advance 1, 20⟩, ⟨.advance 1, 21⟩, ⟨.advance 1, 22⟩, ⟨.advance 1, 23⟩, ⟨.advance 1, 23⟩,
    ⟨.unlockFlock 1, 24⟩, ⟨.releaseThread 1, 24⟩, ⟨.record 1, 24⟩]

def renewStart : Clocked := Clocked.start threeStamps sampleSettings renewing (sampleFile 1)

def renewedSample : Clocked := (clockedSystem threeStamps sampleSettings renewing).performAll renewStart renewReadings

def renewedRecords : List Noted :=
  [⟨1, refreshSucceeded, 23, ⟨sampleFile 3, none⟩⟩, ⟨1, tokenLoaded, 20, ⟨sampleFile 2, none⟩⟩,
    ⟨0, refreshSucceeded, 13, ⟨sampleFile 2, none⟩⟩]

theorem ready_implies_usable_sample :
    renewedSample.log.filter (fun noted => noted.health.state = .ready) = renewedRecords ∧
      ReadyUsable threeStamps sampleSettings renewing renewedSample := by
  obtain ⟨guards, recorded⟩ :
      ((clockedSystem threeStamps sampleSettings renewing).restrict
          (Timely threeStamps sampleSettings renewing)).EnabledAll renewStart renewReadings ∧
        renewedSample.log.filter (fun noted => noted.health.state = .ready) = renewedRecords := by decide +kernel
  have reached := System.reaches_perform_all _ Set.univ _ _ (fun _ _ => trivial) guards
  rw [System.perform_all_restrict] at reached
  exact ⟨recorded, ready_implies_usable three_stamps_faithful (sampleFile 1) renewedSample reached⟩

def refreshingTo (stamp : Nat) (now : ℚ) (_call : Nat) : Request :=
  ⟨0, 0, 0, .refresh (fun _ => .ok (sampleToken stamp)), now⟩

def refreshReadings (clock : ℚ) : List Reading :=
  [Event.begin 0, .acquireThread 0, .acquireFlock 0, .advance 0, .advance 0, .advance 0, .unlockFlock 0,
    .releaseThread 0, .record 0].map fun event => ⟨event, clock⟩

def smallSettings : Settings := ⟨604800, (sampleContent 3).length⟩

section Returned

variable (settings : Settings) (stamp : Nat) (now : ℚ)

def refreshStart : Clocked := Clocked.start sampleCodec settings (refreshingTo stamp now) (sampleFile 3)

def refreshEnd : Clocked :=
  (clockedSystem sampleCodec settings (refreshingTo stamp now)).performAll (refreshStart settings stamp now)
    (refreshReadings now)

abbrev RefreshRecorded : Prop :=
  (clockedSystem sampleCodec settings (refreshingTo stamp now)).EnabledAll (refreshStart settings stamp now)
      (refreshReadings now) ∧
    ⟨0, refreshSucceeded, now, ⟨sampleFile stamp, none⟩⟩ ∈ (refreshEnd settings stamp now).log

theorem recorded_unusable (error : Exception)
    (recorded : ⟨0, refreshSucceeded, now, ⟨sampleFile stamp, none⟩⟩ ∈ (refreshEnd settings stamp now).log)
    (refused : loadFromTransaction sampleCodec settings now ⟨sampleFile stamp, none⟩ = .error error) :
    ¬ ReadyUsable sampleCodec settings (refreshingTo stamp now) (refreshEnd settings stamp now) := by
  intro usable
  obtain ⟨token, loaded⟩ := (usable _ recorded rfl).2
  cases refused.symm.trans loaded

end Returned

-- A callback returns a document of an older login, and one that is longer than
-- what a read accepts: READY is recorded for both.
theorem unusable_recorded_ready :
    ((clockedSystem sampleCodec sampleSettings (refreshingTo 1 604802)).Reaches Set.univ
        (refreshStart sampleSettings 1 604802) (refreshEnd sampleSettings 1 604802) ∧
      loadFromTransaction sampleCodec sampleSettings 604802 ⟨sampleFile 1, none⟩ =
        .error (.token (.expired lifetimeExpired)) ∧
      ¬ ReadyUsable sampleCodec sampleSettings (refreshingTo 1 604802) (refreshEnd sampleSettings 1 604802)) ∧
    (clockedSystem sampleCodec smallSettings (refreshingTo 10 20)).Reaches Set.univ
        (refreshStart smallSettings 10 20) (refreshEnd smallSettings 10 20) ∧
      loadFromTransaction sampleCodec smallSettings 20 ⟨sampleFile 10, none⟩ =
        .error (.token (.corrupt documentTooLarge)) ∧
      ¬ ReadyUsable sampleCodec smallSettings (refreshingTo 10 20) (refreshEnd smallSettings 10 20) := by
  have older : storedDocument sampleCodec sampleSettings ⟨sampleFile 1, none⟩ = .ok (sampleToken 1) := by
    have fits : ¬ (sampleContent 1).length > 1048576 := by decide +kernel
    have valid := sample_valid 1 (by omega) (by decide +kernel)
    simp [storedDocument, read, sampleFile, sampleSettings, fits, sample_loads 1 (by simp), valid]
  have expired := load_expired sampleCodec sampleSettings 604802 _ (sampleToken 1) older (by decide +kernel)
  have long : loadFromTransaction sampleCodec smallSettings 20 ⟨sampleFile 10, none⟩ =
      .error (.token (.corrupt documentTooLarge)) := by rfl
  obtain ⟨first, second⟩ : RefreshRecorded sampleSettings 1 604802 ∧ RefreshRecorded smallSettings 10 20 := by decide +kernel
  refine ⟨⟨?_, expired, ?_⟩, ?_, long, ?_⟩
  · exact System.reaches_perform_all _ Set.univ _ _ (fun _ _ => trivial) first.1
  · exact recorded_unusable sampleSettings 1 604802 _ first.2 expired
  · exact System.reaches_perform_all _ Set.univ _ _ (fun _ _ => trivial) second.1
  · exact recorded_unusable smallSettings 10 20 _ second.2 long

end SchwabGateway.Token
