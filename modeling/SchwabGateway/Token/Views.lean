import SchwabGateway.Token.Exclusion

set_option autoImplicit false

namespace SchwabGateway.Token

open SchwabGateway.Python SchwabGateway.Library

variable (codec : Codec) (settings : Settings) (requests : Nat → Request)

-- The callbacks of a transaction show the document that is on disk: the one
-- it loaded, or the last one it wrote.
def Shows (now : ℚ) (callbacks : Callbacks) (documents : Documents) : Prop :=
  ∃ current, callbacks.current = some current ∧
    (loadFromTransaction codec settings now documents.directory = .ok current ∨
      ∃ content, codec.dump current = .ok content ∧
        documents.current = some (.regular ownerOnly content))

def Filled (refreshed : PyValue) (temporary : Option Entry) : Prop :=
  ∃ content, codec.dump refreshed = .ok content ∧ temporary = some (.regular ownerOnly content)

def PhaseView (now : ℚ) (phase : Phase) (documents : Documents) : Prop :=
  match phase with
  | .entered _ => True
  | .calling _ current => loadFromTransaction codec settings now documents.directory = .ok current
  | .replacing refreshed temporary => Filled codec refreshed temporary
  | .operating _ callbacks => Shows codec settings now callbacks documents
  | .writing _ _ callbacks => Shows codec settings now callbacks documents
  | .replacingScoped refreshed temporary _ callbacks =>
      Shows codec settings now callbacks documents ∧ Filled codec refreshed temporary
  | .leaving _ => True

structure Sound (initial : Documents) (state : State) : Prop where
  consistent : Consistent codec settings requests initial state
  view : ∀ call, PhaseView codec settings (requests call).now (state.body call).phase
    state.documents

variable {codec settings requests}

theorem prepare_filled (token : PyValue) (disk after : Directory)
    (prepared : prepare codec none token disk = (.ok (), after)) :
    Filled codec token after.temporary := by
  cases dumped : codec.dump token with
  | error error =>
      rw [prepare_unserializable codec none token disk error rfl dumped] at prepared
      cases prepared
  | ok content =>
      rw [prepare_done codec none token disk content rfl dumped rfl] at prepared
      cases prepared
      exact ⟨content, dumped, rfl⟩

theorem replace_takes (entry temporary : Option Entry) (after : Directory)
    (renamed : replace none ⟨entry, temporary⟩ = (.ok (), after)) : after.token = temporary := by
  by_cases file : entry = some .directory
  · subst file
    cases renamed
  · rw [replace_quiet none ⟨entry, temporary⟩ rfl file] at renamed
    cases renamed
    rfl

theorem entered_view (now : ℚ) (kind : Kind) (documents : Documents) :
    PhaseView codec settings now (stepEntered codec settings now kind documents).phase
      (stepEntered codec settings now kind documents).documents := by
  unfold stepEntered
  cases loaded : loadFromTransaction codec settings now documents.directory with
  | error error => cases kind <;> trivial
  | ok current =>
      cases kind with
      | load => trivial
      | refresh callback => exact loaded
      | access operation => exact ⟨current, rfl, .inl loaded⟩

theorem returned_view (now : ℚ) (value : PyValue) (documents : Documents) :
    PhaseView codec settings now (stepReturned codec value documents).phase
      (stepReturned codec value documents).documents := by
  unfold stepReturned
  cases validateTokenDocument codec value with
  | error error => trivial
  | ok refreshed =>
      dsimp only
      cases prepared : prepare codec none refreshed documents.directory with
      | mk result after =>
          cases result with
          | error error => trivial
          | ok done => exact prepare_filled refreshed documents.directory after prepared

theorem calling_view (now : ℚ) (callback : RefreshCallback) (current : PyValue)
    (documents : Documents) :
    PhaseView codec settings now (stepCalling codec callback current documents).phase
      (stepCalling codec callback current documents).documents := by
  unfold stepCalling
  cases callback current with
  | ok value => exact returned_view now value documents
  | error error =>
      cases error with
      | token error => cases error <;> trivial
      | osError errno => trivial
      | typeError => trivial
      | valueError => trivial
      | overflowError => trivial
      | recursionError => trivial
      | foreign => trivial

theorem replacing_view (now : ℚ) (refreshed : PyValue) (temporary : Option Entry)
    (documents : Documents) :
    PhaseView codec settings now (stepReplacing refreshed temporary documents).phase
      (stepReplacing refreshed temporary documents).documents := by
  unfold stepReplacing
  cases replace none ⟨documents.current, temporary⟩ with
  | mk result after => cases result <;> trivial

theorem operating_view (now : ℚ) (operation : Operation) (callbacks : Callbacks)
    (documents : Documents) (shows : Shows codec settings now callbacks documents) :
    PhaseView codec settings now (stepOperating operation callbacks documents).phase
      (stepOperating operation callbacks documents).documents := by
  unfold stepOperating
  cases operation with
  | returns value => trivial
  | raises error => trivial
  | read next => exact shows
  | write token next =>
      cases held : callbacks.current with
      | none => exact shows
      | some current => exact shows

theorem writing_view (now : ℚ) (token : PyValue) (next : Except Exception Unit → Operation)
    (callbacks : Callbacks) (documents : Documents)
    (shows : Shows codec settings now callbacks documents) :
    PhaseView codec settings now (stepWriting codec token next callbacks documents).phase
      (stepWriting codec token next callbacks documents).documents := by
  unfold stepWriting
  cases validateTokenDocument codec token with
  | error error => exact shows
  | ok refreshed =>
      dsimp only
      cases prepared : prepare codec none refreshed documents.directory with
      | mk result after =>
          cases result with
          | error error => exact shows
          | ok done => exact ⟨shows, prepare_filled refreshed documents.directory after prepared⟩

theorem replacing_scoped_view (now : ℚ) (refreshed : PyValue) (temporary : Option Entry)
    (next : Except Exception Unit → Operation) (callbacks : Callbacks) (documents : Documents)
    (shows : Shows codec settings now callbacks documents)
    (filled : Filled codec refreshed temporary) :
    PhaseView codec settings now
      (stepReplacingScoped refreshed temporary next callbacks documents).phase
      (stepReplacingScoped refreshed temporary next callbacks documents).documents := by
  unfold stepReplacingScoped
  cases renamed : replace none ⟨documents.current, temporary⟩ with
  | mk result after =>
      cases result with
      | error error => exact shows
      | ok done =>
          obtain ⟨content, dumped, written⟩ := filled
          have taken := replace_takes documents.current temporary after renamed
          exact ⟨refreshed, rfl, .inr ⟨content, dumped, taken.trans written⟩⟩

theorem step_view (now : ℚ) (phase : Phase) (documents : Documents)
    (view : PhaseView codec settings now phase documents) :
    PhaseView codec settings now (stepPhase codec settings now phase documents).phase
      (stepPhase codec settings now phase documents).documents := by
  cases phase with
  | entered kind => exact entered_view now kind documents
  | calling callback current => exact calling_view now callback current documents
  | replacing refreshed temporary => exact replacing_view now refreshed temporary documents
  | operating operation callbacks => exact operating_view now operation callbacks documents view
  | writing token next callbacks => exact writing_view now token next callbacks documents view
  | replacingScoped refreshed temporary next callbacks =>
      exact replacing_scoped_view now refreshed temporary next callbacks documents view.1 view.2
  | leaving result => trivial

theorem view_resting (initial : Documents) (state : State) (call : Nat) (documents : Documents)
    (consistent : Consistent codec settings requests initial state)
    (away : state.flock ≠ some call) :
    PhaseView codec settings (requests call).now (state.body call).phase documents := by
  by_cases member : call ∈ state.entered.map Prod.fst
  · obtain ⟨result, phase⟩ := is_leaving _ (consistent.finished call member away)
    rw [phase]
    trivial
  · rw [consistent.unbegun call member]
    trivial

theorem sound_perform (initial : Documents) (state : State) (event : Event)
    (sound : Sound codec settings requests initial state)
    (guard : state.enabled requests event) :
    Sound codec settings requests initial
      (state.perform codec settings requests event) where
  consistent := consistent_perform initial state event sound.consistent guard
  view := by
    cases event with
    | acquireFlock call =>
        intro other
        by_cases same : other = call
        · subst same
          simp [State.perform, tokenSections, PhaseView]
        · simp only [State.perform, Function.update_of_ne same]
          exact sound.view other
    | advance call =>
        intro other
        by_cases same : other = call
        · subst same
          simp only [State.perform, State.advance, State.announce, Function.update_self]
          exact step_view _ _ _ (sound.view other)
        · have held := (sound.consistent.holder call).mp guard.1
          simp only [State.perform, State.advance, State.announce, Function.update_of_ne same]
          apply view_resting initial state other _ sound.consistent
          rw [held]
          simpa using Ne.symm same
    | begin call => exact sound.view
    | acquireThread call => exact sound.view
    | threadTimeout call => exact sound.view
    | flockTimeout call => exact sound.view
    | unlockFlock call => exact sound.view
    | releaseThread call => exact sound.view
    | record call =>
        cases guard with
        | inl recording => simpa [State.perform, recording, State.move, State.announce] using sound.view
        | inr recording => simpa [State.perform, recording, State.move, State.announce] using sound.view

theorem sound_reachable (entry : Option Entry) (state : State)
    (reached : (tokenSystem codec settings requests).Reaches Set.univ
      (State.start codec settings requests entry) state) :
    Sound codec settings requests
      (Documents.start entry) state := by
  apply System.reaches_invariant _ Set.univ _ _ _ _ reached
  · exact ⟨consistent_start entry, fun _ => trivial⟩
  · intro before event _ sound guard
    exact sound_perform (Documents.start entry) before event sound guard

end SchwabGateway.Token
