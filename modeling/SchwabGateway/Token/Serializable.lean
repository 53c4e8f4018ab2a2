import SchwabGateway.Token.Views

set_option autoImplicit false

namespace SchwabGateway.Token

open SchwabGateway.Python SchwabGateway.Library

variable {codec : Codec} {settings : Settings} {requests : Nat → Request}

def PartOf (codec : Codec) (settings : Settings) (request : Request) (before : Documents)
    (data : Body × Documents) : Prop :=
  (finishPhase codec settings request.now data.1.phase data.2.directory).after data.1.transitions =
    lockedSection codec settings none request.now request.kind before.directory

theorem run_part_of (codec : Codec) (settings : Settings) (requests : Nat → Request) (call steps : Nat) (before : Documents) :
    PartOf codec settings (requests call) before
      ((tokenSections codec settings requests).run call steps
        ((tokenSections codec settings requests).start call, before)) := by
  apply Sections.run_invariant call (PartOf codec settings (requests call) before)
  · intro data held
    have step := step_sound codec settings (requests call).now data.1.phase data.2
    unfold PartOf at held
    rw [step, after_after] at held
    exact held
  · rfl

def Rejected (codec : Codec) (callback : RefreshCallback) (current : PyValue) : Prop :=
  (∃ error, callback current = .error error) ∨
    ∃ value error, callback current = .ok value ∧ validateTokenDocument codec value = .error error

theorem calling_rejected (callback : RefreshCallback) (current : PyValue) (documents : Documents)
    (rejected : Rejected codec callback current) :
    (stepCalling codec callback current documents).phase.isLeaving = true ∧
      (stepCalling codec callback current documents).documents = documents := by
  unfold stepCalling
  cases rejected with
  | inl raised =>
      obtain ⟨error, raised⟩ := raised
      rw [raised]
      cases error with
      | token error => cases error <;> exact ⟨rfl, rfl⟩
      | osError errno => exact ⟨rfl, rfl⟩
      | typeError => exact ⟨rfl, rfl⟩
      | valueError => exact ⟨rfl, rfl⟩
      | overflowError => exact ⟨rfl, rfl⟩
      | recursionError => exact ⟨rfl, rfl⟩
      | foreign => exact ⟨rfl, rfl⟩
  | inr invalid =>
      obtain ⟨value, error, returned, invalid⟩ := invalid
      simp only [returned, stepReturned, invalid]
      exact ⟨rfl, trivial⟩

def Untouched (codec : Codec) (settings : Settings) (request : Request) (before : Documents)
    (callback : RefreshCallback) (data : Body × Documents) : Prop :=
  data.2 = before ∧
    (data.1.phase = .entered (.refresh callback) ∨
      (∃ current, data.1.phase = .calling callback current ∧
        loadFromTransaction codec settings request.now before.directory = .ok current) ∨
      data.1.phase.isLeaving = true)

theorem run_untouched (call steps : Nat) (before : Documents) (callback : RefreshCallback)
    (kind : (requests call).kind = .refresh callback)
    (rejected : ∀ current, loadFromTransaction codec settings (requests call).now
      before.directory = .ok current → Rejected codec callback current) :
    Untouched codec settings (requests call) before callback
      ((tokenSections codec settings requests).run call steps
        ((tokenSections codec settings requests).start call, before)) := by
  apply Sections.run_invariant call (Untouched codec settings (requests call) before callback)
  · rintro ⟨⟨phase, transitions⟩, documents⟩ ⟨rfl, place⟩
    dsimp only at place rejected
    rcases place with rfl | ⟨current, rfl, loaded⟩ | leaving
    · simp only [tokenSections, stepPhase, stepEntered]
      cases loaded : loadFromTransaction codec settings (requests call).now documents.directory with
      | error error => exact ⟨rfl, .inr (.inr rfl)⟩
      | ok current => exact ⟨rfl, .inr (.inl ⟨current, rfl, loaded⟩)⟩
    · simp only [tokenSections, stepPhase]
      obtain ⟨left, same⟩ := calling_rejected callback current documents (rejected current loaded)
      exact ⟨same, .inr (.inr left)⟩
    · obtain ⟨result, rfl⟩ := is_leaving _ leaving
      exact ⟨rfl, .inr (.inr rfl)⟩
  · exact ⟨rfl, .inl (congrArg Phase.entered kind)⟩

theorem write_returns_content (token : PyValue) (entry : Option Entry) (after : Directory)
    (returned : write codec none token ⟨entry, none⟩ = (.ok (), after)) :
    Filled codec token after.token := by
  rw [write_parts] at returned
  cases prepared : prepare codec none token ⟨entry, none⟩ with
  | mk result filled =>
      cases result with
      | error error => rw [prepared] at returned; cases returned
      | ok done =>
          obtain ⟨content, dumped, written⟩ := prepare_filled token ⟨entry, none⟩ filled prepared
          cases renamed : replace none ⟨entry, filled.temporary⟩ with
          | mk result final =>
              rw [prepared] at returned
              simp only [renamed] at returned
              cases result with
              | error error => cases returned
              | ok done =>
                  cases returned
                  exact ⟨content, dumped, (replace_takes entry filled.temporary final renamed).trans written⟩

theorem refresh_section_writes (codec : Codec) (settings : Settings) (now : ℚ) (callback : RefreshCallback) (entry : Option Entry)
    (refreshed : PyValue)
    (returned : (refreshSection codec settings none now callback ⟨entry, none⟩).result =
      .ok refreshed) :
    Filled codec refreshed (refreshSection codec settings none now callback ⟨entry, none⟩).disk.token := by
  unfold refreshSection at returned ⊢
  cases loaded : loadFromTransaction codec settings now ⟨entry, none⟩ with
  | error error => rw [loaded] at returned; cases returned
  | ok current =>
      simp only [loaded, Outcome.after, refreshWith] at returned ⊢
      cases called : callback current with
      | error error =>
          simp only [called] at returned
          cases error with
          | token error => cases error <;> cases returned
          | osError errno => cases returned
          | typeError => cases returned
          | valueError => cases returned
          | overflowError => cases returned
          | recursionError => cases returned
          | foreign => cases returned
      | ok value =>
          simp only [called, persistRefreshed] at returned ⊢
          cases valid : validateTokenDocument codec value with
          | error error => simp only [valid] at returned; cases returned
          | ok document =>
              simp only [valid] at returned ⊢
              cases written : write codec none document ⟨entry, none⟩ with
              | mk result after =>
                  simp only [written] at returned ⊢
                  cases result with
                  | error error => cases returned
                  | ok done =>
                      cases returned
                      exact write_returns_content _ entry after written

def Phase.callbacks : Phase → Option Callbacks
  | .operating _ callbacks => some callbacks
  | .writing _ _ callbacks => some callbacks
  | .replacingScoped _ _ _ callbacks => some callbacks
  | _ => none

variable (codec settings requests)

def serialDocuments (entry : Option Entry) (entered : List (Nat × Nat)) : Documents :=
  (tokenSections codec settings requests).serial (Documents.start entry) entered

structure Serialized (entry : Option Entry) (state : State) : Prop where
  documents_serial :
    state.documents = serialDocuments codec settings requests entry state.entered
  one_holder : ∀ first second, state.stage first = .inside → state.stage second = .inside →
    first = second
  holder_newest : ∀ call, state.stage call = .inside →
    ∃ steps earlier, state.entered = (call, steps) :: earlier
  others_finished : ∀ call, call ∈ state.entered.map Prod.fst → state.stage call ≠ .inside →
    ∃ result, (state.body call).phase = .leaving result
  section_atomic : ∀ later call steps earlier result,
    state.entered = later ++ (call, steps) :: earlier →
      (state.body call).phase = .leaving result →
        lockedSection codec settings none (requests call).now (requests call).kind
            (serialDocuments codec settings requests entry earlier).directory =
          { result := result
            disk := (serialDocuments codec settings requests entry
              ((call, steps) :: earlier)).directory
            transitions := (state.body call).transitions }
  callback_current : ∀ call callback current,
    (state.body call).phase = .calling callback current →
      loadFromTransaction codec settings (requests call).now state.documents.directory = .ok current
  scoped_current : ∀ call callbacks, (state.body call).phase.callbacks = some callbacks →
    Shows codec settings (requests call).now callbacks state.documents
  refresh_visible : ∀ later call steps earlier callback refreshed,
    state.entered = later ++ (call, steps) :: earlier →
      (requests call).kind = .refresh callback →
        (state.body call).phase = .leaving (.ok refreshed) →
          Filled codec refreshed
            (serialDocuments codec settings requests entry ((call, steps) :: earlier)).current
  refresh_rejected : ∀ later call steps earlier callback,
    state.entered = later ++ (call, steps) :: earlier →
      (requests call).kind = .refresh callback →
        (∀ current, loadFromTransaction codec settings (requests call).now
            (serialDocuments codec settings requests entry earlier).directory = .ok current →
          Rejected codec callback current) →
          serialDocuments codec settings requests entry ((call, steps) :: earlier) =
            serialDocuments codec settings requests entry earlier
  scoped_rejected : ∀ call token next callbacks error,
    (state.body call).phase = .writing token next callbacks →
      validateTokenDocument codec token = .error error →
        (state.advance codec settings requests call).documents = state.documents ∧
        ((state.advance codec settings requests call).body call).phase =
          .operating (next (.error (.token (.refresh writeInvalid)))) callbacks

variable {codec settings requests}

theorem section_in_one_piece (entry : Option Entry) (state : State)
    (later earlier : List (Nat × Nat)) (call steps : Nat) (result : Except Exception PyValue)
    (follows : (tokenSections codec settings requests).Follows (Documents.start entry)
      state.documents state.body state.entered)
    (shape : state.entered = later ++ (call, steps) :: earlier)
    (left : (state.body call).phase = .leaving result) :
    lockedSection codec settings none (requests call).now (requests call).kind
        (serialDocuments codec settings requests entry earlier).directory =
      { result := result
        disk := (serialDocuments codec settings requests entry ((call, steps) :: earlier)).directory
        transitions := (state.body call).transitions } := by
  have here := follows.locals_eq later call steps earlier shape
  have part := run_part_of codec settings requests call steps
    (serialDocuments codec settings requests entry earlier)
  unfold PartOf at part
  rw [show ((tokenSections codec settings requests).run call steps
    ((tokenSections codec settings requests).start call,
      serialDocuments codec settings requests entry earlier)).1 = state.body call from here.symm,
    left] at part
  rw [← part]
  simp [finishPhase, Outcome.after, serialDocuments, Sections.serial]

theorem token_file_serializable (entry : Option Entry) (state : State)
    (reached : (tokenSystem codec settings requests).Reaches Set.univ
      (State.start codec settings requests entry) state) :
    Serialized codec settings requests entry state := by
  have sound := sound_reachable entry state reached
  have consistent := sound.consistent
  exact
    { documents_serial := consistent.follows.shared_eq
      one_holder := by
        intro first second one other
        have left := (consistent.holder first).mp one
        rw [(consistent.holder second).mp other] at left
        exact (Option.some.inj left).symm
      holder_newest := by
        intro call inside
        exact consistent.newest call ((consistent.holder call).mp inside)
      others_finished := by
        intro call member outside
        exact is_leaving _ (consistent.finished call member ((consistent.holder call).not.mp outside))
      section_atomic := by
        intro later call steps earlier result shape left
        exact section_in_one_piece entry state later earlier call steps result consistent.follows
          shape left
      callback_current := by
        intro call callback current calling
        have view := sound.view call
        rw [calling] at view
        exact view
      scoped_current := by
        intro call callbacks held
        have view := sound.view call
        cases phase : (state.body call).phase with
        | operating operation current =>
            rw [phase] at held view
            cases held
            exact view
        | writing token next current =>
            rw [phase] at held view
            cases held
            exact view
        | replacingScoped refreshed temporary next current =>
            rw [phase] at held view
            cases held
            exact view.1
        | entered kind => rw [phase] at held; cases held
        | calling callback current => rw [phase] at held; cases held
        | replacing refreshed temporary => rw [phase] at held; cases held
        | leaving result => rw [phase] at held; cases held
      refresh_visible := by
        intro later call steps earlier callback refreshed shape kind left
        have atomic := section_in_one_piece entry state later earlier call steps _
          consistent.follows shape left
        rw [kind] at atomic
        have written := refresh_section_writes codec settings (requests call).now callback
          (serialDocuments codec settings requests entry earlier).current refreshed
          (congrArg Outcome.result atomic)
        rw [show (refreshSection codec settings none (requests call).now callback
          ⟨(serialDocuments codec settings requests entry earlier).current, none⟩).disk = _
            from congrArg Outcome.disk atomic] at written
        exact written
      refresh_rejected := by
        intro later call steps earlier callback _ kind rejected
        exact (run_untouched call steps _ callback kind rejected).1
      scoped_rejected := by
        intro call token next callbacks error writing invalid
        simp [State.advance, State.announce, writing, stepPhase, stepWriting, invalid] }

def sampleSettings : Settings := ⟨604800, 1048576⟩

def sampleRefresh : RefreshCallback
  | .dict ((_, .int (.ofNat stamp)) :: _) => .ok (sampleToken (stamp + 1))
  | _ => .error .typeError

-- Call n is a refresh by process n that counts the timestamp up.
def sampleRequests (call : Nat) : Request := ⟨call, 0, call, .refresh sampleRefresh, 10⟩

def sampleEvents : List Event :=
  [.begin 0, .begin 1, .acquireThread 0, .acquireThread 1, .acquireFlock 1, .advance 1, .advance 1,
    .advance 1, .unlockFlock 1, .acquireFlock 0, .releaseThread 1, .advance 0, .record 1,
    .advance 0, .advance 0, .unlockFlock 0, .releaseThread 0, .record 0]

theorem token_file_serializable_sample :
    let final := (tokenSystem sampleCodec sampleSettings sampleRequests).performAll
      (State.start sampleCodec sampleSettings sampleRequests (sampleFile 1)) sampleEvents
    final.documents = ⟨sampleFile 3, [sampleFile 2, sampleFile 1]⟩ ∧
      Serialized sampleCodec sampleSettings sampleRequests (sampleFile 1) final := by
  have guards : (tokenSystem sampleCodec sampleSettings sampleRequests).EnabledAll
      (State.start sampleCodec sampleSettings sampleRequests (sampleFile 1)) sampleEvents := by
    decide +kernel
  constructor
  · decide +kernel
  · apply token_file_serializable
    exact System.reaches_perform_all _ Set.univ _ sampleEvents (fun _ _ => trivial) guards

end SchwabGateway.Token
