import SchwabGateway.Token.Recording

set_option autoImplicit false

namespace SchwabGateway.Token

open SchwabGateway.Python SchwabGateway.Library

def Health.terminal (health : Health) : Bool := health.state ≠ .refreshing

theorem failure_terminal (error : TokenError) : (failureOutcome error).terminal = true := by
  cases error <;> rfl

def EndsTerminal (transitions : List Health) : Prop :=
  ∃ outcome, transitions.getLast? = some outcome ∧ outcome.terminal = true

theorem ends_terminal_last (earlier : List Health) (outcome : Health) (terminal : outcome.terminal = true) :
    EndsTerminal (earlier ++ [outcome]) := ⟨outcome, List.getLast?_concat .., terminal⟩

-- A call in the code under the lock is on its way to a terminal state: it has
-- made one, or the code still in front of it records one.
def Settling (kind : Kind) (body : Body) : Prop :=
  match body.phase with
  | .entered other => other = kind
  | .calling _ _ => ∃ callback, kind = .refresh callback
  | .replacing _ _ => ∃ callback, kind = .refresh callback
  | .operating _ _ => (∃ operation, kind = .access operation) ∧ EndsTerminal body.transitions
  | .writing _ _ _ => ∃ operation, kind = .access operation
  | .replacingScoped _ _ _ _ => ∃ operation, kind = .access operation
  | .leaving result => EndsTerminal (body.transitions ++ recordOutcome kind true result)

theorem settled_inside (kind : Kind) (result : Except Exception PyValue) (earlier : List Health) (outcome : Health)
    (nothing : recordOutcome kind true result = []) (terminal : outcome.terminal = true) :
    Settling kind ⟨.leaving result, earlier ++ [outcome]⟩ := by
  dsimp only [Settling]
  rw [nothing, List.append_nil]
  exact ends_terminal_last earlier outcome terminal

theorem settled_owing (kind : Kind) (result : Except Exception PyValue) (transitions : List Health)
    (outcome : Health) (owed : recordOutcome kind true result = [outcome]) (terminal : outcome.terminal = true) :
    Settling kind ⟨.leaving result, transitions⟩ := by
  dsimp only [Settling]
  rw [owed]
  exact ends_terminal_last transitions outcome terminal

section Errors

variable (codec : Codec) (settings : Settings) (now : ℚ)

theorem read_fails (maxTokenBytes : Nat) (disk : Directory) (error : Exception)
    (raised : read codec maxTokenBytes disk = .error error) :
    error = .recursionError ∨ ∃ failure, error = .token failure ∧
      recordRefresh (.error (.token failure)) = [failureOutcome failure] := by
  unfold read at raised
  split at raised
  · cases raised
    exact .inr ⟨_, rfl, rfl⟩
  · cases raised
    exact .inr ⟨_, rfl, rfl⟩
  · cases raised
    exact .inr ⟨_, rfl, rfl⟩
  · cases raised
    exact .inr ⟨_, rfl, rfl⟩
  · split at raised
    · cases raised
      exact .inr ⟨_, rfl, rfl⟩
    · split at raised
      · cases raised
        exact .inr ⟨_, rfl, rfl⟩
      · split at raised
        · cases raised
        · cases raised
          exact .inr ⟨_, rfl, rfl⟩
        · cases raised
          exact .inl rfl

theorem load_fails_recorded (disk : Directory) (error : Exception)
    (shallow : read codec settings.maxTokenBytes disk ≠ .error .recursionError)
    (raised : loadFromTransaction codec settings now disk = .error error) :
    ∃ failure, error = .token failure ∧ recordRefresh (.error (.token failure)) = [failureOutcome failure] := by
  unfold loadFromTransaction at raised
  cases reading : read codec settings.maxTokenBytes disk with
  | error failure =>
      rw [reading] at raised
      cases raised
      rcases read_fails codec _ disk error reading with rfl | recorded
      · exact absurd reading shallow
      · exact recorded
  | ok value =>
      rw [reading] at raised
      cases valid : validateTokenDocument codec value with
      | error failure =>
          obtain ⟨message, rfl⟩ := validate_corrupt codec value failure valid
          simp only [valid] at raised
          cases raised
          exact ⟨_, rfl, rfl⟩
      | ok token =>
          simp only [valid] at raised
          split at raised
          · cases raised
            exact ⟨_, rfl, rfl⟩
          · cases raised

theorem prepare_fails_persistence (token : PyValue) (disk after : Directory) (error : Exception)
    (shallow : codec.dump token ≠ .error .recursionError)
    (raised : prepare codec none token disk = (.error error, after)) :
    reported error = .token (.persistence notPersisted) := by
  cases dumped : codec.dump token with
  | ok content =>
      rw [prepare_done codec none token disk content rfl dumped rfl] at raised
      cases raised
  | error failure =>
      rw [prepare_unserializable codec none token disk failure rfl dumped] at raised
      cases raised
      cases failure with
      | typeError => rfl
      | valueError => rfl
      | recursionError => exact absurd dumped shallow

theorem replace_fails_persistence (disk after : Directory) (error : Exception)
    (raised : replace none disk = (.error error, after)) :
    reported error = .token (.persistence notPersisted) := by
  by_cases directory : disk.token = some .directory
  · obtain ⟨errno, failed⟩ := replace_fails none disk (.inr directory)
    rw [failed] at raised
    cases raised
    rfl
  · rw [replace_quiet none disk rfl directory] at raised
    cases raised

end Errors

section Steps

variable (codec : Codec) (settings : Settings) (now : ℚ) (documents : Documents) (kind : Kind)
  (earlier : List Health)

-- The json module does not run out of stack on what the next step gives it.
def Shallow : Phase → Prop
  | .entered _ => read codec settings.maxTokenBytes documents.directory ≠ .error .recursionError
  | .calling callback current =>
      ∀ value, callback current = .ok value → codec.dump value ≠ .error .recursionError
  | .writing token _ _ => codec.dump token ≠ .error .recursionError
  | _ => True

abbrev Step.body (step : Step) : Body := ⟨step.phase, earlier ++ step.transitions⟩

theorem entered_settles (shallow : Shallow codec settings documents (.entered kind)) :
    Settling kind ((stepEntered codec settings now kind documents).body earlier) := by
  unfold stepEntered
  cases loaded : loadFromTransaction codec settings now documents.directory with
  | error error =>
      obtain ⟨failure, rfl, recorded⟩ := load_fails_recorded codec settings now _ error shallow loaded
      have terminal := failure_terminal failure
      cases kind with
      | load => exact settled_owing _ _ _ _ rfl terminal
      | refresh callback => exact settled_owing _ _ _ _ recorded terminal
      | access operation => exact settled_inside _ _ _ _ rfl terminal
  | ok current =>
      cases kind with
      | load => exact settled_owing _ _ _ tokenLoaded rfl rfl
      | refresh callback => exact ⟨callback, rfl⟩
      | access operation => exact ⟨⟨operation, rfl⟩, ends_terminal_last _ _ rfl⟩

theorem returned_settles (callback : RefreshCallback) (value : PyValue)
    (shallow : codec.dump value ≠ .error .recursionError) :
    Settling (.refresh callback) ((stepReturned codec value documents).body earlier) := by
  unfold stepReturned
  cases valid : validateTokenDocument codec value with
  | error error => exact settled_inside _ _ _ invalidRefreshResult rfl rfl
  | ok refreshed =>
      obtain rfl := validate_returns_value codec value refreshed valid
      dsimp only
      cases done : prepare codec none refreshed documents.directory with
      | mk result after =>
          cases result with
          | error error =>
              dsimp only [Step.body]
              rw [prepare_fails_persistence codec refreshed _ after error shallow done]
              exact settled_owing _ _ _ _ rfl (failure_terminal (.persistence notPersisted))
          | ok => exact ⟨callback, rfl⟩

theorem calling_settles (own callback : RefreshCallback) (current : PyValue)
    (shallow : Shallow codec settings documents (.calling callback current)) :
    Settling (.refresh own) ((stepCalling codec callback current documents).body earlier) := by
  unfold stepCalling
  split
  · exact settled_inside _ _ _ upstreamRevoked rfl rfl
  · exact settled_inside _ _ _ manualReauthorization rfl rfl
  · exact settled_inside _ _ _ callbackError rfl rfl
  · rename_i value returned
    exact returned_settles codec documents earlier own value (shallow value returned)

theorem replacing_settles (callback : RefreshCallback) (refreshed : PyValue) (temporary : Option Entry) :
    Settling (.refresh callback) ((stepReplacing refreshed temporary documents).body earlier) := by
  unfold stepReplacing
  cases done : replace none ⟨documents.current, temporary⟩ with
  | mk result after =>
      cases result with
      | error error =>
          dsimp only [Step.body]
          rw [replace_fails_persistence _ after error done]
          exact settled_owing _ _ _ _ rfl (failure_terminal (.persistence notPersisted))
      | ok => exact settled_owing _ _ _ refreshSucceeded rfl rfl

theorem operating_settles (operation : Operation) (held : Operation) (callbacks : Callbacks)
    (terminal : EndsTerminal earlier) :
    Settling (.access operation) ((stepOperating held callbacks documents).body earlier) := by
  have kept : EndsTerminal (earlier ++ []) := by rwa [List.append_nil]
  have left : ∀ result, Settling (.access operation) ⟨.leaving result, earlier ++ []⟩ := by
    intro result
    dsimp only [Settling, recordOutcome, recordAccess]
    rwa [List.append_nil]
  unfold stepOperating
  cases held with
  | returns value => exact left _
  | raises error => exact left _
  | read next => exact ⟨⟨operation, rfl⟩, kept⟩
  | write token next =>
      dsimp only
      cases callbacks.current with
      | none => exact ⟨⟨operation, rfl⟩, kept⟩
      | some current => exact ⟨operation, rfl⟩

theorem writing_settles (operation : Operation) (token : PyValue) (next : Except Exception Unit → Operation)
    (callbacks : Callbacks) (shallow : codec.dump token ≠ .error .recursionError) :
    Settling (.access operation) ((stepWriting codec token next callbacks documents).body earlier) := by
  unfold stepWriting
  cases valid : validateTokenDocument codec token with
  | error error => exact ⟨⟨operation, rfl⟩, ends_terminal_last _ invalidRefreshResult rfl⟩
  | ok refreshed =>
      obtain rfl := validate_returns_value codec token refreshed valid
      dsimp only
      cases done : prepare codec none refreshed documents.directory with
      | mk result after =>
          cases result with
          | error error =>
              dsimp only [Step.body]
              rw [prepare_fails_persistence codec refreshed _ after error shallow done]
              exact ⟨⟨operation, rfl⟩, ends_terminal_last _ _ (failure_terminal (.persistence notPersisted))⟩
          | ok => exact ⟨operation, rfl⟩

theorem replacing_scoped_settles (operation : Operation) (refreshed : PyValue) (temporary : Option Entry)
    (next : Except Exception Unit → Operation) (callbacks : Callbacks) :
    Settling (.access operation)
      ((stepReplacingScoped refreshed temporary next callbacks documents).body earlier) := by
  unfold stepReplacingScoped
  cases done : replace none ⟨documents.current, temporary⟩ with
  | mk result after =>
      cases result with
      | error error =>
          dsimp only [Step.body]
          rw [replace_fails_persistence _ after error done]
          exact ⟨⟨operation, rfl⟩, ends_terminal_last _ _ (failure_terminal (.persistence notPersisted))⟩
      | ok => exact ⟨⟨operation, rfl⟩, ends_terminal_last _ refreshSucceeded rfl⟩

theorem step_settles (phase : Phase) (settling : Settling kind ⟨phase, earlier⟩)
    (shallow : Shallow codec settings documents phase) :
    Settling kind ((stepPhase codec settings now phase documents).body earlier) := by
  cases phase with
  | entered other =>
      obtain rfl := settling
      exact entered_settles codec settings now documents other earlier shallow
  | calling callback current =>
      obtain ⟨own, rfl⟩ := settling
      exact calling_settles codec settings documents earlier own callback current shallow
  | replacing refreshed temporary =>
      obtain ⟨callback, rfl⟩ := settling
      exact replacing_settles documents earlier callback refreshed temporary
  | operating held callbacks =>
      obtain ⟨⟨operation, rfl⟩, terminal⟩ := settling
      exact operating_settles documents earlier operation held callbacks terminal
  | writing token next callbacks =>
      obtain ⟨operation, rfl⟩ := settling
      exact writing_settles codec documents earlier operation token next callbacks shallow
  | replacingScoped refreshed temporary next callbacks =>
      obtain ⟨operation, rfl⟩ := settling
      exact replacing_scoped_settles documents earlier operation refreshed temporary next callbacks
  | leaving result =>
      dsimp only [stepPhase, Step.body]
      rw [List.append_nil]
      exact settling

end Steps

section Runs

variable (codec : Codec) (settings : Settings) (requests : Nat → Request)

def Stage.gaveUp : Stage → Bool
  | .recording false => true
  | .ended false => true
  | _ => false

-- Every call had the lock or is still to have it, and comes to a terminal
-- state of its own.
structure Concluding (state : State) : Prop where
  settling : ∀ call, Settling (requests call).kind (state.body call)
  granted : ∀ call, (state.stage call).gaveUp = false

-- No call times out for the lock, and none meets a JSON nesting too deep.
def Unhindered (state : State) : Event → Prop
  | .threadTimeout _ => False
  | .flockTimeout _ => False
  | .advance call => Shallow codec settings state.documents (state.body call).phase
  | _ => True

variable {codec settings requests}

theorem concluding_start (entry : Option Entry) : Concluding requests (State.start codec settings requests entry) where
  settling _ := rfl
  granted _ := rfl

theorem settling_perform (state : State) (event : Event) (concluding : Concluding requests state)
    (unhindered : Unhindered codec settings state event) (call : Nat) :
    Settling (requests call).kind ((state.perform codec settings requests event).body call) := by
  by_cases same : call = event.call
  · subst same
    cases event with
    | acquireFlock call =>
        simp only [State.perform, Event.call, Function.update_self]
        rfl
    | advance call =>
        simp only [State.perform, State.advance, State.announce, Event.call, Function.update_self]
        exact step_settles codec settings _ state.documents _ _ _ (concluding.settling call) unhindered
    | record call =>
        have kept : (state.perform codec settings requests (.record call)).body = state.body := by
          simp only [State.perform]
          split <;> rfl
        rw [kept]
        exact concluding.settling _
    | begin call => exact concluding.settling call
    | acquireThread call => exact concluding.settling call
    | threadTimeout call => exact concluding.settling call
    | flockTimeout call => exact concluding.settling call
    | unlockFlock call => exact concluding.settling call
    | releaseThread call => exact concluding.settling call
  · rw [body_other state event call same]
    exact concluding.settling call

theorem granted_perform (state : State) (event : Event) (concluding : Concluding requests state)
    (unhindered : Unhindered codec settings state event) (call : Nat) :
    ((state.perform codec settings requests event).stage call).gaveUp = false := by
  by_cases same : call = event.call
  · subst same
    cases event with
    | begin call => simp [State.perform, State.move, Event.call, Stage.gaveUp]
    | acquireThread call => simp [State.perform, State.move, State.setThread, Event.call, Stage.gaveUp]
    | threadTimeout call => exact unhindered.elim
    | acquireFlock call => simp [State.perform, State.move, Event.call, Stage.gaveUp]
    | flockTimeout call => exact unhindered.elim
    | advance call => exact concluding.granted call
    | unlockFlock call => simp [State.perform, State.move, Event.call, Stage.gaveUp]
    | releaseThread call => simp [State.perform, State.move, State.setThread, Event.call, Stage.gaveUp]
    | record call =>
        have granted := concluding.granted call
        simp only [State.perform]
        cases place : state.stage call with
        | recording enteredStore =>
            rw [place] at granted
            cases enteredStore with
            | true => simp [State.announce, State.move, Event.call, Stage.gaveUp]
            | false => cases granted
        | _ => simpa [Event.call] using granted
  · rw [stage_other state event call same]
    exact concluding.granted call

theorem concluding_perform (state : State) (event : Event) (concluding : Concluding requests state)
    (unhindered : Unhindered codec settings state event) :
    Concluding requests (state.perform codec settings requests event) where
  settling := settling_perform state event concluding unhindered
  granted := granted_perform state event concluding unhindered

theorem outcome_terminal (initial : Documents) (state : State) (call : Nat)
    (consistent : Consistent codec settings requests initial state) (concluding : Concluding requests state)
    (member : call ∈ state.holders) (outside : state.stage call ≠ .inside) :
    ∃ outcome, state.outcome requests call = some outcome ∧ outcome.terminal = true := by
  have unlocked : state.flock ≠ some call := mt (consistent.holder call).mpr outside
  obtain ⟨result, leaving⟩ := is_leaving _ (consistent.finished call member unlocked)
  have returned : state.resultOf call true = result := by
    unfold State.resultOf
    rw [leaving]
  have settling := concluding.settling call
  unfold Settling at settling
  rw [leaving] at settling
  rw [State.outcome, State.recordedLater, returned]
  exact settling

end Runs

end SchwabGateway.Token
