import SchwabGateway.Token.Manager
import SchwabGateway.Token.Write

set_option autoImplicit false

namespace SchwabGateway.Token

open SchwabGateway.Python SchwabGateway.Library

-- What has been at the token path, the newest first behind what is there now.
structure Documents where
  current : Option Entry
  replaced : List (Option Entry)
deriving DecidableEq

def Documents.start (entry : Option Entry) : Documents := ⟨entry, []⟩

def Documents.directory (documents : Documents) : Directory := ⟨documents.current, none⟩

def Documents.push (documents : Documents) (entry : Option Entry) : Documents :=
  ⟨entry, documents.current :: documents.replaced⟩

-- One call of an entry point: who makes it, on which manager, and the clock
-- reading it checks the lifetime against.
structure Request where
  process : Nat
  thread : Nat
  manager : Nat
  kind : Kind
  now : ℚ

-- Where a call is in the code it runs under the lock. Between two phases it
-- makes at most one access to the token path and one health transition.
inductive Phase where
  | entered (kind : Kind)
  | calling (callback : RefreshCallback) (current : PyValue)
  | replacing (refreshed : PyValue) (temporary : Option Entry)
  | operating (operation : Operation) (callbacks : Callbacks)
  | writing (token : PyValue) (next : Except Exception Unit → Operation) (callbacks : Callbacks)
  | replacingScoped (refreshed : PyValue) (temporary : Option Entry)
      (next : Except Exception Unit → Operation) (callbacks : Callbacks)
  | leaving (result : Except Exception PyValue)

structure Step where
  phase : Phase
  documents : Documents
  transitions : List Health

variable (codec : Codec) (settings : Settings)

def stepEntered (now : ℚ) (kind : Kind) (documents : Documents) : Step :=
  match kind, loadFromTransaction codec settings now documents.directory with
  | .access _, .error error => ⟨.leaving (.error error), documents, loadFailure error⟩
  | _, .error error => ⟨.leaving (.error error), documents, []⟩
  | .load, .ok current => ⟨.leaving (.ok current), documents, []⟩
  | .refresh callback, .ok current => ⟨.calling callback current, documents, [refreshStarted]⟩
  | .access operation, .ok current =>
      ⟨.operating operation ⟨some current⟩, documents, [tokenLoaded]⟩

def stepReturned (value : PyValue) (documents : Documents) : Step :=
  match validateTokenDocument codec value with
  | .error _ =>
      ⟨.leaving (.error (.token (.refresh callbackInvalid))), documents, [invalidRefreshResult]⟩
  | .ok refreshed =>
      match prepare codec none refreshed documents.directory with
      | (.error error, _) => ⟨.leaving (.error (reported error)), documents, []⟩
      | (.ok (), after) => ⟨.replacing refreshed after.temporary, documents, []⟩

def stepCalling (callback : RefreshCallback) (current : PyValue) (documents : Documents) : Step :=
  match callback current with
  | .error (.token .revoked) =>
      ⟨.leaving (.error (.token .revoked)), documents, [upstreamRevoked]⟩
  | .error (.token .reauthorization) =>
      ⟨.leaving (.error (.token .reauthorization)), documents, [manualReauthorization]⟩
  | .error _ => ⟨.leaving (.error (.token (.refresh callbackFailed))), documents, [callbackError]⟩
  | .ok value => stepReturned codec value documents

def stepReplacing (refreshed : PyValue) (temporary : Option Entry) (documents : Documents) : Step :=
  match replace none ⟨documents.current, temporary⟩ with
  | (.error error, _) => ⟨.leaving (.error (reported error)), documents, []⟩
  | (.ok (), after) => ⟨.leaving (.ok refreshed), documents.push after.token, []⟩

def stepOperating (operation : Operation) (callbacks : Callbacks) (documents : Documents) : Step :=
  match operation with
  | .returns value => ⟨.leaving (.ok value), documents, []⟩
  | .raises error => ⟨.leaving (.error error), documents, []⟩
  | .read next => ⟨.operating (next callbacks.read) callbacks, documents, []⟩
  | .write token next =>
      match callbacks.current with
      | none =>
          ⟨.operating (next (.error (.token (.callbackScope outsideScope)))) callbacks, documents, []⟩
      | some _ => ⟨.writing token next callbacks, documents, [refreshStarted]⟩

def stepWriting (token : PyValue) (next : Except Exception Unit → Operation)
    (callbacks : Callbacks) (documents : Documents) : Step :=
  match validateTokenDocument codec token with
  | .error _ =>
      ⟨.operating (next (.error (.token (.refresh writeInvalid)))) callbacks, documents,
        [invalidRefreshResult]⟩
  | .ok refreshed =>
      match prepare codec none refreshed documents.directory with
      | (.error error, _) =>
          ⟨.operating (next (.error (reported error))) callbacks, documents,
            loadFailure (reported error)⟩
      | (.ok (), after) =>
          ⟨.replacingScoped refreshed after.temporary next callbacks, documents, []⟩

def stepReplacingScoped (refreshed : PyValue) (temporary : Option Entry)
    (next : Except Exception Unit → Operation) (callbacks : Callbacks) (documents : Documents) :
    Step :=
  match replace none ⟨documents.current, temporary⟩ with
  | (.error error, _) =>
      ⟨.operating (next (.error (reported error))) callbacks, documents,
        loadFailure (reported error)⟩
  | (.ok (), after) =>
      ⟨.operating (next (.ok ())) ⟨some refreshed⟩, documents.push after.token, [refreshSucceeded]⟩

def stepPhase (now : ℚ) (phase : Phase) (documents : Documents) : Step :=
  match phase with
  | .entered kind => stepEntered codec settings now kind documents
  | .calling callback current => stepCalling codec callback current documents
  | .replacing refreshed temporary => stepReplacing refreshed temporary documents
  | .operating operation callbacks => stepOperating operation callbacks documents
  | .writing token next callbacks => stepWriting codec token next callbacks documents
  | .replacingScoped refreshed temporary next callbacks =>
      stepReplacingScoped refreshed temporary next callbacks documents
  | .leaving result => ⟨.leaving result, documents, []⟩

-- The code that a call has still to run in each phase, in one piece.
def finishReplacing (refreshed : PyValue) (temporary : Option Entry) (disk : Directory) :
    Outcome PyValue :=
  match replace none ⟨disk.token, temporary⟩ with
  | (.error error, _) => { result := .error (reported error), disk := disk, transitions := [] }
  | (.ok (), after) => { result := .ok refreshed, disk := ⟨after.token, none⟩, transitions := [] }

def finishScoped (refreshed : PyValue) (temporary : Option Entry) (callbacks : Callbacks)
    (disk : Directory) : Scoped :=
  match replace none ⟨disk.token, temporary⟩ with
  | (.error error, _) =>
      { outcome := { result := .error (reported error), disk := disk,
                     transitions := loadFailure (reported error) },
        callbacks := callbacks }
  | (.ok (), after) =>
      { outcome := { result := .ok (), disk := ⟨after.token, none⟩,
                     transitions := [refreshSucceeded] },
        callbacks := ⟨some refreshed⟩ }

def resume (next : Except Exception Unit → Operation) (written : Scoped) : Outcome PyValue :=
  (runOperation codec none (next written.outcome.result) written.callbacks
    written.outcome.disk).after written.outcome.transitions

def finishPhase (now : ℚ) (phase : Phase) (disk : Directory) : Outcome PyValue :=
  match phase with
  | .entered kind => lockedSection codec settings none now kind disk
  | .calling callback current => refreshWith codec none callback current disk
  | .replacing refreshed temporary => finishReplacing refreshed temporary disk
  | .operating operation callbacks => runOperation codec none operation callbacks disk
  | .writing token next callbacks =>
      resume codec next (persistScoped codec none token callbacks disk)
  | .replacingScoped refreshed temporary next callbacks =>
      resume codec next (finishScoped refreshed temporary callbacks disk)
  | .leaving result => { result := result, disk := disk, transitions := [] }

theorem write_parts (token : PyValue) (entry : Option Entry) :
    write codec none token ⟨entry, none⟩ =
      match prepare codec none token ⟨entry, none⟩ with
      | (.error error, _) => (.error (reported error), ⟨entry, none⟩)
      | (.ok (), filled) =>
          match replace none ⟨entry, filled.temporary⟩ with
          | (.error error, _) => (.error (reported error), ⟨entry, none⟩)
          | (.ok (), after) => (.ok (), ⟨after.token, none⟩) := by
  cases dumped : codec.dump token with
  | error error =>
      have prepared := prepare_unserializable codec none token ⟨entry, none⟩ error rfl dumped
      have raised : persist codec none token ⟨entry, none⟩ = _ :=
        Attempt.bind_raises _ _ _ _ _ prepared
      simp only [write, prepared, raised]
      rfl
  | ok content =>
      have prepared := prepare_done codec none token ⟨entry, none⟩ content rfl dumped rfl
      rw [prepared]
      by_cases file : entry = some .directory
      · have failed := write_uncommitted codec none token entry (fun _ => by simp [dumped])
          (fun _ commits => commits.file file)
        subst file
        rw [failed]
        rfl
      · have commits : Commits codec none token entry content := ⟨rfl, dumped, rfl, rfl, file⟩
        have renamed := replace_quiet none (Directory.withTemporary content ⟨entry, none⟩) rfl file
        rw [write_returns codec none token entry content commits rfl]
        simp only [Directory.withTemporary] at renamed ⊢
        rw [renamed]

-- What is left to run and what has been done make up the same section before
-- and after every step.
def StepSound (now : ℚ) (phase : Phase) (documents : Documents) (step : Step) : Prop :=
  finishPhase codec settings now phase documents.directory =
    (finishPhase codec settings now step.phase step.documents.directory).after step.transitions

theorem entered_sound (now : ℚ) (kind : Kind) (documents : Documents) :
    StepSound codec settings now (.entered kind) documents
      (stepEntered codec settings now kind documents) := by
  unfold StepSound stepEntered
  cases loaded : loadFromTransaction codec settings now documents.directory with
  | error error =>
      cases kind <;> simp [finishPhase, lockedSection, loadSection, refreshSection, accessSection,
        loaded, Outcome.after]
  | ok current =>
      cases kind <;> simp [finishPhase, lockedSection, loadSection, refreshSection, accessSection,
        loaded]

theorem returned_sound (now : ℚ) (value : PyValue) (documents : Documents) :
    persistRefreshed codec none value documents.directory =
      (finishPhase codec settings now (stepReturned codec value documents).phase
        (stepReturned codec value documents).documents.directory).after
          (stepReturned codec value documents).transitions := by
  unfold persistRefreshed stepReturned
  cases valid : validateTokenDocument codec value with
  | error error => rfl
  | ok refreshed =>
      simp only [Documents.directory, write_parts]
      cases prepare codec none refreshed ⟨documents.current, none⟩ with
      | mk result filled =>
          cases result with
          | error error => rfl
          | ok done =>
              simp only [finishPhase, finishReplacing]
              cases replace none ⟨documents.current, filled.temporary⟩ with
              | mk result after => cases result <;> rfl

theorem calling_sound (now : ℚ) (callback : RefreshCallback) (current : PyValue)
    (documents : Documents) :
    StepSound codec settings now (.calling callback current) documents
      (stepCalling codec callback current documents) := by
  unfold StepSound stepCalling
  simp only [finishPhase, refreshWith]
  cases callback current with
  | ok value => exact returned_sound codec settings now value documents
  | error error =>
      cases error with
      | token error => cases error <;> rfl
      | osError errno => rfl
      | typeError => rfl
      | valueError => rfl
      | overflowError => rfl
      | recursionError => rfl
      | foreign => rfl

theorem replacing_sound (now : ℚ) (refreshed : PyValue) (temporary : Option Entry)
    (documents : Documents) :
    StepSound codec settings now (.replacing refreshed temporary) documents
      (stepReplacing refreshed temporary documents) := by
  unfold StepSound stepReplacing
  simp only [finishPhase, finishReplacing, Documents.directory]
  cases replace none ⟨documents.current, temporary⟩ with
  | mk result after => cases result <;> rfl

theorem operating_sound (now : ℚ) (operation : Operation) (callbacks : Callbacks)
    (documents : Documents) :
    StepSound codec settings now (.operating operation callbacks) documents
      (stepOperating operation callbacks documents) := by
  unfold StepSound stepOperating
  cases operation with
  | returns value => rfl
  | raises error => rfl
  | read next => rfl
  | write token next =>
      cases callbacks with
      | mk current =>
          cases current with
          | none => rfl
          | some current => exact (after_after _ _ _).symm

theorem writing_sound (now : ℚ) (token : PyValue) (next : Except Exception Unit → Operation)
    (callbacks : Callbacks) (documents : Documents) :
    StepSound codec settings now (.writing token next callbacks) documents
      (stepWriting codec token next callbacks documents) := by
  unfold StepSound stepWriting
  simp only [finishPhase, persistScoped]
  cases valid : validateTokenDocument codec token with
  | error error => rfl
  | ok refreshed =>
      simp only [Documents.directory, write_parts]
      cases prepare codec none refreshed ⟨documents.current, none⟩ with
      | mk result filled =>
          cases result with
          | error error => cases error <;> rfl
          | ok done =>
              simp only [finishScoped]
              cases replace none ⟨documents.current, filled.temporary⟩ with
              | mk result after =>
                  cases result with
                  | error error => cases error <;> rfl
                  | ok done => rfl

theorem replacing_scoped_sound (now : ℚ) (refreshed : PyValue) (temporary : Option Entry)
    (next : Except Exception Unit → Operation) (callbacks : Callbacks) (documents : Documents) :
    StepSound codec settings now (.replacingScoped refreshed temporary next callbacks) documents
      (stepReplacingScoped refreshed temporary next callbacks documents) := by
  unfold StepSound stepReplacingScoped
  simp only [finishPhase, finishScoped, Documents.directory]
  cases replace none ⟨documents.current, temporary⟩ with
  | mk result after => cases result <;> rfl

theorem step_sound (now : ℚ) (phase : Phase) (documents : Documents) :
    StepSound codec settings now phase documents (stepPhase codec settings now phase documents) := by
  cases phase with
  | entered kind => exact entered_sound codec settings now kind documents
  | calling callback current => exact calling_sound codec settings now callback current documents
  | replacing refreshed temporary =>
      exact replacing_sound codec settings now refreshed temporary documents
  | operating operation callbacks =>
      exact operating_sound codec settings now operation callbacks documents
  | writing token next callbacks =>
      exact writing_sound codec settings now token next callbacks documents
  | replacingScoped refreshed temporary next callbacks =>
      exact replacing_scoped_sound codec settings now refreshed temporary next callbacks documents
  | leaving result => rfl

end SchwabGateway.Token
