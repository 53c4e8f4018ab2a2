import SchwabGateway.Library.Except
import SchwabGateway.Token.Recording

set_option autoImplicit false

namespace SchwabGateway.Token

open SchwabGateway.Python SchwabGateway.Library

section Documents

variable (codec : Codec) (settings : Settings)

def storedDocument (disk : Directory) : Except Exception PyValue :=
  match read codec settings.maxTokenBytes disk with
  | .error error => .error error
  | .ok value =>
      match validateTokenDocument codec value with
      | .error error => .error (.token error)
      | .ok token => .ok token

theorem load_ok_iff (now : ℚ) (disk : Directory) (token : PyValue) :
    loadFromTransaction codec settings now disk = .ok token ↔
      storedDocument codec settings disk = .ok token ∧ now < expiresAt settings.refreshTokenTtl token := by
  unfold loadFromTransaction storedDocument
  cases read codec settings.maxTokenBytes disk with
  | error error => simp
  | ok value =>
      dsimp only
      cases validateTokenDocument codec value with
      | error error => simp
      | ok document =>
          dsimp only
          by_cases expired : expiresAt settings.refreshTokenTtl document ≤ now
          · rw [if_pos expired]
            simp only [reduceCtorEq, Except.ok.injEq, false_iff, not_and, not_lt]
            rintro rfl
            exact expired
          · rw [if_neg expired]
            simp only [Except.ok.injEq, iff_self_and]
            rintro rfl
            exact not_le.mp expired

theorem load_expired (now : ℚ) (disk : Directory) (token : PyValue)
    (stored : storedDocument codec settings disk = .ok token)
    (expired : expiresAt settings.refreshTokenTtl token ≤ now) :
    loadFromTransaction codec settings now disk = .error (.token (.expired lifetimeExpired)) := by
  revert stored
  unfold storedDocument loadFromTransaction
  cases read codec settings.maxTokenBytes disk with
  | error error => nofun
  | ok value =>
      dsimp only
      cases validateTokenDocument codec value with
      | error error => nofun
      | ok document =>
          rintro ⟨⟩
          exact if_pos expired

def Usable (clock : ℚ) (disk : Directory) : Prop :=
  ∃ token, loadFromTransaction codec settings clock disk = .ok token

def Stores (disk : Directory) (document : PyValue) : Prop :=
  ∃ token, storedDocument codec settings disk = .ok token ∧
    expiresAt settings.refreshTokenTtl token = expiresAt settings.refreshTokenTtl document

theorem stores_usable (clock : ℚ) (disk : Directory) (document : PyValue)
    (stores : Stores codec settings disk document)
    (alive : clock < expiresAt settings.refreshTokenTtl document) : Usable codec settings clock disk := by
  obtain ⟨token, stored, same⟩ := stores
  exact ⟨token, (load_ok_iff codec settings clock disk token).mpr ⟨stored, same ▸ alive⟩⟩

theorem loaded_stores (now : ℚ) (disk : Directory) (document : PyValue)
    (loaded : loadFromTransaction codec settings now disk = .ok document) :
    Stores codec settings disk document :=
  ⟨document, ((load_ok_iff codec settings now disk document).mp loaded).1, rfl⟩

-- json reads back what it wrote: keys may have become strings, but a token
-- document is one again and has its timestamp.
structure Codec.Faithful (codec : Codec) : Prop where
  reload : ∀ token content, validateTokenDocument codec token = .ok token →
    codec.dump token = .ok content →
      ∃ back, codec.load content = .ok back ∧ validateTokenDocument codec back = .ok back ∧
        ∀ ttl, expiresAt ttl back = expiresAt ttl token

def Fits (refreshed : PyValue) : Prop :=
  ∀ content, codec.dump refreshed = .ok content → content.length ≤ settings.maxTokenBytes

def Prepared (refreshed : PyValue) (temporary : Option Entry) : Prop :=
  validateTokenDocument codec refreshed = .ok refreshed ∧
    ∃ content, codec.dump refreshed = .ok content ∧ temporary = some (.regular ownerOnly content)

variable {codec settings}

theorem prepare_prepared (value refreshed : PyValue) (documents : Documents) (after : Directory)
    (valid : validateTokenDocument codec value = .ok refreshed)
    (done : prepare codec none refreshed documents.directory = (.ok (), after)) :
    Prepared codec refreshed after.temporary := by
  have same := validate_returns_value codec value refreshed valid
  subst same
  refine ⟨valid, ?_⟩
  cases dumped : codec.dump refreshed with
  | error error =>
      rw [prepare_unserializable codec none refreshed documents.directory error rfl dumped] at done
      cases done
  | ok content =>
      rw [prepare_done codec none refreshed documents.directory content rfl dumped rfl] at done
      cases done
      exact ⟨content, rfl, rfl⟩

theorem replaced_token (current temporary : Option Entry) (after : Directory)
    (done : replace none ⟨current, temporary⟩ = (.ok (), after)) : after.token = temporary := by
  by_cases file : current = some .directory
  · subst file
    cases done
  · rw [replace_quiet none ⟨current, temporary⟩ rfl file] at done
    cases done
    rfl

theorem prepared_stores (faithful : codec.Faithful) (refreshed : PyValue) (temporary : Option Entry)
    (prepared : Prepared codec refreshed temporary) (fits : Fits codec settings refreshed) :
    Stores codec settings ⟨temporary, none⟩ refreshed := by
  obtain ⟨valid, content, dumped, rfl⟩ := prepared
  obtain ⟨back, loaded, again, same⟩ := faithful.reload refreshed content valid dumped
  refine ⟨back, ?_, same settings.refreshTokenTtl⟩
  unfold storedDocument read
  dsimp only
  rw [if_neg (by simp), if_neg (not_lt.mpr (fits content dumped)), loaded]
  dsimp only
  rw [again]

end Documents

def Quiet (transitions : List Health) : Prop := ∀ health ∈ transitions, health.state ≠ .ready

theorem failure_quiet (error : Exception) : Quiet (loadFailure error) := by
  intro health member
  cases error with
  | token error =>
      rw [List.mem_singleton.mp member]
      cases error <;> nofun
  | osError errno => cases member
  | typeError => cases member
  | valueError => cases member
  | overflowError => cases member
  | recursionError => cases member
  | foreign => cases member

section Steps

variable (codec : Codec) (settings : Settings) (now : ℚ) (documents : Documents)

inductive Makes : Phase → Step → Prop where
  | refused (phase : Phase) (error : Exception) (transitions : List Health) (quiet : Quiet transitions) :
      Makes phase ⟨.leaving (.error error), documents, transitions⟩
  | loaded (current : PyValue) (found : loadFromTransaction codec settings now documents.directory = .ok current) :
      Makes (.entered .load) ⟨.leaving (.ok current), documents, []⟩
  | started (callback : RefreshCallback) (current : PyValue) :
      Makes (.entered (.refresh callback)) ⟨.calling callback current, documents, [refreshStarted]⟩
  | opened (operation : Operation) (current : PyValue)
      (found : loadFromTransaction codec settings now documents.directory = .ok current) :
      Makes (.entered (.access operation)) ⟨.operating operation ⟨some current⟩, documents, [tokenLoaded]⟩
  | prepared (callback : RefreshCallback) (current refreshed : PyValue) (temporary : Option Entry)
      (written : Prepared codec refreshed temporary) :
      Makes (.calling callback current) ⟨.replacing refreshed temporary, documents, []⟩
  | replaced (refreshed : PyValue) (temporary : Option Entry) :
      Makes (.replacing refreshed temporary) ⟨.leaving (.ok refreshed), documents.push temporary, []⟩
  | returned (operation : Operation) (callbacks : Callbacks) (result : Except Exception PyValue) :
      Makes (.operating operation callbacks) ⟨.leaving result, documents, []⟩
  | continued (before operation : Operation) (held callbacks : Callbacks) :
      Makes (.operating before held) ⟨.operating operation callbacks, documents, []⟩
  | requested (operation : Operation) (held : Callbacks) (token : PyValue)
      (next : Except Exception Unit → Operation) :
      Makes (.operating operation held) ⟨.writing token next held, documents, [refreshStarted]⟩
  | rejected (token : PyValue) (next : Except Exception Unit → Operation) (held : Callbacks)
      (operation : Operation) (transitions : List Health) (quiet : Quiet transitions) :
      Makes (.writing token next held) ⟨.operating operation held, documents, transitions⟩
  | preparedScoped (token refreshed : PyValue) (temporary : Option Entry)
      (next : Except Exception Unit → Operation) (held : Callbacks)
      (written : Prepared codec refreshed temporary) :
      Makes (.writing token next held) ⟨.replacingScoped refreshed temporary next held, documents, []⟩
  | failedScoped (refreshed : PyValue) (temporary : Option Entry) (next : Except Exception Unit → Operation)
      (held : Callbacks) (operation : Operation) (transitions : List Health) (quiet : Quiet transitions) :
      Makes (.replacingScoped refreshed temporary next held) ⟨.operating operation held, documents, transitions⟩
  | replacedScoped (refreshed : PyValue) (temporary : Option Entry) (next : Except Exception Unit → Operation)
      (held : Callbacks) (operation : Operation) :
      Makes (.replacingScoped refreshed temporary next held)
        ⟨.operating operation ⟨some refreshed⟩, documents.push temporary, [refreshSucceeded]⟩
  | left (result : Except Exception PyValue) : Makes (.leaving result) ⟨.leaving result, documents, []⟩

theorem entered_makes (kind : Kind) :
    Makes codec settings now documents (.entered kind) (stepEntered codec settings now kind documents) := by
  unfold stepEntered
  cases found : loadFromTransaction codec settings now documents.directory with
  | error error =>
      cases kind with
      | load => exact .refused _ error [] nofun
      | refresh callback => exact .refused _ error [] nofun
      | access operation => exact .refused _ error _ (failure_quiet error)
  | ok current =>
      cases kind with
      | load => exact .loaded current found
      | refresh callback => exact .started callback current
      | access operation => exact .opened operation current found

theorem quiet_one (health : Health) (other : health.state ≠ .ready) : Quiet [health] := by
  intro same member
  rwa [List.mem_singleton.mp member]

theorem returned_makes (callback : RefreshCallback) (current value : PyValue) :
    Makes codec settings now documents (.calling callback current) (stepReturned codec value documents) := by
  unfold stepReturned
  cases valid : validateTokenDocument codec value with
  | error error => exact .refused _ _ _ (quiet_one _ nofun)
  | ok refreshed =>
      dsimp only
      cases done : prepare codec none refreshed documents.directory with
      | mk result after =>
          cases result with
          | error error => exact .refused _ _ _ nofun
          | ok => exact .prepared callback current refreshed _ (prepare_prepared value refreshed documents after valid done)

theorem calling_makes (callback : RefreshCallback) (current : PyValue) :
    Makes codec settings now documents (.calling callback current)
      (stepCalling codec callback current documents) := by
  unfold stepCalling
  split
  · exact .refused _ _ _ (quiet_one _ nofun)
  · exact .refused _ _ _ (quiet_one _ nofun)
  · exact .refused _ _ _ (quiet_one _ nofun)
  · exact returned_makes codec settings now documents callback current _

theorem replacing_makes (refreshed : PyValue) (temporary : Option Entry) :
    Makes codec settings now documents (.replacing refreshed temporary)
      (stepReplacing refreshed temporary documents) := by
  unfold stepReplacing
  cases done : replace none ⟨documents.current, temporary⟩ with
  | mk result after =>
      cases result with
      | error error => exact .refused _ _ _ nofun
      | ok =>
          dsimp only
          rw [replaced_token documents.current temporary after done]
          exact .replaced refreshed temporary

theorem operating_makes (operation : Operation) (callbacks : Callbacks) :
    Makes codec settings now documents (.operating operation callbacks)
      (stepOperating operation callbacks documents) := by
  unfold stepOperating
  cases operation with
  | returns value => exact .returned _ _ _
  | raises error => exact .returned _ _ _
  | read next => exact .continued _ _ _ _
  | write token next =>
      cases callbacks with
      | mk current =>
          cases current with
          | none => exact .continued _ _ _ _
          | some current => exact .requested _ _ _ _

theorem writing_makes (token : PyValue) (next : Except Exception Unit → Operation) (callbacks : Callbacks) :
    Makes codec settings now documents (.writing token next callbacks)
      (stepWriting codec token next callbacks documents) := by
  unfold stepWriting
  cases valid : validateTokenDocument codec token with
  | error error => exact .rejected _ _ _ _ _ (quiet_one _ nofun)
  | ok refreshed =>
      dsimp only
      cases done : prepare codec none refreshed documents.directory with
      | mk result after =>
          cases result with
          | error error => exact .rejected _ _ _ _ _ (failure_quiet _)
          | ok => exact .preparedScoped _ refreshed _ _ _ (prepare_prepared token refreshed documents after valid done)

theorem replacing_scoped_makes (refreshed : PyValue) (temporary : Option Entry)
    (next : Except Exception Unit → Operation) (callbacks : Callbacks) :
    Makes codec settings now documents (.replacingScoped refreshed temporary next callbacks)
      (stepReplacingScoped refreshed temporary next callbacks documents) := by
  unfold stepReplacingScoped
  cases done : replace none ⟨documents.current, temporary⟩ with
  | mk result after =>
      cases result with
      | error error => exact .failedScoped _ _ _ _ _ _ (failure_quiet _)
      | ok =>
          dsimp only
          rw [replaced_token documents.current temporary after done]
          exact .replacedScoped _ _ _ _ _

theorem step_makes (phase : Phase) :
    Makes codec settings now documents phase (stepPhase codec settings now phase documents) := by
  cases phase with
  | entered kind => exact entered_makes codec settings now documents kind
  | calling callback current => exact calling_makes codec settings now documents callback current
  | replacing refreshed temporary => exact replacing_makes codec settings now documents refreshed temporary
  | operating operation callbacks => exact operating_makes codec settings now documents operation callbacks
  | writing token next callbacks => exact writing_makes codec settings now documents token next callbacks
  | replacingScoped refreshed temporary next callbacks =>
      exact replacing_scoped_makes codec settings now documents refreshed temporary next callbacks
  | leaving result => exact .left result

end Steps

section Clocked

variable (codec : Codec) (settings : Settings) (requests : Nat → Request)

structure Reading where
  event : Event
  clock : ℚ

structure Noted where
  call : Nat
  health : Health
  clock : ℚ
  disk : Directory
deriving DecidableEq

structure Clocked where
  base : State
  log : List Noted

def Clocked.perform (clocked : Clocked) (reading : Reading) : Clocked :=
  let after := clocked.base.perform codec settings requests reading.event
  { base := after
    log := ((clocked.base.recordedBy codec settings requests reading.event).reverse.map fun health =>
      ⟨reading.event.call, health, reading.clock, after.documents.directory⟩) ++ clocked.log }

def clockedSystem : System Clocked Reading where
  enabled clocked reading := clocked.base.enabled requests reading.event
  perform := Clocked.perform codec settings requests

instance (clocked : Clocked) (reading : Reading) :
    Decidable ((clockedSystem codec settings requests).enabled clocked reading) :=
  inferInstanceAs (Decidable (clocked.base.enabled requests reading.event))

def Clocked.start (entry : Option Entry) : Clocked := ⟨State.start codec settings requests entry, []⟩

-- When READY was recorded, the document on disk was one that a load at either
-- clock reading of the operation would have returned.
def ReadyUsable (clocked : Clocked) : Prop :=
  ∀ noted ∈ clocked.log, noted.health.state = .ready →
    Usable codec settings (requests noted.call).now noted.disk ∧ Usable codec settings noted.clock noted.disk

def Lasts (call : Nat) (clock : ℚ) (document : PyValue) : Prop :=
  (requests call).now < expiresAt settings.refreshTokenTtl document ∧
    clock < expiresAt settings.refreshTokenTtl document

def State.owesReady (state : State) (call : Nat) : Prop :=
  (state.stage call = .unlocked ∨ state.stage call = .recording true) ∧
    ∃ health ∈ state.recordedLater requests call, health.state = .ready

-- What is loaded, returned or written lives beyond both clock readings; what
-- is written fits the size limit, and nobody has still to record READY for
-- the document that it replaces.
def Timely (clocked : Clocked) (reading : Reading) : Prop :=
  match reading.event with
  | .advance call =>
      match (clocked.base.body call).phase with
      | .entered (.access _) =>
          ∀ current, loadFromTransaction codec settings (requests call).now clocked.base.documents.directory =
            .ok current → Lasts settings requests call reading.clock current
      | .replacing refreshed _ =>
          Fits codec settings refreshed ∧ ∀ other, ¬ clocked.base.owesReady requests other
      | .replacingScoped refreshed _ _ _ =>
          Fits codec settings refreshed ∧ Lasts settings requests call reading.clock refreshed ∧
            ∀ other, ¬ clocked.base.owesReady requests other
      | _ => True
  | .record call =>
      clocked.base.owesReady requests call → ∀ document,
        (clocked.base.body call).phase = .leaving (.ok document) →
          Lasts settings requests call reading.clock document
  | _ => True

instance (call : Nat) (clock : ℚ) : DecidablePred (Lasts settings requests call clock) :=
  fun _ => inferInstanceAs (Decidable (_ ∧ _))

instance : DecidablePred (Fits codec settings) :=
  fun refreshed => inferInstanceAs (Decidable (∀ content, codec.dump refreshed = .ok content → _))

instance (state : State) (call : Nat) : Decidable (state.owesReady requests call) :=
  inferInstanceAs (Decidable (_ ∧ ∃ health ∈ state.recordedLater requests call, health.state = .ready))

instance (call : Nat) (clock : ℚ) :
    ∀ phase : Phase, Decidable (∀ document, phase = .leaving (.ok document) → Lasts settings requests call clock document)
  | .leaving result =>
      decidable_of_iff (∀ document, result = .ok document → Lasts settings requests call clock document)
        (by simp only [Phase.leaving.injEq])
  | .entered _ => .isTrue nofun
  | .calling _ _ => .isTrue nofun
  | .replacing _ _ => .isTrue nofun
  | .operating _ _ => .isTrue nofun
  | .writing _ _ _ => .isTrue nofun
  | .replacingScoped _ _ _ _ => .isTrue nofun

variable [∀ state : State, Decidable (∀ other, ¬ state.owesReady requests other)]

def decidableAdvance (clocked : Clocked) (call : Nat) (clock : ℚ) :
    Decidable (Timely codec settings requests clocked ⟨.advance call, clock⟩) :=
  match here : (clocked.base.body call).phase with
  | .entered (.access _) =>
      decidable_of_iff (∀ current, loadFromTransaction codec settings (requests call).now
        clocked.base.documents.directory = .ok current → Lasts settings requests call clock current)
        (by simp only [Timely, here])
  | .replacing refreshed _ =>
      decidable_of_iff (Fits codec settings refreshed ∧ ∀ other, ¬ clocked.base.owesReady requests other)
        (by simp only [Timely, here])
  | .replacingScoped refreshed _ _ _ =>
      decidable_of_iff (Fits codec settings refreshed ∧ Lasts settings requests call clock refreshed ∧
        ∀ other, ¬ clocked.base.owesReady requests other) (by simp only [Timely, here])
  | .entered .load => .isTrue (by simp only [Timely, here])
  | .entered (.refresh _) => .isTrue (by simp only [Timely, here])
  | .calling _ _ => .isTrue (by simp only [Timely, here])
  | .operating _ _ => .isTrue (by simp only [Timely, here])
  | .writing _ _ _ => .isTrue (by simp only [Timely, here])
  | .leaving _ => .isTrue (by simp only [Timely, here])

instance (clocked : Clocked) : ∀ reading, Decidable (Timely codec settings requests clocked reading)
  | ⟨.advance call, clock⟩ => decidableAdvance codec settings requests clocked call clock
  | ⟨.record call, clock⟩ =>
      inferInstanceAs (Decidable (clocked.base.owesReady requests call → ∀ document,
        (clocked.base.body call).phase = .leaving (.ok document) → Lasts settings requests call clock document))
  | ⟨.begin _, _⟩ => .isTrue trivial
  | ⟨.acquireThread _, _⟩ => .isTrue trivial
  | ⟨.threadTimeout _, _⟩ => .isTrue trivial
  | ⟨.acquireFlock _, _⟩ => .isTrue trivial
  | ⟨.flockTimeout _, _⟩ => .isTrue trivial
  | ⟨.unlockFlock _, _⟩ => .isTrue trivial
  | ⟨.releaseThread _, _⟩ => .isTrue trivial

end Clocked

end SchwabGateway.Token
