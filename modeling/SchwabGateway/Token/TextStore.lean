import SchwabGateway.Json.Canonical
import SchwabGateway.Token.FailingWrite

set_option autoImplicit false

namespace SchwabGateway.Token

open SchwabGateway.Python SchwabGateway.Library SchwabGateway.Json

-- How many containers deep json.dumps, json.dump and json.load can go before
-- the recursion limit.
structure Limits where
  checker : Nat
  encoder : Nat
  scanner : Nat

def field (entries : Entries) (name : String) : Option Value := lookup (.str (asciiText name)) entries

def checkTimestamp (value : Option Value) : Except TokenError Unit :=
  match value with
  | some (.scalar (.int number)) =>
      match floatOfInt number with
      | .ok _ => if number ≤ 0 then .error (.corrupt timestampInvalid) else .ok ()
      | .error _ => .error (.corrupt documentNotSerializable)
  | some (.scalar (.float (.finite number))) =>
      if number ≤ 0 then .error (.corrupt timestampInvalid) else .ok ()
  | _ => .error (.corrupt timestampInvalid)

def filledText (value : Option Value) : Bool :=
  match value with
  | some (.scalar (.str text)) => text ≠ []
  | _ => false

def checkPayload (value : Option Value) : Except TokenError Unit :=
  match value with
  | some (.dict payload) =>
      if filledText (field payload "access_token") && filledText (field payload "refresh_token") then .ok ()
      else .error (.corrupt payloadIncomplete)
  | _ => .error (.corrupt payloadNotObject)

section Code

variable (floats : Floats) (limits : Limits)

-- validate_token_document on any value.
def validateDocument (value : Value) : Except TokenError Value :=
  match value with
  | .dict entries => do
      checkTimestamp (field entries "creation_timestamp")
      checkPayload (field entries "token")
      if value.dumps floats limits.checker then .ok value else .error (.corrupt documentNotSerializable)
  | _ => .error (.corrupt documentNotObject)

def encodeFailure : EncodeError → Exception
  | .typeError => .typeError
  | .valueError => .valueError
  | .recursionError => .recursionError

def documentText (document : Value) : Except Exception Bytes :=
  ((document.encode floats limits.encoder).mapError encodeFailure).map (fun text => encodeAscii (text ++ [lineFeed]))

-- read, for whatever json.load makes of the content.
def readText {α : Type} (load : Bytes → Except ScanError α) (maxTokenBytes : Nat) (disk : Directory) :
    Except Exception α :=
  match disk.token with
  | none => .error (.token (.missing documentMissing))
  | some .symlink => .error (.token (.corrupt documentUnsafe))
  | some .directory => .error (.token (.corrupt documentNotRegular))
  | some .special => .error (.token (.corrupt documentNotRegular))
  | some (.regular mode content) =>
      if mode ≠ ownerOnly then .error (.token (.corrupt documentPermissions))
      else if content.length > maxTokenBytes then .error (.token (.corrupt documentTooLarge))
      else
        match load content with
        | .ok value => .ok value
        | .error .invalid => .error (.token (.corrupt documentNotJson))
        | .error .recursionError => .error .recursionError

def writeDocument (fails : Failures) (document : Value) (disk : Directory) : Except Exception Unit × Directory :=
  writeText fails (documentText floats limits document) disk

def readDocument (maxTokenBytes : Nat) (disk : Directory) : Except Exception Value :=
  readText (Json.load floats limits.scanner) maxTokenBytes disk

end Code

def scanFailure : LoadError → ScanError
  | .invalid => .invalid
  | .recursionError => .recursionError

theorem read_is_text (codec : Codec) (maxTokenBytes : Nat) (disk : Directory) :
    read codec maxTokenBytes disk = readText (fun content => (codec.load content).mapError scanFailure) maxTokenBytes disk := by
  rw [read, readText]
  cases disk.token with
  | none => rfl
  | some entry =>
      cases entry with
      | symlink | directory | special => rfl
      | regular mode content =>
          dsimp only
          by_cases owner : mode ≠ ownerOnly
          · rw [if_pos owner, if_pos owner]
          · rw [if_neg owner, if_neg owner]
            by_cases large : content.length > maxTokenBytes
            · rw [if_pos large, if_pos large]
            · rw [if_neg large, if_neg large]
              cases codec.load content with
              | ok value => rfl
              | error failure =>
                  cases failure with
                  | invalid | recursionError => rfl

section Writes

variable (fails : Failures)

theorem persist_call_returned (call : Call) (effect : Directory → Directory) (before after : Writing)
    (returned : persistCall fails call effect before = (.ok (), after)) :
    after = { before with disk := effect before.disk } := by
  obtain ⟨_, state, called, updated⟩ := Attempt.bind_returned _ _ _ _ _ returned
  cases answered : fails (.persist call) with
  | some errno =>
      rw [store_call_failed fails _ before errno answered] at called
      cases called
  | none =>
      rw [store_call_answered fails _ before answered] at called
      cases called
      cases updated
      rfl

theorem filled_temporary (dumped : Except Exception Bytes) (before after : Writing)
    (returned : fillTemporary fails dumped before = (.ok (), after)) :
    ∃ content, dumped = .ok content ∧ after.disk.temporary = some (.regular ownerOnly content) := by
  obtain ⟨closed, body, closing⟩ := Attempt.ensuring_returned _ _ _ _ _ returned
  obtain ⟨_, first, _, body⟩ := Attempt.bind_returned _ _ _ _ _ body
  obtain ⟨content, second, reads, body⟩ := Attempt.bind_returned _ _ _ _ _ body
  obtain ⟨_, third, writes, body⟩ := Attempt.bind_returned _ _ _ _ _ body
  obtain ⟨_, fourth, flushes, syncs⟩ := Attempt.bind_returned _ _ _ _ _ body
  have written := persist_call_returned fails _ _ _ _ writes
  have flushed := persist_call_returned fails _ _ _ _ flushes
  have synced := persist_call_returned fails _ _ _ _ syncs
  have left := persist_call_returned fails _ _ _ _ closing
  refine ⟨content, congrArg Prod.fst reads, ?_⟩
  rw [left, synced, flushed, written]
  rfl

theorem replaced_by_temporary (before after : Writing) (returned : replaceToken fails before = (.ok (), after)) :
    after.disk.token = before.disk.temporary := by
  obtain ⟨_, state, called, replaced⟩ := Attempt.bind_returned _ _ _ _ _ returned
  have same := persist_call_returned fails _ _ _ _ called
  subst same
  cases target : before.disk.token with
  | none =>
      simp only [id, target] at replaced
      cases replaced
      rfl
  | some entry =>
      cases entry with
      | directory =>
          simp only [id, target] at replaced
          cases replaced
      | regular | special | symlink =>
          simp only [id, target] at replaced
          cases replaced
          rfl

def Writing.token (writing : Writing) : Option Entry := writing.disk.token

theorem unlink_temporary_token : Attempt.Keeps Writing.token (unlinkTemporary fails) := by
  intro before
  rw [unlinkTemporary]
  cases fails .unlinkTemporary with
  | none => rfl
  | some errno =>
      by_cases missing : errno = 2
      · simp only [if_pos missing]
        rfl
      · simp only [if_neg missing]

theorem clean_temporary_token : Attempt.Keeps Writing.token (cleanTemporary fails) := by
  have closed : Attempt.Keeps Writing.token (storeCall fails .closeTemporary) :=
    fun before => congrArg Writing.token (store_call_still fails .closeTemporary before)
  exact Attempt.keeps_bind _ _ (Attempt.keeps_guarded _ _ _ closed) _ fun _ =>
    Attempt.keeps_guarded _ _ _ (unlink_temporary_token fails)

theorem persisted_token (dumped : Except Exception Bytes) (before after : Writing)
    (returned : persistToken fails dumped before = (.ok (), after)) :
    ∃ content, dumped = .ok content ∧ after.token = some (.regular ownerOnly content) := by
  obtain ⟨_, created, _, rest⟩ := Attempt.bind_returned _ _ _ _ _ returned
  obtain ⟨_, filled, fills, rest⟩ := Attempt.bind_returned _ _ _ _ _ rest
  obtain ⟨_, replaced, replaces, syncs⟩ := Attempt.bind_returned _ _ _ _ _ rest
  obtain ⟨content, made, temporary⟩ := filled_temporary fails dumped created filled fills
  have taken := replaced_by_temporary fails filled replaced replaces
  have kept := sync_directory_keeps fails replaced
  rw [syncs] at kept
  have same : after.disk.token = replaced.disk.token := congrArg (fun outline => outline.2.2) kept
  exact ⟨content, made, same.trans (taken.trans temporary)⟩

theorem write_text_stores (dumped : Except Exception Bytes) (disk after : Directory)
    (returned : writeText fails dumped disk = (.ok (), after)) :
    ∃ content, dumped = .ok content ∧ after.token = some (.regular ownerOnly content) := by
  rw [writeText, Prod.mk.injEq] at returned
  obtain ⟨ended, left⟩ := returned
  obtain ⟨state, body, cleaned⟩ := Attempt.ensuring_returned _ _ _ () _ (Prod.ext ended rfl)
  have kept := clean_temporary_token fails state
  cases persisted : persistToken fails dumped (.start disk) with
  | mk result middle =>
      cases result with
      | error error =>
          rw [Attempt.rescuing_raises _ _ _ _ _ persisted] at body
          cases body
      | ok done =>
          obtain ⟨content, made, stored⟩ := persisted_token fails dumped _ middle persisted
          rw [Attempt.rescuing_returns _ _ _ _ _ persisted] at body
          cases body
          refine ⟨content, made, ?_⟩
          rw [cleaned] at kept
          rw [← left]
          exact kept.trans stored

end Writes

end SchwabGateway.Token
