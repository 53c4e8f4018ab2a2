import SchwabGateway.Python.Value

set_option autoImplicit false

namespace SchwabGateway.Token

open SchwabGateway.Python

-- The classes under TokenManagerError, with the texts they are raised with.
inductive TokenError where
  | missing (message : String)
  | corrupt (message : String)
  | expired (message : String)
  | lockTimeout (message : String)
  | persistence (message : String)
  | refresh (message : String)
  | callbackScope (message : String)
  | revoked
  | reauthorization
deriving DecidableEq

-- The other exceptions that can pass through the store and the manager.
-- foreign is one raised by a callback of the caller.
inductive Exception where
  | token (error : TokenError)
  | osError (errno : Nat)
  | typeError
  | valueError
  | overflowError
  | recursionError
  | foreign
deriving DecidableEq

def documentMissing : String := "token document is missing"
def documentUnsafe : String := "token document cannot be opened safely"
def documentTooLarge : String := "token document exceeds the size limit"
def documentNotRegular : String := "token document must be a regular file"
def documentPermissions : String := "token document permissions must be 0600"
def documentNotJson : String := "token document is not valid JSON"
def documentNotObject : String := "token document must be an object"
def timestampInvalid : String := "token creation timestamp is invalid"
def payloadNotObject : String := "token payload must be an object"
def payloadIncomplete : String := "token payload is missing required OAuth fields"
def documentNotSerializable : String := "token document is not JSON serializable"
def lifetimeExpired : String := "refresh token lifetime has expired"
def lockTimedOut : String := "timed out waiting for the token lock"
def notPersisted : String := "token document could not be persisted atomically"
def callbackFailed : String := "token refresh callback failed"
def callbackInvalid : String := "token refresh callback returned invalid data"
def writeInvalid : String := "token write callback received invalid data"
def outsideScope : String := "token callback is outside its transaction scope"

abbrev Bytes := List UInt8

inductive LoadError where
  | invalid
  | recursionError
deriving DecidableEq

inductive DumpError where
  | typeError
  | valueError
  | recursionError
deriving DecidableEq

-- The json module as the store uses it: dumps is the check of
-- validate_token_document, dump writes the file with its newline, load reads it.
structure Codec where
  dumps : PyValue → Bool
  dump : PyValue → Except DumpError Bytes
  load : Bytes → Except LoadError PyValue

variable (codec : Codec)

def creationTimestamp (value : PyValue) : Except TokenError ℚ :=
  match value with
  | .int n =>
      match floatOfInt n with
      | .ok _ => if n ≤ 0 then .error (.corrupt timestampInvalid) else .ok (roundDouble n)
      | .error _ => .error (.corrupt documentNotSerializable)
  | .float (.finite seconds) =>
      if seconds ≤ 0 then .error (.corrupt timestampInvalid) else .ok seconds
  | _ => .error (.corrupt timestampInvalid)

def nonemptyText : PyValue → Bool
  | .str text => text ≠ ""
  | _ => false

def validateTokenDocument (value : PyValue) : Except TokenError PyValue :=
  match value with
  | .dict entries =>
      match creationTimestamp (PyValue.get entries "creation_timestamp") with
      | .error error => .error error
      | .ok _ =>
          match PyValue.get entries "token" with
          | .dict payload =>
              if nonemptyText (PyValue.get payload "access_token") &&
                  nonemptyText (PyValue.get payload "refresh_token") then
                if codec.dumps value then .ok value else .error (.corrupt documentNotSerializable)
              else .error (.corrupt payloadIncomplete)
          | _ => .error (.corrupt payloadNotObject)
  | _ => .error (.corrupt documentNotObject)

-- The document is checked and copied: what comes out is what went in.
theorem validate_returns_value (value document : PyValue)
    (valid : validateTokenDocument codec value = .ok document) : document = value := by
  unfold validateTokenDocument at valid
  cases value with
  | dict entries =>
      dsimp only at valid
      cases timestamp : creationTimestamp (PyValue.get entries "creation_timestamp") with
      | error error => simp [timestamp] at valid
      | ok seconds =>
          simp only [timestamp] at valid
          split at valid
          · split at valid
            · split at valid
              · exact (Except.ok.inj valid).symm
              · cases valid
            · cases valid
          · cases valid
  | none => cases valid
  | bool value => cases valid
  | int value => cases valid
  | float value => cases valid
  | str value => cases valid
  | list items => cases valid
  | object => cases valid

theorem creation_timestamp_corrupt (stamp : PyValue) (error : TokenError)
    (invalid : creationTimestamp stamp = .error error) : ∃ message, error = .corrupt message := by
  unfold creationTimestamp at invalid
  cases stamp with
  | int n =>
      dsimp only at invalid
      cases double : floatOfInt n with
      | ok seconds =>
          simp only [double] at invalid
          split at invalid
          · cases invalid
            exact ⟨_, rfl⟩
          · cases invalid
      | error overflow =>
          simp only [double] at invalid
          cases invalid
          exact ⟨_, rfl⟩
  | float value =>
      cases value with
      | finite seconds =>
          dsimp only at invalid
          split at invalid
          · cases invalid
            exact ⟨_, rfl⟩
          · cases invalid
      | infinity | negInfinity | nan =>
          cases invalid
          exact ⟨_, rfl⟩
  | none | bool | str | list | dict | object =>
      cases invalid
      exact ⟨_, rfl⟩

theorem validate_corrupt (value : PyValue) (error : TokenError)
    (refused : validateTokenDocument codec value = .error error) : ∃ message, error = .corrupt message := by
  unfold validateTokenDocument at refused
  cases value with
  | dict entries =>
      dsimp only at refused
      cases stamped : creationTimestamp (PyValue.get entries "creation_timestamp") with
      | error failure =>
          simp only [stamped] at refused
          cases refused
          exact creation_timestamp_corrupt _ _ stamped
      | ok seconds =>
          simp only [stamped] at refused
          cases payload : PyValue.get entries "token" with
          | dict fields =>
              simp only [payload] at refused
              split at refused
              · split at refused
                · cases refused
                · cases refused
                  exact ⟨_, rfl⟩
              · cases refused
                exact ⟨_, rfl⟩
          | none | bool | int | float | str | list | object =>
              simp only [payload] at refused
              cases refused
              exact ⟨_, rfl⟩
  | none | bool | int | float | str | list | object =>
      cases refused
      exact ⟨_, rfl⟩

-- _record_refresh_deadline: the instant up to which the refresh token lives. A
-- sum too large for a double is still above every clock reading.
def expiresAt (ttl : ℚ) (document : PyValue) : ℚ :=
  match document with
  | .dict entries =>
      match creationTimestamp (PyValue.get entries "creation_timestamp") with
      | .ok seconds => roundDouble (seconds + ttl)
      | .error _ => ttl
  | _ => ttl

end SchwabGateway.Token
