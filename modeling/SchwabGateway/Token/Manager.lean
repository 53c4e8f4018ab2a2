import SchwabGateway.Token.Store

set_option autoImplicit false

namespace SchwabGateway.Token

open SchwabGateway.Python

inductive ManagerState where
  | uninitialized
  | ready
  | refreshing
  | missing
  | corrupt
  | expired
  | revoked
  | reauthorizationRequired
  | lockTimeout
  | refreshFailed
  | persistenceFailed
deriving DecidableEq

structure Health where
  state : ManagerState
  reason : String
deriving DecidableEq

def tokenLoaded : Health := ⟨.ready, "token_loaded"⟩
def refreshStarted : Health := ⟨.refreshing, "refresh_started"⟩
def refreshSucceeded : Health := ⟨.ready, "refresh_succeeded"⟩
def upstreamRevoked : Health := ⟨.revoked, "upstream_revoked"⟩
def manualReauthorization : Health := ⟨.reauthorizationRequired, "manual_reauthorization_required"⟩
def callbackError : Health := ⟨.refreshFailed, "callback_error"⟩
def invalidRefreshResult : Health := ⟨.refreshFailed, "invalid_refresh_result"⟩

-- _FAILURE_OUTCOMES; every other class is reported as corrupt.
def failureOutcome : TokenError → Health
  | .missing _ => ⟨.missing, "token_missing"⟩
  | .expired _ => ⟨.expired, "refresh_token_expired"⟩
  | .lockTimeout _ => ⟨.lockTimeout, "lock_timeout"⟩
  | .persistence _ => ⟨.persistenceFailed, "store_unavailable"⟩
  | _ => ⟨.corrupt, "token_corrupt"⟩

structure Settings where
  refreshTokenTtl : ℚ
  maxTokenBytes : Nat

-- What a piece of code under the lock returns or raises, the disk it leaves
-- and the health transitions it made, in their order.
structure Outcome (α : Type) where
  result : Except Exception α
  disk : Directory
  transitions : List Health

def Outcome.after {α : Type} (earlier : List Health) (outcome : Outcome α) : Outcome α :=
  { outcome with transitions := earlier ++ outcome.transitions }

@[simp] theorem after_nil {α : Type} (outcome : Outcome α) : outcome.after [] = outcome := rfl

@[simp] theorem after_after {α : Type} (outcome : Outcome α) (first second : List Health) :
    (outcome.after second).after first = outcome.after (first ++ second) := by
  simp only [Outcome.after, List.append_assoc]

variable (codec : Codec) (settings : Settings) (fault : Option Fault) (now : ℚ)

def loadFromTransaction (disk : Directory) : Except Exception PyValue :=
  match read codec settings.maxTokenBytes disk with
  | .error error => .error error
  | .ok value =>
      match validateTokenDocument codec value with
      | .error error => .error (.token error)
      | .ok token =>
          if expiresAt settings.refreshTokenTtl token ≤ now then
            .error (.token (.expired lifetimeExpired))
          else .ok token

def loadSection (disk : Directory) : Outcome PyValue :=
  { result := loadFromTransaction codec settings now disk, disk := disk, transitions := [] }

-- A refresh callback is any function: its exceptions are told apart only by
-- the two classes that refresh lets through.
abbrev RefreshCallback := PyValue → Except Exception PyValue

def persistRefreshed (value : PyValue) (disk : Directory) : Outcome PyValue :=
  match validateTokenDocument codec value with
  | .error _ =>
      { result := .error (.token (.refresh callbackInvalid)), disk := disk,
        transitions := [invalidRefreshResult] }
  | .ok refreshed =>
      match write codec fault refreshed disk with
      | (.error error, after) => { result := .error error, disk := after, transitions := [] }
      | (.ok (), after) => { result := .ok refreshed, disk := after, transitions := [] }

def refreshWith (callback : RefreshCallback) (current : PyValue) (disk : Directory) :
    Outcome PyValue :=
  match callback current with
  | .error (.token .revoked) =>
      { result := .error (.token .revoked), disk := disk, transitions := [upstreamRevoked] }
  | .error (.token .reauthorization) =>
      { result := .error (.token .reauthorization), disk := disk,
        transitions := [manualReauthorization] }
  | .error _ =>
      { result := .error (.token (.refresh callbackFailed)), disk := disk,
        transitions := [callbackError] }
  | .ok value => persistRefreshed codec fault value disk

def refreshSection (callback : RefreshCallback) (disk : Directory) : Outcome PyValue :=
  match loadFromTransaction codec settings now disk with
  | .error error => { result := .error error, disk := disk, transitions := [] }
  | .ok current => (refreshWith codec fault callback current disk).after [refreshStarted]

-- _ScopedTokenCallbacks: close drops the current document and the active flag
-- together, so callbacks are active as long as they hold a document.
structure Callbacks where
  current : Option PyValue

def Callbacks.close (_callbacks : Callbacks) : Callbacks := ⟨none⟩

def Callbacks.read (callbacks : Callbacks) : Except Exception PyValue :=
  match callbacks.current with
  | some current => .ok current
  | none => .error (.token (.callbackScope outsideScope))

structure Scoped where
  outcome : Outcome Unit
  callbacks : Callbacks

def persistScoped (token : PyValue) (callbacks : Callbacks) (disk : Directory) : Scoped :=
  match validateTokenDocument codec token with
  | .error _ =>
      { outcome := { result := .error (.token (.refresh writeInvalid)), disk := disk,
                     transitions := [invalidRefreshResult] },
        callbacks := callbacks }
  | .ok refreshed =>
      match write codec fault refreshed disk with
      | (.error (.token error), after) =>
          { outcome := { result := .error (.token error), disk := after,
                         transitions := [failureOutcome error] },
            callbacks := callbacks }
      | (.error error, after) =>
          { outcome := { result := .error error, disk := after, transitions := [] },
            callbacks := callbacks }
      | (.ok (), after) =>
          { outcome := { result := .ok (), disk := after, transitions := [refreshSucceeded] },
            callbacks := ⟨some refreshed⟩ }

def Callbacks.write (callbacks : Callbacks) (token : PyValue) (disk : Directory) : Scoped :=
  match callbacks.current with
  | none =>
      { outcome := { result := .error (.token (.callbackScope outsideScope)), disk := disk,
                     transitions := [] },
        callbacks := callbacks }
  | some _ =>
      let written := persistScoped codec fault token callbacks disk
      { written with outcome := written.outcome.after [refreshStarted] }

-- The client code an access transaction runs, as the tree of what it asks of
-- its two callbacks and does with each answer.
inductive Operation where
  | returns (value : PyValue)
  | raises (error : Exception)
  | read (next : Except Exception PyValue → Operation)
  | write (token : PyValue) (next : Except Exception Unit → Operation)

def runOperation : Operation → Callbacks → Directory → Outcome PyValue
  | .returns value, _, disk => { result := .ok value, disk := disk, transitions := [] }
  | .raises error, _, disk => { result := .error error, disk := disk, transitions := [] }
  | .read next, callbacks, disk => runOperation (next callbacks.read) callbacks disk
  | .write token next, callbacks, disk =>
      let written := callbacks.write codec fault token disk
      (runOperation (next written.outcome.result) written.callbacks written.outcome.disk).after
        written.outcome.transitions

def loadFailure (error : Exception) : List Health :=
  match error with
  | .token error => [failureOutcome error]
  | _ => []

def accessSection (operation : Operation) (disk : Directory) : Outcome PyValue :=
  match loadFromTransaction codec settings now disk with
  | .error error => { result := .error error, disk := disk, transitions := loadFailure error }
  | .ok current =>
      (runOperation codec fault operation ⟨some current⟩ disk).after [tokenLoaded]

inductive Kind where
  | load
  | refresh (callback : RefreshCallback)
  | access (operation : Operation)

def lockedSection (kind : Kind) (disk : Directory) : Outcome PyValue :=
  match kind with
  | .load => loadSection codec settings now disk
  | .refresh callback => refreshSection codec settings fault now callback disk
  | .access operation => accessSection codec settings fault now operation disk

-- What each entry point records once the lock is released, or when it could
-- not be had.
def recordLoad (result : Except Exception PyValue) : List Health :=
  match result with
  | .ok _ => [tokenLoaded]
  | .error error => loadFailure error

def recordRefresh (result : Except Exception PyValue) : List Health :=
  match result with
  | .ok _ => [refreshSucceeded]
  | .error (.token .revoked) => []
  | .error (.token .reauthorization) => []
  | .error (.token (.refresh _)) => []
  | .error error => loadFailure error

def recordAccess (enteredStore : Bool) (result : Except Exception PyValue) : List Health :=
  match enteredStore, result with
  | false, .error error => loadFailure error
  | _, _ => []

def recordOutcome (kind : Kind) (enteredStore : Bool) (result : Except Exception PyValue) :
    List Health :=
  match kind with
  | .load => recordLoad result
  | .refresh _ => recordRefresh result
  | .access _ => recordAccess enteredStore result

end SchwabGateway.Token
