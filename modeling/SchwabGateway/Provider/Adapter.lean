import SchwabGateway.Library.Script
import SchwabGateway.Reads.Failures
import SchwabGateway.Token.Manager

set_option autoImplicit false

namespace SchwabGateway.Provider

open SchwabGateway.Library SchwabGateway.Python SchwabGateway.Reads SchwabGateway.Token

-- What the code of a client may ask of its transaction: the two callbacks.
inductive Ask where
  | read
  | write (token : PyValue)

def Reply : Ask → Type
  | .read => Except Token.Exception PyValue
  | .write _ => Except Token.Exception Unit

-- An exception as the adapter tells them apart.
inductive Thrown where
  | manager (error : TokenError)
  | other (failure : Failure)
deriving DecidableEq

abbrev Code (α : Type) := Script Ask Reply Thrown α

structure Scope where
  callbacks : Callbacks
  disk : Directory
  transitions : List Health

def tokenAnswer (codec : Codec) (fault : Option Fault) : (ask : Ask) → Scope → Reply ask × Scope
  | .read, scope => (scope.callbacks.read, scope)
  | .write token, scope =>
      let written := scope.callbacks.write codec fault token scope.disk
      (written.outcome.result,
        ⟨written.callbacks, written.outcome.disk, scope.transitions ++ written.outcome.transitions⟩)

-- What set_timeout gets: a number of seconds, or an httpx.Timeout.
inductive Timeout where
  | seconds (seconds : PyFloat)
  | phases (seconds connect : PyFloat)
deriving DecidableEq

namespace LockedSchwabClientAdapter

def httpTimeoutMessage : String := "Schwab HTTP timeout must be finite and positive"
def connectTimeoutMessage : String := "Schwab HTTP connect timeout must be finite and positive"
def matchingTimeoutMessage : String := "Schwab HTTP connect timeout requires a matching HTTP timeout"

def finitePositive (seconds : PyFloat) : Bool := seconds.isfinite && PyFloat.lt (.finite 0) seconds

def checkTimeout (timeout : Option PyFloat) (message : String) : Except String Unit :=
  match timeout with
  | some seconds => if finitePositive seconds then .ok () else .error message
  | none => .ok ()

def checkMatching (http connect : Option PyFloat) : Except String Unit :=
  match connect, http with
  | none, _ => .ok ()
  | some _, none => .error matchingTimeoutMessage
  | some limit, some seconds => if PyFloat.lt seconds limit then .error matchingTimeoutMessage else .ok ()

def check (http connect : Option PyFloat) : Except String Unit := do
  checkTimeout http httpTimeoutMessage
  checkTimeout connect connectTimeoutMessage
  checkMatching http connect

def timeout (http connect : Option PyFloat) : Option Timeout :=
  match http, connect with
  | none, _ => none
  | some seconds, none => some (.seconds seconds)
  | some seconds, some limit => some (.phases seconds limit)

end LockedSchwabClientAdapter

-- SchwabClientConstructionError, which keeps nothing of what it replaces.
def constructionFailed : Thrown := .other ⟨plain .other, []⟩

-- SchwabClientOperationError: raised from None, so only the metadata remains.
def operationFailed (metadata : FailureMetadata) : Thrown := .other ⟨⟨.other, some metadata, none⟩, []⟩

def Thrown.outOfConstruction : Thrown → Thrown
  | .manager error => .manager error
  | .other _ => constructionFailed

def Thrown.outOfOperation (wall : ℚ) : Thrown → Thrown
  | .manager error => .manager error
  | .other failure => operationFailed (classify failure wall)

def Thrown.ofException : Token.Exception → Thrown
  | .token error => .manager error
  | .valueError => .other ⟨plain .valueError, []⟩
  | _ => .other ⟨plain .other, []⟩

section Execute

variable {Client α : Type}

structure Factory (Client : Type) where
  build : Code Client
  setTimeout : Client → Timeout → Code Unit

def Factory.construct (factory : Factory Client) (timeout : Option Timeout) : Code Client :=
  factory.build.attempt .raises (fun client =>
    match timeout with
    | none => .returns client
    | some timeout => (factory.setTimeout client timeout).attempt .raises (fun _ => .returns client))

def runLocked (factory : Factory Client) (timeout : Option Timeout) (operation : Client → Code α) (wall : ℚ) :
    Code α :=
  (factory.construct timeout).attempt (fun error => .raises error.outOfConstruction)
    (fun client => (operation client).attempt (fun error => .raises (error.outOfOperation wall)) .returns)

variable (codec : Codec) (settings : Token.Settings) (fault : Option Fault) (now : ℚ)

def opened (current : PyValue) (disk : Directory) : Scope := ⟨⟨some current⟩, disk, [tokenLoaded]⟩

-- The body of the with statement in run_access_transaction, for run_locked.
def lockedCall (factory : Factory Client) (timeout : Option Timeout) (operation : Client → Code α) (wall : ℚ)
    (disk : Directory) : Except Thrown α × Scope :=
  match loadFromTransaction codec settings now disk with
  | .error error => (.error (.ofException error), ⟨⟨none⟩, disk, loadFailure error⟩)
  | .ok current =>
      (runLocked factory timeout operation wall).run (tokenAnswer codec fault) (opened current disk)

-- What entering and leaving the store lock does: either may raise.
structure LockCourse where
  enter : Except Token.Exception Unit
  leave : Except Token.Exception Unit

def execute (lock : LockCourse) (factory : Factory Client) (timeout : Option Timeout)
    (operation : Client → Code α) (wall : ℚ) (disk : Directory) : Except Thrown α × Scope :=
  match lock.enter with
  | .error error => (.error (.ofException error), ⟨⟨none⟩, disk, loadFailure error⟩)
  | .ok () =>
      let ended := lockedCall codec settings fault now factory timeout operation wall disk
      match lock.leave with
      | .error error => (.error (.ofException error), ended.2)
      | .ok () => ended

end Execute

section Transaction

variable {α : Type}

def Thrown.exception : Thrown → Token.Exception
  | .manager error => .token error
  | .other _ => .foreign

def operationOf (value : α → PyValue) : Code α → Operation
  | .returns result => .returns (value result)
  | .raises error => .raises error.exception
  | .ask .read next => .read (fun reply => operationOf value (next reply))
  | .ask (.write token) next => .write token (fun reply => operationOf value (next reply))

def resultOf (value : α → PyValue) : Except Thrown α → Except Token.Exception PyValue
  | .ok result => .ok (value result)
  | .error error => .error error.exception

theorem run_operation (codec : Codec) (fault : Option Fault) (value : α → PyValue) (code : Code α)
    (callbacks : Callbacks) (disk : Directory) (made : List Health) :
    (runOperation codec fault (operationOf value code) callbacks disk).after made =
      { result := resultOf value (code.run (tokenAnswer codec fault) ⟨callbacks, disk, made⟩).1
        disk := (code.run (tokenAnswer codec fault) ⟨callbacks, disk, made⟩).2.disk
        transitions := (code.run (tokenAnswer codec fault) ⟨callbacks, disk, made⟩).2.transitions } := by
  induction code generalizing callbacks disk made with
  | returns result => simp [operationOf, runOperation, Script.run, resultOf, Outcome.after]
  | raises error => simp [operationOf, runOperation, Script.run, resultOf, Outcome.after]
  | ask query next ih =>
      cases query with
      | read => exact ih callbacks.read callbacks disk made
      | write token =>
          rw [operationOf, runOperation, after_after]
          exact ih _ _ _ _

variable {Client : Type} (codec : Codec) (settings : Token.Settings) (fault : Option Fault) (now : ℚ)
  (factory : Factory Client) (timeout : Option Timeout) (operation : Client → Code α) (wall : ℚ) (disk : Directory)

-- What run_locked leaves is what the access transaction of the token manager leaves.
theorem locked_call_access (value : α → PyValue) :
    (accessSection codec settings fault now (operationOf value (runLocked factory timeout operation wall)) disk).disk =
        (lockedCall codec settings fault now factory timeout operation wall disk).2.disk ∧
      (accessSection codec settings fault now (operationOf value (runLocked factory timeout operation wall))
          disk).transitions =
        (lockedCall codec settings fault now factory timeout operation wall disk).2.transitions := by
  rw [accessSection, lockedCall]
  cases loadFromTransaction codec settings now disk with
  | error error => exact ⟨rfl, rfl⟩
  | ok current =>
      dsimp only
      rw [run_operation]
      exact ⟨rfl, rfl⟩

theorem execute_scope (lock : LockCourse) (entered : lock.enter = .ok ()) :
    (execute codec settings fault now lock factory timeout operation wall disk).2 =
      (lockedCall codec settings fault now factory timeout operation wall disk).2 := by
  rw [execute, entered]
  dsimp only
  cases lock.leave with
  | error error => rfl
  | ok done => rfl

end Transaction

end SchwabGateway.Provider
