import Mathlib.Logic.Function.Basic
import SchwabGateway.Library.Transition
import SchwabGateway.Token.Manager
import SchwabGateway.Token.Write

set_option autoImplicit false

namespace SchwabGateway.Token.Scope

open SchwabGateway.Python SchwabGateway.Library

-- One transaction: the thread that runs its operation and closes its
-- callbacks, its manager and the clock reading it checks the lifetime against.
structure Transaction where
  thread : Nat
  manager : Nat
  now : ℚ

inductive Action where
  | read
  | write (token : PyValue)

structure Invocation where
  transaction : Nat
  thread : Nat
  action : Action
  fault : Option Fault

inductive Stage where
  | idle
  | entered
  | failed
  | opened
  | closing
  | closed
  | released
deriving DecidableEq

-- A read answers with the document, a write with None.
abbrev Answer := Except Exception (Option PyValue)

-- Where a call is in the code under the callbacks' guard, and around it.
inductive Place where
  | idle
  | waiting
  | checking
  | validating (token : PyValue)
  | storing (refreshed : PyValue)
  | stored (refreshed : PyValue)
  | leaving (answer : Answer)
  | answered (answer : Answer)

-- guard lists the calls inside the RLock of each transaction's callbacks: its
-- count is their number. loaded and written are the documents that its
-- callbacks were made with and have written, the newest first.
structure State where
  file : Option Entry
  holder : Option Nat
  stage : Nat → Stage
  callbacks : Nat → Callbacks
  loaded : Nat → Option PyValue
  written : Nat → List PyValue
  guard : Nat → List Nat
  place : Nat → Place
  running : List Nat
  health : Nat → Health

inductive Event where
  | external (entry : Option Entry)
  | recorded (manager : Nat) (health : Health)
  | acquire (transaction : Nat)
  | load (transaction : Nat)
  | finish (transaction : Nat)
  | close (transaction : Nat)
  | release (transaction : Nat)
  | invoke (call : Nat)
  | enterGuard (call : Nat)
  | check (call : Nat)
  | validate (call : Nat)
  | store (call : Nat)
  | commit (call : Nat)
  | leaveGuard (call : Nat)

variable (codec : Codec) (settings : Settings) (transactions : Nat → Transaction)
  (invocations : Nat → Invocation)

def Place.unmade : Place → Bool
  | .idle => true
  | _ => false

def Place.waits : Place → Bool
  | .waiting => true
  | _ => false

def Place.checks : Place → Bool
  | .checking => true
  | _ => false

def Place.validates : Place → Bool
  | .validating _ => true
  | _ => false

def Place.stores : Place → Bool
  | .storing _ => true
  | _ => false

def Place.commits : Place → Bool
  | .stored _ => true
  | _ => false

def Place.leaves : Place → Bool
  | .leaving _ => true
  | _ => false

theorem unmade_idle (place : Place) (unmade : place.unmade = true) : place = .idle := by
  cases place with
  | idle => rfl
  | _ => cases unmade

theorem waits_waiting (place : Place) (waits : place.waits = true) : place = .waiting := by
  cases place with
  | waiting => rfl
  | _ => cases waits

theorem checks_checking (place : Place) (checks : place.checks = true) : place = .checking := by
  cases place with
  | checking => rfl
  | _ => cases checks

theorem validates_token (place : Place) (validates : place.validates = true) :
    ∃ token, place = .validating token := by
  cases place with
  | validating token => exact ⟨token, rfl⟩
  | _ => cases validates

theorem stores_document (place : Place) (stores : place.stores = true) :
    ∃ refreshed, place = .storing refreshed := by
  cases place with
  | storing refreshed => exact ⟨refreshed, rfl⟩
  | _ => cases stores

theorem commits_document (place : Place) (commits : place.commits = true) :
    ∃ refreshed, place = .stored refreshed := by
  cases place with
  | stored refreshed => exact ⟨refreshed, rfl⟩
  | _ => cases commits

theorem leaves_answer (place : Place) (leaves : place.leaves = true) :
    ∃ answer, place = .leaving answer := by
  cases place with
  | leaving answer => exact ⟨answer, rfl⟩
  | _ => cases leaves

-- A thread runs one call at a time, but the token that a call validates may
-- be a mapping whose own code makes another one.
def State.clear (state : State) (call : Nat) : Prop :=
  ∀ other ∈ state.running, other ≠ call →
    (invocations other).thread = (invocations call).thread → (state.place other).validates = true

def State.enabled (state : State) : Event → Prop
  | .external _ => state.holder = none
  | .recorded _ _ => True
  | .acquire transaction => state.stage transaction = .idle ∧ state.holder = none
  | .load transaction => state.stage transaction = .entered
  | .finish transaction => state.stage transaction = .opened
  | .close transaction =>
      state.stage transaction = .closing ∧
        (∀ call ∈ state.running, (invocations call).thread ≠ (transactions transaction).thread) ∧
          ∀ call ∈ state.guard transaction,
            (invocations call).thread = (transactions transaction).thread
  | .release transaction => state.stage transaction = .closed ∨ state.stage transaction = .failed
  | .invoke call =>
      (state.place call).unmade = true ∧
        (state.loaded (invocations call).transaction).isSome = true ∧ state.clear invocations call
  | .enterGuard call =>
      (state.place call).waits = true ∧ state.clear invocations call ∧
        ∀ other ∈ state.guard (invocations call).transaction,
          (invocations other).thread = (invocations call).thread
  | .check call => (state.place call).checks = true ∧ state.clear invocations call
  | .validate call => (state.place call).validates = true ∧ state.clear invocations call
  | .store call => (state.place call).stores = true ∧ state.clear invocations call
  | .commit call => (state.place call).commits = true ∧ state.clear invocations call
  | .leaveGuard call => (state.place call).leaves = true ∧ state.clear invocations call

instance (state : State) (call : Nat) : Decidable (state.clear invocations call) :=
  inferInstanceAs (Decidable (∀ other ∈ state.running, _ → _ → _))

instance (state : State) : (event : Event) → Decidable (state.enabled transactions invocations event)
  | .external _ => inferInstanceAs (Decidable (_ = none))
  | .recorded _ _ => inferInstanceAs (Decidable True)
  | .acquire _ => inferInstanceAs (Decidable (_ = _ ∧ _ = none))
  | .load _ => inferInstanceAs (Decidable (_ = _))
  | .finish _ => inferInstanceAs (Decidable (_ = _))
  | .close transaction =>
      inferInstanceAs (Decidable (_ = _ ∧ (∀ call ∈ state.running, _ ≠ _) ∧
        ∀ call ∈ state.guard transaction, _ = _))
  | .release _ => inferInstanceAs (Decidable (_ = _ ∨ _ = _))
  | .invoke _ => inferInstanceAs (Decidable (_ = _ ∧ _ = _ ∧ State.clear _ _ _))
  | .enterGuard call =>
      inferInstanceAs (Decidable (_ = _ ∧ State.clear _ _ _ ∧
        ∀ other ∈ state.guard (invocations call).transaction, _ = _))
  | .check _ => inferInstanceAs (Decidable (_ = _ ∧ State.clear _ _ _))
  | .validate _ => inferInstanceAs (Decidable (_ = _ ∧ State.clear _ _ _))
  | .store _ => inferInstanceAs (Decidable (_ = _ ∧ State.clear _ _ _))
  | .commit _ => inferInstanceAs (Decidable (_ = _ ∧ State.clear _ _ _))
  | .leaveGuard _ => inferInstanceAs (Decidable (_ = _ ∧ State.clear _ _ _))

def State.moveTo (state : State) (call : Nat) (place : Place) : State :=
  { state with place := Function.update state.place call place }

def State.enter (state : State) (transaction : Nat) (stage : Stage) : State :=
  { state with stage := Function.update state.stage transaction stage }

def State.announce (state : State) (manager : Nat) (transitions : List Health) : State :=
  { state with
    health := Function.update state.health manager
      (transitions.getLast?.getD (state.health manager)) }

def State.load (state : State) (transaction : Nat) : State :=
  match loadFromTransaction codec settings (transactions transaction).now ⟨state.file, none⟩ with
  | .error error =>
      (state.announce (transactions transaction).manager (loadFailure error)).enter transaction .failed
  | .ok current =>
      { (state.announce (transactions transaction).manager [tokenLoaded]).enter transaction .opened with
        callbacks := Function.update state.callbacks transaction ⟨some current⟩
        loaded := Function.update state.loaded transaction (some current) }

def State.close (state : State) (transaction : Nat) : State :=
  { state.enter transaction .closed with
    callbacks := Function.update state.callbacks transaction (state.callbacks transaction).close }

def Invocation.manager (invocation : Invocation) : Nat := (transactions invocation.transaction).manager

def State.check (state : State) (call : Nat) : State :=
  let invocation := invocations call
  match (state.callbacks invocation.transaction).read, invocation.action with
  | .error error, _ => state.moveTo call (.leaving (.error error))
  | .ok current, .read => state.moveTo call (.leaving (.ok (some current)))
  | .ok _, .write token =>
      (state.announce (invocation.manager transactions) [refreshStarted]).moveTo call
        (.validating token)

def State.validate (state : State) (call : Nat) (token : PyValue) : State :=
  match validateTokenDocument codec token with
  | .error _ =>
      (state.announce ((invocations call).manager transactions) [invalidRefreshResult]).moveTo call
        (.leaving (.error (.token (.refresh writeInvalid))))
  | .ok refreshed => state.moveTo call (.storing refreshed)

def State.store (state : State) (call : Nat) (refreshed : PyValue) : State :=
  let invocation := invocations call
  match write codec invocation.fault refreshed ⟨state.file, none⟩ with
  | (.error error, after) =>
      ({ state with file := after.token }.announce (invocation.manager transactions)
        (loadFailure error)).moveTo call (.leaving (.error error))
  | (.ok (), after) =>
      { state.moveTo call (.stored refreshed) with
        file := after.token
        written := Function.update state.written invocation.transaction
          (refreshed :: state.written invocation.transaction) }

def State.commit (state : State) (call : Nat) (refreshed : PyValue) : State :=
  let invocation := invocations call
  { (state.announce (invocation.manager transactions) [refreshSucceeded]).moveTo call
      (.leaving (.ok none)) with
    callbacks := Function.update state.callbacks invocation.transaction ⟨some refreshed⟩ }

def State.leaveGuard (state : State) (call : Nat) (answer : Answer) : State :=
  let transaction := (invocations call).transaction
  { state.moveTo call (.answered answer) with
    guard := Function.update state.guard transaction
      ((state.guard transaction).filter (fun other => other ≠ call))
    running := state.running.filter (fun other => other ≠ call) }

def State.perform (state : State) : Event → State
  | .external entry => { state with file := entry }
  | .recorded manager health => state.announce manager [health]
  | .acquire transaction => { state.enter transaction .entered with holder := some transaction }
  | .load transaction => state.load codec settings transactions transaction
  | .finish transaction => state.enter transaction .closing
  | .close transaction => state.close transaction
  | .release transaction => { state.enter transaction .released with holder := none }
  | .invoke call => { state.moveTo call .waiting with running := call :: state.running }
  | .enterGuard call =>
      { state.moveTo call .checking with
        guard := Function.update state.guard (invocations call).transaction
          (call :: state.guard (invocations call).transaction) }
  | .check call => state.check transactions invocations call
  | .validate call =>
      match state.place call with
      | .validating token => state.validate codec transactions invocations call token
      | _ => state
  | .store call =>
      match state.place call with
      | .storing refreshed => state.store codec transactions invocations call refreshed
      | _ => state
  | .commit call =>
      match state.place call with
      | .stored refreshed => state.commit transactions invocations call refreshed
      | _ => state
  | .leaveGuard call =>
      match state.place call with
      | .leaving answer => state.leaveGuard invocations call answer
      | _ => state

def scopeSystem : System State Event where
  enabled := State.enabled transactions invocations
  perform := State.perform codec settings transactions invocations

instance (state : State) (event : Event) :
    Decidable ((scopeSystem codec settings transactions invocations).enabled state event) :=
  inferInstanceAs (Decidable (state.enabled transactions invocations event))

def State.start (file : Option Entry) : State where
  file := file
  holder := none
  stage _ := .idle
  callbacks _ := ⟨none⟩
  loaded _ := none
  written _ := []
  guard _ := []
  place _ := .idle
  running := []
  health _ := ⟨.uninitialized, "not_checked"⟩

variable {codec settings transactions invocations}

-- The steps of a write that nothing interrupts are the write of the callbacks
-- in one piece.
theorem write_in_one_piece (state : State) (call : Nat) (token current : PyValue)
    (action : (invocations call).action = .write token)
    (shown : (state.callbacks (invocations call).transaction).current = some current) :
    let after := (scopeSystem codec settings transactions invocations).performAll state
      [.check call, .validate call, .store call, .commit call]
    let written := (state.callbacks (invocations call).transaction).write codec
      (invocations call).fault token ⟨state.file, none⟩
    after.place call = .leaving (written.outcome.result.map (fun _ => none)) ∧
      after.file = written.outcome.disk.token ∧
        after.callbacks (invocations call).transaction = written.callbacks ∧
          after.health ((invocations call).manager transactions) =
            written.outcome.transitions.getLast?.getD
              (state.health ((invocations call).manager transactions)) := by
  have read : (state.callbacks (invocations call).transaction).read = .ok current := by
    simp only [Callbacks.read, shown]
  have checked : state.check transactions invocations call =
      (state.announce ((invocations call).manager transactions) [refreshStarted]).moveTo call
        (.validating token) := by
    simp only [State.check, read, action]
  cases valid : validateTokenDocument codec token with
  | error error =>
      simp [scopeSystem, System.performAll, State.perform, checked, State.moveTo, State.validate,
        valid, State.announce, Callbacks.write, shown, persistScoped, Outcome.after, Except.map]
  | ok refreshed =>
      cases stored : write codec (invocations call).fault refreshed ⟨state.file, none⟩ with
      | mk result after =>
          cases result with
          | error error =>
              cases error <;>
                simp [scopeSystem, System.performAll, State.perform, checked, State.moveTo,
                  State.validate, valid, State.announce, State.store, stored, Callbacks.write, shown,
                  persistScoped, Outcome.after, Except.map, loadFailure]
          | ok done =>
              simp [scopeSystem, System.performAll, State.perform, checked, State.moveTo,
                State.validate, valid, State.announce, State.store, stored, State.commit,
                Callbacks.write, shown, persistScoped, Outcome.after, Except.map]

end SchwabGateway.Token.Scope
