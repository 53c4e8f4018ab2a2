import SchwabGateway.Token.CallbackView
import SchwabGateway.Token.Serializable

set_option autoImplicit false

namespace SchwabGateway.Token.Scope

open SchwabGateway.Python SchwabGateway.Library

variable (codec : Codec) (settings : Settings) (transactions : Nat → Transaction)
  (invocations : Nat → Invocation)

def Stage.past : Stage → Bool
  | .closed => true
  | .released => true
  | _ => false

def Place.unchecked : Place → Bool
  | .idle => true
  | .waiting => true
  | .checking => true
  | _ => false

def Event.callbackCall : Event → Option Nat
  | .invoke call => some call
  | .enterGuard call => some call
  | .check call => some call
  | .validate call => some call
  | .store call => some call
  | .commit call => some call
  | .leaveGuard call => some call
  | _ => none

structure CallbacksScoped (state : State) : Prop where
  writes_locked : ∀ call, state.enabled transactions invocations (.store call) →
    state.holder = some (invocations call).transaction
  file_frame : ∀ event, state.enabled transactions invocations event →
    (state.perform codec settings transactions invocations event).file ≠ state.file →
      (∃ call, event = .store call) ∨ ∃ entry, event = .external entry
  closed_quiet : ∀ call event, (state.stage (invocations call).transaction).past = true →
    event.callbackCall = some call → state.enabled transactions invocations event →
      (state.perform codec settings transactions invocations event).file = state.file ∧
      (state.perform codec settings transactions invocations event).health = state.health
  closed_refuses : ∀ call later answer, (state.stage (invocations call).transaction).past = true →
    (state.place call).unchecked = true →
      (scopeSystem codec settings transactions invocations).Reaches Set.univ state later →
        later.place call = .answered answer →
          answer = .error (.token (.callbackScope outsideScope))
  open_reads : ∀ call, (state.stage (invocations call).transaction).active = true →
    (invocations call).action = .read → state.enabled transactions invocations (.check call) →
      ∃ current, state.latest (invocations call).transaction = some current ∧
        (state.perform codec settings transactions invocations (.check call)).place call =
          .leaving (.ok (some current))

variable {codec settings transactions invocations}

theorem active_holds (stage : Stage) (active : stage.active = true) : stage.holds = true := by
  cases stage with
  | opened => rfl
  | closing => rfl
  | _ => cases active

theorem past_inactive (stage : Stage) (past : stage.past = true) : stage.active = false := by
  cases stage with
  | closed => rfl
  | released => rfl
  | _ => cases past

theorem writes_locked (state : State) (call : Nat) (active : Active invocations state)
    (stores : (state.place call).stores = true) :
    state.holder = some (invocations call).transaction := by
  obtain ⟨refreshed, storing⟩ := stores_document _ stores
  have opened := active.works call (by rw [storing]; rfl)
  exact (active.holder _).mp (active_holds _ opened)

theorem file_kept (state : State) (event : Event)
    (changed : (state.perform codec settings transactions invocations event).file ≠ state.file) :
    (∃ call, event = .store call) ∨ ∃ entry, event = .external entry := by
  cases event with
  | store call => exact .inl ⟨call, rfl⟩
  | external entry => exact .inr ⟨entry, rfl⟩
  | load transaction =>
      simp only [State.perform, State.load] at changed
      split at changed <;> exact absurd rfl changed
  | check call =>
      simp only [State.perform, State.check] at changed
      split at changed <;> exact absurd rfl changed
  | validate call =>
      simp only [State.perform, State.validate] at changed
      split at changed
      · split at changed <;> exact absurd rfl changed
      · exact absurd rfl changed
  | commit call =>
      simp only [State.perform] at changed
      split at changed <;> exact absurd rfl changed
  | leaveGuard call =>
      simp only [State.perform] at changed
      split at changed <;> exact absurd rfl changed
  | _ => exact absurd rfl changed

theorem past_closed (state : State) (transaction : Nat) (active : Active invocations state)
    (past : (state.stage transaction).past = true) :
    (state.callbacks transaction).read = .error (.token (.callbackScope outsideScope)) := by
  have closed : (state.callbacks transaction).current = none := by
    by_contra some
    have opened := (active.active transaction).mp some
    rw [past_inactive _ past] at opened
    cases opened
  simp only [Callbacks.read, closed]

theorem check_refuses (state : State) (call : Nat) (active : Active invocations state)
    (past : (state.stage (invocations call).transaction).past = true) :
    state.check transactions invocations call =
      state.moveTo call (.leaving (.error (.token (.callbackScope outsideScope)))) := by
  simp only [State.check, past_closed state _ active past]

theorem past_idle (state : State) (call : Nat) (active : Active invocations state)
    (past : (state.stage (invocations call).transaction).past = true) :
    (state.place call).works = false := by
  cases works : (state.place call).works with
  | false => rfl
  | true =>
      have opened := active.works call works
      rw [past_inactive _ past] at opened
      cases opened

theorem closed_quiet (state : State) (call : Nat) (event : Event) (active : Active invocations state)
    (past : (state.stage (invocations call).transaction).past = true)
    (mine : event.callbackCall = some call)
    (enabled : state.enabled transactions invocations event) :
    (state.perform codec settings transactions invocations event).file = state.file ∧
      (state.perform codec settings transactions invocations event).health = state.health := by
  have idle := past_idle state call active past
  cases event with
  | invoke other => exact ⟨rfl, rfl⟩
  | enterGuard other => exact ⟨rfl, rfl⟩
  | check other =>
      cases mine
      simp only [State.perform, check_refuses state call active past]
      exact ⟨rfl, rfl⟩
  | validate other =>
      cases mine
      obtain ⟨token, validating⟩ := validates_token _ enabled.1
      simp [validating, Place.works] at idle
  | store other =>
      cases mine
      obtain ⟨refreshed, storing⟩ := stores_document _ enabled.1
      simp [storing, Place.works] at idle
  | commit other =>
      cases mine
      obtain ⟨refreshed, stored⟩ := commits_document _ enabled.1
      simp [stored, Place.works] at idle
  | leaveGuard other =>
      simp only [State.perform]
      split <;> exact ⟨rfl, rfl⟩
  | _ => cases mine

theorem place_other (state : State) (event : Event) (call : Nat)
    (foreign : event.callbackCall ≠ some call) :
    (state.perform codec settings transactions invocations event).place call = state.place call := by
  have moved : ∀ (other : Nat) (place : Place), some other ≠ some call →
      Function.update state.place other place call = state.place call := by
    intro other place different
    exact Function.update_of_ne (fun same => different (congrArg some same.symm)) ..
  cases event with
  | external entry => rfl
  | recorded manager health => rfl
  | acquire transaction => rfl
  | finish transaction => rfl
  | close transaction => rfl
  | release transaction => rfl
  | load transaction =>
      simp only [State.perform, State.load]
      split <;> rfl
  | invoke other => exact moved other _ foreign
  | enterGuard other => exact moved other _ foreign
  | check other =>
      obtain ⟨place, inward⟩ : ∃ place,
          Inward state (state.check transactions invocations other) other place :=
        check_inward state other
      exact (congrFun inward.moved call).trans (moved other place foreign)
  | validate other =>
      simp only [State.perform]
      split
      · rename_i token _
        obtain ⟨place, inward⟩ : ∃ place,
            Inward state (state.validate codec transactions invocations other token) other place :=
          validate_inward state other token
        exact (congrFun inward.moved call).trans (moved other place foreign)
      · rfl
  | store other =>
      simp only [State.perform]
      split
      · rename_i refreshed _
        obtain ⟨place, inward⟩ : ∃ place,
            Inward state (state.store codec transactions invocations other refreshed) other place :=
          store_inward state other refreshed
        exact (congrFun inward.moved call).trans (moved other place foreign)
      · rfl
  | commit other =>
      simp only [State.perform]
      split
      · exact moved other _ foreign
      · rfl
  | leaveGuard other =>
      simp only [State.perform]
      split
      · exact moved other _ foreign
      · rfl

theorem past_kept (state : State) (event : Event) (transaction : Nat)
    (past : (state.stage transaction).past = true)
    (enabled : state.enabled transactions invocations event) :
    ((state.perform codec settings transactions invocations event).stage transaction).past = true := by
  have entered : ∀ (other : Nat) (next : Stage),
      ((state.stage other).past = true → next.past = true) →
        (Function.update state.stage other next transaction).past = true := by
    intro other next still
    by_cases same : transaction = other
    · subst same
      rw [Function.update_self]
      exact still past
    · rw [Function.update_of_ne same]
      exact past
  cases event with
  | external entry => exact past
  | recorded manager health => exact past
  | acquire other =>
      apply entered other .entered
      rw [enabled.1]
      exact fun same => by cases same
  | load other =>
      have stage : state.stage other = .entered := enabled
      simp only [State.perform, State.load]
      split
      · apply entered other .failed
        rw [stage]
        exact fun same => by cases same
      · apply entered other .opened
        rw [stage]
        exact fun same => by cases same
  | finish other =>
      have stage : state.stage other = .opened := enabled
      apply entered other .closing
      rw [stage]
      exact fun same => by cases same
  | close other => exact entered other .closed (fun _ => rfl)
  | release other => exact entered other .released (fun _ => rfl)
  | invoke call => exact past
  | enterGuard call => exact past
  | check call =>
      simp only [State.perform, State.check]
      split <;> exact past
  | validate call =>
      simp only [State.perform, State.validate]
      split
      · split <;> exact past
      · exact past
  | store call =>
      simp only [State.perform, State.store]
      split
      · split <;> exact past
      · exact past
  | commit call =>
      simp only [State.perform]
      split <;> exact past
  | leaveGuard call =>
      simp only [State.perform]
      split <;> exact past

structure Refused (invocations : Nat → Invocation) (call : Nat) (state : State) : Prop where
  guarded : Guarded invocations state
  active : Active invocations state
  past : (state.stage (invocations call).transaction).past = true
  place : (state.place call).unchecked = true ∨
    state.place call = .leaving (.error (.token (.callbackScope outsideScope))) ∨
      state.place call = .answered (.error (.token (.callbackScope outsideScope)))

theorem refused_place (state : State) (call : Nat) (event : Event)
    (refused : Refused invocations call state) (mine : event.callbackCall = some call)
    (enabled : state.enabled transactions invocations event) :
    let after := state.perform codec settings transactions invocations event
    (after.place call).unchecked = true ∨
      after.place call = .leaving (.error (.token (.callbackScope outsideScope))) ∨
        after.place call = .answered (.error (.token (.callbackScope outsideScope))) := by
  have idle := past_idle state call refused.active refused.past
  cases event with
  | invoke other =>
      cases mine
      exact .inl (by simp [State.perform, State.moveTo, Place.unchecked])
  | enterGuard other =>
      cases mine
      exact .inl (by simp [State.perform, State.moveTo, Place.unchecked])
  | check other =>
      cases mine
      have same : state.check transactions invocations call = _ :=
        check_refuses state call refused.active refused.past
      exact .inr (.inl (by simp [State.perform, same, State.moveTo]))
  | validate other =>
      cases mine
      obtain ⟨token, validating⟩ := validates_token _ enabled.1
      simp [validating, Place.works] at idle
  | store other =>
      cases mine
      obtain ⟨refreshed, storing⟩ := stores_document _ enabled.1
      simp [storing, Place.works] at idle
  | commit other =>
      cases mine
      obtain ⟨refreshed, stored⟩ := commits_document _ enabled.1
      simp [stored, Place.works] at idle
  | leaveGuard other =>
      cases mine
      obtain ⟨answer, leaving⟩ := leaves_answer _ enabled.1
      rcases refused.place with unchecked | here | done
      · simp [leaving, Place.unchecked] at unchecked
      · exact .inr (.inr (by simp [State.perform, here, State.leaveGuard, State.moveTo]))
      · simp [leaving] at done
  | _ => cases mine

theorem refused_perform (state : State) (call : Nat) (event : Event)
    (refused : Refused invocations call state)
    (enabled : state.enabled transactions invocations event) :
    Refused invocations call (state.perform codec settings transactions invocations event) where
  guarded := guarded_perform state event refused.guarded enabled
  active := active_perform state event refused.guarded refused.active enabled
  past := past_kept state event _ refused.past enabled
  place := by
    by_cases mine : event.callbackCall = some call
    · exact refused_place state call event refused mine enabled
    · rw [place_other state event call mine]
      exact refused.place

theorem open_reads (state : State) (call : Nat) (guarded : Guarded invocations state)
    (active : Active invocations state)
    (opened : (state.stage (invocations call).transaction).active = true)
    (action : (invocations call).action = .read)
    (enabled : state.enabled transactions invocations (.check call)) :
    ∃ current, state.latest (invocations call).transaction = some current ∧
      (state.perform codec settings transactions invocations (.check call)).place call =
        .leaving (.ok (some current)) := by
  have checking := checks_checking _ enabled.1
  have settled := active.settled _ opened (by
    intro other refreshed mine
    by_cases same : other = call
    · rw [same, checking]
      nofun
    · exact alone state call other refreshed guarded enabled.2 (by rw [checking]; rfl) mine same)
  have some := (active.active _).mpr opened
  obtain ⟨current, shown⟩ := Option.ne_none_iff_exists'.mp some
  refine ⟨current, settled.symm.trans shown, ?_⟩
  have read : (state.callbacks (invocations call).transaction).read = .ok current := by
    simp only [Callbacks.read, shown]
  simp [State.perform, State.check, read, action, State.moveTo]

theorem callbacks_stay_in_scope (file : Option Entry) (state : State)
    (reached : (scopeSystem codec settings transactions invocations).Reaches Set.univ
      (State.start file) state) :
    CallbacksScoped codec settings transactions invocations state := by
  have kept : Guarded invocations state ∧ Active invocations state := by
    apply System.reaches_invariant _ Set.univ
      (fun state => Guarded invocations state ∧ Active invocations state) _ _ _ reached
      ⟨guarded_start file, active_start file⟩
    intro before event _ held enabled
    exact ⟨guarded_perform before event held.1 enabled,
      active_perform before event held.1 held.2 enabled⟩
  obtain ⟨guarded, active⟩ := kept
  exact
    { writes_locked := fun call enabled => writes_locked state call active enabled.1
      file_frame := fun event _ changed => file_kept state event changed
      closed_quiet := fun call event past mine enabled =>
        closed_quiet state call event active past mine enabled
      closed_refuses := by
        intro call later answer past unchecked run answered
        have refused : Refused invocations call later := by
          apply System.reaches_invariant _ Set.univ (Refused invocations call) _ _ _ run
            ⟨guarded, active, past, .inl unchecked⟩
          intro before event _ held enabled
          exact refused_perform before call event held enabled
        rcases refused.place with unchecked | leaving | done
        · simp [answered, Place.unchecked] at unchecked
        · simp [answered] at leaving
        · rw [answered] at done
          exact Place.answered.inj done
      open_reads := fun call opened action enabled =>
        open_reads state call guarded active opened action enabled }

def sampleTransactions (_transaction : Nat) : Transaction := ⟨0, 0, 10⟩

-- Thread 1 reads and writes; the read of thread 2 comes while the transaction
-- closes its callbacks.
def sampleInvocations (call : Nat) : Invocation :=
  match call with
  | 0 => ⟨0, 1, .read, none⟩
  | 1 => ⟨0, 1, .write (sampleToken 2), none⟩
  | _ => ⟨0, 2, .read, none⟩

def sampleEvents : List Event :=
  [.acquire 0, .load 0, .invoke 0, .enterGuard 0, .check 0, .leaveGuard 0, .invoke 1, .enterGuard 1,
    .check 1, .validate 1, .store 1, .invoke 2, .finish 0, .commit 1, .leaveGuard 1, .close 0,
    .enterGuard 2, .check 2, .leaveGuard 2, .release 0]

def sampleFinal : State :=
  (scopeSystem sampleCodec sampleSettings sampleTransactions sampleInvocations).performAll
    (State.start (sampleFile 1)) sampleEvents

theorem callbacks_stay_in_scope_sample :
    sampleFinal.file = sampleFile 2 ∧
      sampleFinal.place 2 = .answered (.error (.token (.callbackScope outsideScope))) ∧
        CallbacksScoped sampleCodec sampleSettings sampleTransactions sampleInvocations sampleFinal := by
  refine ⟨by decide +kernel, by rfl, ?_⟩
  apply callbacks_stay_in_scope (sampleFile 1)
  apply System.reaches_perform_all _ Set.univ _ sampleEvents (fun _ _ => trivial)
  decide +kernel

end SchwabGateway.Token.Scope
