import SchwabGateway.Token.CallbackGuard

set_option autoImplicit false

namespace SchwabGateway.Token.Scope

open SchwabGateway.Python SchwabGateway.Library

variable (invocations : Nat → Invocation)

def Stage.holds : Stage → Bool
  | .idle => false
  | .released => false
  | _ => true

def Stage.active : Stage → Bool
  | .opened => true
  | .closing => true
  | _ => false

def Stage.fresh : Stage → Bool
  | .idle => true
  | .entered => true
  | _ => false

def Place.works : Place → Bool
  | .validating _ => true
  | .storing _ => true
  | .stored _ => true
  | _ => false

def State.latest (state : State) (transaction : Nat) : Option PyValue :=
  match state.written transaction with
  | [] => state.loaded transaction
  | newest :: _ => some newest

structure Active (state : State) : Prop where
  holder : ∀ transaction, (state.stage transaction).holds = true ↔ state.holder = some transaction
  active : ∀ transaction, (state.callbacks transaction).current ≠ none ↔
    (state.stage transaction).active = true
  works : ∀ call, (state.place call).works = true →
    (state.stage (invocations call).transaction).active = true
  stored : ∀ call refreshed, state.place call = .stored refreshed →
    state.latest (invocations call).transaction = some refreshed
  settled : ∀ transaction, (state.stage transaction).active = true →
    (∀ call refreshed, (invocations call).transaction = transaction →
      state.place call ≠ .stored refreshed) →
        (state.callbacks transaction).current = state.latest transaction
  unwritten : ∀ transaction, (state.stage transaction).fresh = true → state.written transaction = []

variable {codec : Codec} {settings : Settings} {transactions : Nat → Transaction}
  {invocations : Nat → Invocation}

theorem active_start (file : Option Entry) : Active invocations (State.start file) where
  holder transaction := by simp [State.start, Stage.holds]
  active transaction := by simp [State.start, Stage.active]
  works call works := by cases works
  stored call refreshed place := by cases place
  settled transaction active := by cases active
  unwritten _ _ := rfl

theorem alone (state : State) (call other : Nat) (refreshed : PyValue)
    (guarded : Guarded invocations state) (clear : state.clear invocations call)
    (within : (state.place call).inside = true)
    (same : (invocations other).transaction = (invocations call).transaction)
    (different : other ≠ call) : state.place other ≠ .stored refreshed := by
  intro stored
  have mine := (guarded.guard_iff (invocations call).transaction call).mpr ⟨rfl, within⟩
  have theirs := (guarded.guard_iff (invocations call).transaction other).mpr
    ⟨same, by rw [stored]; rfl⟩
  have running := (guarded.running_iff other).mpr (by rw [stored]; rfl)
  have validates := clear other running different (guarded.one_thread _ other call theirs mine)
  rw [stored] at validates
  cases validates

theorem latest_frame (before after : State) (transaction : Nat)
    (loaded : after.loaded transaction = before.loaded transaction)
    (written : after.written transaction = before.written transaction) :
    after.latest transaction = before.latest transaction := by
  simp only [State.latest, loaded, written]

theorem active_move (before after : State) (call : Nat) (place : Place)
    (active : Active invocations before)
    (moved : after.place = Function.update before.place call place)
    (stage : after.stage = before.stage) (holder : after.holder = before.holder)
    (callbacks : after.callbacks = before.callbacks) (loaded : after.loaded = before.loaded)
    (written : after.written = before.written)
    (unstored : ∀ refreshed, before.place call ≠ .stored refreshed)
    (still : ∀ refreshed, place ≠ .stored refreshed)
    (works : place.works = true → (before.stage (invocations call).transaction).active = true) :
    Active invocations after where
  holder := by
    rw [stage, holder]
    exact active.holder
  active := by
    rw [stage, callbacks]
    exact active.active
  works other busy := by
    rw [stage]
    rw [moved] at busy
    by_cases same : other = call
    · subst same
      rw [Function.update_self] at busy
      exact works busy
    · rw [Function.update_of_ne same] at busy
      exact active.works other busy
  stored other refreshed here := by
    rw [latest_frame before after _ (by rw [loaded]) (by rw [written])]
    rw [moved] at here
    by_cases same : other = call
    · subst same
      rw [Function.update_self] at here
      exact absurd here (still refreshed)
    · rw [Function.update_of_ne same] at here
      exact active.stored other refreshed here
  settled transaction opened none := by
    rw [callbacks, latest_frame before after _ (by rw [loaded]) (by rw [written])]
    rw [stage] at opened
    apply active.settled transaction opened
    intro other refreshed mine here
    by_cases same : other = call
    · subst same
      exact unstored refreshed here
    · apply none other refreshed mine
      rw [moved, Function.update_of_ne same]
      exact here
  unwritten := by
    rw [stage, written]
    exact active.unwritten

theorem active_check (state : State) (call : Nat) (active : Active invocations state)
    (checking : state.place call = .checking) :
    Active invocations (state.check transactions invocations call) := by
  unfold State.check
  dsimp only
  cases callbacks : (state.callbacks (invocations call).transaction).current with
  | none =>
      have read : (state.callbacks (invocations call).transaction).read =
          .error (.token (.callbackScope outsideScope)) := by
        simp only [Callbacks.read, callbacks]
      rw [read]
      exact active_move state _ call _ active rfl rfl rfl rfl rfl rfl (by simp [checking])
        (by simp) (by simp [Place.works])
  | some current =>
      have read : (state.callbacks (invocations call).transaction).read = .ok current := by
        simp only [Callbacks.read, callbacks]
      have opened := (active.active (invocations call).transaction).mp (by simp [callbacks])
      rw [read]
      cases (invocations call).action with
      | read =>
          exact active_move state _ call _ active rfl rfl rfl rfl rfl rfl (by simp [checking])
            (by simp) (by simp [Place.works])
      | write token =>
          exact active_move state _ call _ active rfl rfl rfl rfl rfl rfl (by simp [checking])
            (by simp) (fun _ => opened)

theorem active_validate (state : State) (call : Nat) (token : PyValue)
    (active : Active invocations state) (validating : state.place call = .validating token) :
    Active invocations (state.validate codec transactions invocations call token) := by
  have opened := active.works call (by rw [validating]; rfl)
  unfold State.validate
  cases validateTokenDocument codec token with
  | error error =>
      exact active_move state _ call _ active rfl rfl rfl rfl rfl rfl (by simp [validating])
        (by simp) (by simp [Place.works])
  | ok refreshed =>
      exact active_move state _ call _ active rfl rfl rfl rfl rfl rfl (by simp [validating])
        (by simp) (fun _ => opened)

theorem active_stored (before after : State) (call : Nat) (refreshed : PyValue)
    (guarded : Guarded invocations before) (active : Active invocations before)
    (clear : before.clear invocations call) (storing : before.place call = .storing refreshed)
    (moved : after.place = Function.update before.place call (.stored refreshed))
    (stage : after.stage = before.stage) (holder : after.holder = before.holder)
    (callbacks : after.callbacks = before.callbacks) (loaded : after.loaded = before.loaded)
    (written : after.written = Function.update before.written (invocations call).transaction
      (refreshed :: before.written (invocations call).transaction)) :
    Active invocations after where
  holder := by
    rw [stage, holder]
    exact active.holder
  active := by
    rw [stage, callbacks]
    exact active.active
  works other busy := by
    rw [stage]
    rw [moved] at busy
    by_cases same : other = call
    · subst same
      exact active.works other (by rw [storing]; rfl)
    · rw [Function.update_of_ne same] at busy
      exact active.works other busy
  stored other document here := by
    rw [moved] at here
    by_cases same : other = call
    · subst same
      rw [Function.update_self] at here
      cases here
      simp [State.latest, written]
    · rw [Function.update_of_ne same] at here
      have foreign : (invocations other).transaction ≠ (invocations call).transaction := by
        intro mine
        exact alone before call other document guarded clear (by rw [storing]; rfl) mine same here
      rw [latest_frame before after _ (by rw [loaded])
        (by rw [written, Function.update_of_ne foreign])]
      exact active.stored other document here
  settled transaction opened none := by
    have foreign : transaction ≠ (invocations call).transaction := by
      rintro rfl
      exact none call refreshed rfl (by rw [moved, Function.update_self])
    rw [callbacks, latest_frame before after _ (by rw [loaded])
      (by rw [written, Function.update_of_ne foreign])]
    rw [stage] at opened
    apply active.settled transaction opened
    intro other document mine here
    have different : other ≠ call := by
      rintro rfl
      exact foreign mine.symm
    apply none other document mine
    rw [moved, Function.update_of_ne different]
    exact here
  unwritten transaction fresh := by
    rw [stage] at fresh
    have foreign : transaction ≠ (invocations call).transaction := by
      rintro rfl
      have opened := active.works call (by rw [storing]; rfl)
      cases here : before.stage (invocations call).transaction <;>
        simp_all [Stage.active, Stage.fresh]
    rw [written, Function.update_of_ne foreign]
    exact active.unwritten transaction fresh

theorem active_store (state : State) (call : Nat) (refreshed : PyValue)
    (guarded : Guarded invocations state) (active : Active invocations state)
    (clear : state.clear invocations call) (storing : state.place call = .storing refreshed) :
    Active invocations (state.store codec transactions invocations call refreshed) := by
  unfold State.store
  dsimp only
  split
  · exact active_move state _ call _ active rfl rfl rfl rfl rfl rfl (by simp [storing])
      (by simp) (by simp [Place.works])
  · exact active_stored state _ call refreshed guarded active clear storing rfl rfl rfl rfl rfl rfl

theorem active_commit (state : State) (call : Nat) (refreshed : PyValue)
    (active : Active invocations state) (stored : state.place call = .stored refreshed) :
    Active invocations (state.commit transactions invocations call refreshed) where
  holder := active.holder
  active transaction := by
    change (Function.update state.callbacks _ _ transaction).current ≠ none ↔ _
    by_cases mine : transaction = (invocations call).transaction
    · subst mine
      have opened := active.works call (by rw [stored]; rfl)
      rw [Function.update_self]
      exact ⟨fun _ => opened, fun _ => by simp⟩
    · rw [Function.update_of_ne mine]
      exact active.active transaction
  works other busy := by
    change (Function.update state.place call _ other).works = true at busy
    by_cases same : other = call
    · rw [same, Function.update_self] at busy
      cases busy
    · rw [Function.update_of_ne same] at busy
      exact active.works other busy
  stored other document here := by
    change Function.update state.place call _ other = _ at here
    by_cases same : other = call
    · rw [same, Function.update_self] at here
      cases here
    · rw [Function.update_of_ne same] at here
      exact active.stored other document here
  settled transaction opened none := by
    change (Function.update state.callbacks _ _ transaction).current = state.latest transaction
    by_cases mine : transaction = (invocations call).transaction
    · subst mine
      rw [Function.update_self]
      exact (active.stored call refreshed stored).symm
    · rw [Function.update_of_ne mine]
      apply active.settled transaction opened
      intro other document own here
      have different : other ≠ call := by
        rintro rfl
        exact mine own.symm
      apply none other document own
      change Function.update state.place call _ other = _
      rw [Function.update_of_ne different]
      exact here
  unwritten := active.unwritten

theorem active_enter (before after : State) (transaction : Nat) (next : Stage)
    (active : Active invocations before)
    (stage : after.stage = Function.update before.stage transaction next)
    (place : after.place = before.place) (callbacks : after.callbacks = before.callbacks)
    (loaded : after.loaded = before.loaded) (written : after.written = before.written)
    (holder : ∀ other, (after.stage other).holds = true ↔ after.holder = some other)
    (same : next.active = (before.stage transaction).active)
    (fresh : next.fresh = true → (before.stage transaction).fresh = true) :
    Active invocations after := by
  have kept : ∀ other, (after.stage other).active = (before.stage other).active := by
    intro other
    rw [stage]
    by_cases mine : other = transaction
    · rw [mine, Function.update_self, same]
    · rw [Function.update_of_ne mine]
  exact
    { holder := holder
      active := by
        intro other
        rw [callbacks, kept]
        exact active.active other
      works := by
        intro call busy
        rw [kept]
        rw [place] at busy
        exact active.works call busy
      stored := by
        intro call refreshed here
        rw [latest_frame before after _ (by rw [loaded]) (by rw [written])]
        rw [place] at here
        exact active.stored call refreshed here
      settled := by
        intro other opened none
        rw [callbacks, latest_frame before after _ (by rw [loaded]) (by rw [written])]
        rw [kept] at opened
        rw [place] at none
        exact active.settled other opened none
      unwritten := by
        intro other unused
        rw [written]
        rw [stage] at unused
        by_cases mine : other = transaction
        · subst mine
          rw [Function.update_self] at unused
          exact active.unwritten other (fresh unused)
        · rw [Function.update_of_ne mine] at unused
          exact active.unwritten other unused }

theorem holder_kept (before : State) (transaction : Nat) (next : Stage)
    (active : Active invocations before)
    (holds : (before.stage transaction).holds = true) (still : next.holds = true) (other : Nat) :
    ((Function.update before.stage transaction next) other).holds = true ↔
      before.holder = some other := by
  rw [← active.holder other]
  by_cases mine : other = transaction
  · rw [mine, Function.update_self, holds, still]
  · rw [Function.update_of_ne mine]

theorem holder_acquired (before : State) (transaction other : Nat)
    (active : Active invocations before) (free : before.holder = none) :
    ((Function.update before.stage transaction .entered) other).holds = true ↔
      some transaction = some other := by
  by_cases mine : other = transaction
  · simp [mine, Stage.holds]
  · have outside : ¬ (before.stage other).holds = true := by
      rw [active.holder other, free]
      nofun
    rw [Function.update_of_ne mine]
    simp [outside, Ne.symm mine]

theorem holder_released (before : State) (transaction other : Nat)
    (active : Active invocations before) (holds : (before.stage transaction).holds = true) :
    ((Function.update before.stage transaction .released) other).holds = true ↔
      (none : Option Nat) = some other := by
  by_cases mine : other = transaction
  · simp [mine, Stage.holds]
  · have held := (active.holder transaction).mp holds
    have outside : ¬ (before.stage other).holds = true := by
      rw [active.holder other, held]
      simpa using Ne.symm mine
    rw [Function.update_of_ne mine]
    simp [outside]

theorem active_opened (before after : State) (transaction : Nat) (current : PyValue)
    (active : Active invocations before) (entered : before.stage transaction = .entered)
    (stage : after.stage = Function.update before.stage transaction .opened)
    (holder : after.holder = before.holder) (place : after.place = before.place)
    (callbacks : after.callbacks = Function.update before.callbacks transaction ⟨some current⟩)
    (loaded : after.loaded = Function.update before.loaded transaction (some current))
    (written : after.written = before.written) : Active invocations after := by
  have unused : ∀ call, (before.place call).works = true →
      (invocations call).transaction ≠ transaction := by
    rintro call busy rfl
    have opened := active.works call busy
    rw [entered] at opened
    cases opened
  exact
    { holder := by
        intro other
        rw [stage, holder]
        exact holder_kept before transaction .opened active (by rw [entered]; rfl) rfl other
      active := by
        intro other
        rw [stage, callbacks]
        by_cases mine : other = transaction
        · subst mine
          simp [Stage.active]
        · rw [Function.update_of_ne mine, Function.update_of_ne mine]
          exact active.active other
      works := by
        intro call busy
        rw [place] at busy
        rw [stage, Function.update_of_ne (unused call busy)]
        exact active.works call busy
      stored := by
        intro call refreshed here
        rw [place] at here
        have foreign := unused call (by rw [here]; rfl)
        rw [latest_frame before after _ (by rw [loaded, Function.update_of_ne foreign])
          (by rw [written])]
        exact active.stored call refreshed here
      settled := by
        intro other opened none
        rw [callbacks]
        by_cases mine : other = transaction
        · subst mine
          have unwritten := active.unwritten other (by rw [entered]; rfl)
          simp [State.latest, written, unwritten, loaded]
        · rw [Function.update_of_ne mine,
            latest_frame before after _ (by rw [loaded, Function.update_of_ne mine]) (by rw [written])]
          rw [stage, Function.update_of_ne mine] at opened
          rw [place] at none
          exact active.settled other opened none
      unwritten := by
        intro other fresh
        rw [written]
        rw [stage] at fresh
        by_cases mine : other = transaction
        · subst mine
          rw [Function.update_self] at fresh
          cases fresh
        · rw [Function.update_of_ne mine] at fresh
          exact active.unwritten other fresh }

-- Whoever closes the callbacks has the guard, so no call is at work on them.
theorem close_alone (state : State) (transaction call : Nat) (guarded : Guarded invocations state)
    (free : ∀ call ∈ state.running, (invocations call).thread ≠ (transactions transaction).thread)
    (acquirable : ∀ call ∈ state.guard transaction,
      (invocations call).thread = (transactions transaction).thread)
    (mine : (invocations call).transaction = transaction) : (state.place call).inside = false := by
  cases within : (state.place call).inside with
  | false => rfl
  | true =>
      have member := (guarded.guard_iff transaction call).mpr ⟨mine, within⟩
      have running := (guarded.running_iff call).mpr (by
        cases here : state.place call <;> simp_all [Place.inside, Place.runs])
      exact absurd (acquirable call member) (free call running)

theorem active_close (state : State) (transaction : Nat) (guarded : Guarded invocations state)
    (active : Active invocations state)
    (enabled : state.enabled transactions invocations (.close transaction)) :
    Active invocations (state.close transaction) := by
  obtain ⟨closing, free, acquirable⟩ := enabled
  have unused : ∀ call, (state.place call).works = true →
      (invocations call).transaction ≠ transaction := by
    intro call busy mine
    have outside := close_alone state transaction call guarded free acquirable mine
    cases here : state.place call <;> simp_all [Place.works, Place.inside]
  exact
    { holder := by
        intro other
        exact holder_kept state transaction .closed active (by rw [closing]; rfl) rfl other
      active := by
        intro other
        simp only [State.close, State.enter]
        by_cases mine : other = transaction
        · subst mine
          simp [Callbacks.close, Stage.active]
        · rw [Function.update_of_ne mine, Function.update_of_ne mine]
          exact active.active other
      works := by
        intro call busy
        simp only [State.close, State.enter]
        rw [Function.update_of_ne (unused call busy)]
        exact active.works call busy
      stored := active.stored
      settled := by
        intro other opened none
        simp only [State.close, State.enter] at opened ⊢
        by_cases mine : other = transaction
        · subst mine
          rw [Function.update_self] at opened
          cases opened
        · rw [Function.update_of_ne mine] at opened ⊢
          exact active.settled other opened none
      unwritten := by
        intro other fresh
        simp only [State.close, State.enter] at fresh
        by_cases mine : other = transaction
        · subst mine
          rw [Function.update_self] at fresh
          cases fresh
        · rw [Function.update_of_ne mine] at fresh
          exact active.unwritten other fresh }

theorem active_load (state : State) (transaction : Nat) (active : Active invocations state)
    (entered : state.stage transaction = .entered) :
    Active invocations (state.load codec settings transactions transaction) := by
  unfold State.load
  split
  · refine active_enter state _ transaction .failed active rfl rfl rfl rfl rfl ?_ ?_ ?_
    · exact holder_kept state transaction .failed active (by rw [entered]; rfl) rfl
    · rw [entered]
      rfl
    · nofun
  · exact active_opened state _ transaction _ active entered rfl rfl rfl rfl rfl rfl

theorem active_perform (state : State) (event : Event) (guarded : Guarded invocations state)
    (active : Active invocations state)
    (enabled : state.enabled transactions invocations event) :
    Active invocations (state.perform codec settings transactions invocations event) := by
  cases event with
  | external entry =>
      exact ⟨active.holder, active.active, active.works, active.stored, active.settled,
        active.unwritten⟩
  | recorded manager health =>
      exact ⟨active.holder, active.active, active.works, active.stored, active.settled,
        active.unwritten⟩
  | acquire transaction =>
      refine active_enter state _ transaction .entered active rfl rfl rfl rfl rfl ?_ ?_ ?_
      · exact fun other => holder_acquired state transaction other active enabled.2
      · rw [enabled.1]
        rfl
      · rw [enabled.1]
        exact fun _ => rfl
  | load transaction => exact active_load state transaction active enabled
  | finish transaction =>
      have opened : state.stage transaction = .opened := enabled
      refine active_enter state _ transaction .closing active rfl rfl rfl rfl rfl ?_ ?_ ?_
      · exact holder_kept state transaction .closing active (by rw [opened]; rfl) rfl
      · rw [opened]
        rfl
      · nofun
  | close transaction => exact active_close state transaction guarded active enabled
  | release transaction =>
      refine active_enter state _ transaction .released active rfl rfl rfl rfl rfl ?_ ?_ ?_
      · intro other
        apply holder_released state transaction other active
        cases enabled with
        | inl closed => rw [closed]; rfl
        | inr failed => rw [failed]; rfl
      · cases enabled with
        | inl closed => rw [closed]; rfl
        | inr failed => rw [failed]; rfl
      · nofun
  | invoke call =>
      have idle := unmade_idle _ enabled.1
      exact active_move state _ call .waiting active rfl rfl rfl rfl rfl rfl (by simp [idle])
        (by simp) (by simp [Place.works])
  | enterGuard call =>
      have waiting := waits_waiting _ enabled.1
      exact active_move state _ call .checking active rfl rfl rfl rfl rfl rfl (by simp [waiting])
        (by simp) (by simp [Place.works])
  | check call => exact active_check state call active (checks_checking _ enabled.1)
  | validate call =>
      obtain ⟨token, validating⟩ := validates_token _ enabled.1
      simp only [State.perform, validating]
      exact active_validate state call token active validating
  | store call =>
      obtain ⟨refreshed, storing⟩ := stores_document _ enabled.1
      simp only [State.perform, storing]
      exact active_store state call refreshed guarded active enabled.2 storing
  | commit call =>
      obtain ⟨refreshed, stored⟩ := commits_document _ enabled.1
      simp only [State.perform, stored]
      exact active_commit state call refreshed active stored
  | leaveGuard call =>
      obtain ⟨answer, leaving⟩ := leaves_answer _ enabled.1
      simp only [State.perform, leaving]
      exact active_move state _ call (.answered answer) active rfl rfl rfl rfl rfl rfl
        (by simp [leaving]) (by simp) (by simp [Place.works])

end SchwabGateway.Token.Scope
