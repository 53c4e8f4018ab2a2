import SchwabGateway.Library.Tables
import SchwabGateway.Token.ScopedCallbacks

set_option autoImplicit false

namespace SchwabGateway.Token.Scope

open SchwabGateway.Python SchwabGateway.Library

variable (invocations : Nat → Invocation)

def Place.runs : Place → Bool
  | .idle => false
  | .answered _ => false
  | _ => true

def Place.inside : Place → Bool
  | .idle => false
  | .waiting => false
  | .answered _ => false
  | _ => true

theorem inside_runs (place : Place) (inside : place.inside = true) : place.runs = true := by
  cases place <;> simp_all [Place.inside, Place.runs]

-- The guard keeps the calls of all threads but one out, and the transaction's
-- own thread from closing the callbacks.
structure Guarded (state : State) : Prop where
  guard_iff : ∀ transaction call, call ∈ state.guard transaction ↔
    (invocations call).transaction = transaction ∧ (state.place call).inside = true
  running_iff : ∀ call, call ∈ state.running ↔ (state.place call).runs = true
  one_thread : ∀ transaction first second, first ∈ state.guard transaction →
    second ∈ state.guard transaction → (invocations first).thread = (invocations second).thread
  nested : ∀ first second, first ∈ state.running → second ∈ state.running → first ≠ second →
    (invocations first).thread = (invocations second).thread →
      (state.place first).validates = true ∨ (state.place second).validates = true

variable {codec : Codec} {settings : Settings} {transactions : Nat → Transaction}
  {invocations : Nat → Invocation}

theorem guarded_start (file : Option Entry) : Guarded invocations (State.start file) where
  guard_iff transaction call := by simp [State.start, Place.inside]
  running_iff call := by simp [State.start, Place.runs]
  one_thread transaction first second left := by cases left
  nested first second left := by cases left

theorem guarded_frame (before after : State) (guarded : Guarded invocations before)
    (guard : after.guard = before.guard) (running : after.running = before.running)
    (place : after.place = before.place) : Guarded invocations after where
  guard_iff := by
    rw [guard, place]
    exact guarded.guard_iff
  running_iff := by
    rw [running, place]
    exact guarded.running_iff
  one_thread := by
    rw [guard]
    exact guarded.one_thread
  nested := by
    rw [running, place]
    exact guarded.nested

theorem nested_step (before after : State) (call : Nat) (guarded : Guarded invocations before)
    (clear : before.clear invocations call)
    (running : ∀ other, other ≠ call → other ∈ after.running → other ∈ before.running)
    (place : ∀ other, other ≠ call → after.place other = before.place other) (first second : Nat)
    (left : first ∈ after.running) (right : second ∈ after.running) (different : first ≠ second)
    (same : (invocations first).thread = (invocations second).thread) :
    (after.place first).validates = true ∨ (after.place second).validates = true := by
  by_cases here : first = call
  · subst here
    have other := Ne.symm different
    rw [place second other]
    exact .inr (clear second (running second other right) other same.symm)
  · by_cases there : second = call
    · subst there
      rw [place first different]
      exact .inl (clear first (running first different left) different same)
    · rw [place first here, place second there]
      exact guarded.nested first second (running first here left) (running second there right)
        different same

structure Inward (before after : State) (call : Nat) (place : Place) : Prop where
  inside : place.inside = true
  guard : after.guard = before.guard
  running : after.running = before.running
  moved : after.place = Function.update before.place call place
  stage : after.stage = before.stage
  holder : after.holder = before.holder
  loaded : after.loaded = before.loaded

theorem check_inward (state : State) (call : Nat) :
    ∃ place, Inward state (state.check transactions invocations call) call place := by
  unfold State.check
  dsimp only
  split
  · exact ⟨_, rfl, rfl, rfl, rfl, rfl, rfl, rfl⟩
  · exact ⟨_, rfl, rfl, rfl, rfl, rfl, rfl, rfl⟩
  · exact ⟨_, rfl, rfl, rfl, rfl, rfl, rfl, rfl⟩

theorem validate_inward (state : State) (call : Nat) (token : PyValue) :
    ∃ place, Inward state (state.validate codec transactions invocations call token) call place := by
  unfold State.validate
  split
  · exact ⟨_, rfl, rfl, rfl, rfl, rfl, rfl, rfl⟩
  · exact ⟨_, rfl, rfl, rfl, rfl, rfl, rfl, rfl⟩

theorem store_inward (state : State) (call : Nat) (refreshed : PyValue) :
    ∃ place, Inward state (state.store codec transactions invocations call refreshed) call place := by
  unfold State.store
  dsimp only
  split
  · exact ⟨_, rfl, rfl, rfl, rfl, rfl, rfl, rfl⟩
  · exact ⟨_, rfl, rfl, rfl, rfl, rfl, rfl, rfl⟩

theorem commit_inward (state : State) (call : Nat) (refreshed : PyValue) :
    ∃ place, Inward state (state.commit transactions invocations call refreshed) call place :=
  ⟨_, rfl, rfl, rfl, rfl, rfl, rfl, rfl⟩

theorem guarded_inside (before after : State) (call : Nat) (place : Place)
    (guarded : Guarded invocations before) (clear : before.clear invocations call)
    (within : (before.place call).inside = true) (inward : Inward before after call place) :
    Guarded invocations after where
  guard_iff transaction other := by
    rw [inward.guard, guarded.guard_iff, inward.moved,
      entry_kept before.place Place.inside call place (inward.inside.trans within.symm)]
  running_iff other := by
    have runs : place.runs = (before.place call).runs :=
      (inside_runs place inward.inside).trans (inside_runs _ within).symm
    rw [inward.running, guarded.running_iff, inward.moved, entry_kept before.place Place.runs call place runs]
  one_thread := by
    rw [inward.guard]
    exact guarded.one_thread
  nested := by
    apply nested_step before after call guarded clear
    · intro other _ member
      rwa [inward.running] at member
    · intro other different
      rw [inward.moved, Function.update_of_ne different]

theorem guarded_invoke (state : State) (call : Nat) (guarded : Guarded invocations state)
    (idle : state.place call = .idle) (clear : state.clear invocations call) :
    Guarded invocations (state.perform codec settings transactions invocations (.invoke call)) where
  guard_iff transaction other := by
    change other ∈ state.guard transaction ↔ _ ∧ (Function.update state.place call _ other).inside = true
    have outside : Place.inside .waiting = (state.place call).inside := by rw [idle]; rfl
    rw [guarded.guard_iff, entry_kept state.place Place.inside call _ outside]
  running_iff other := by
    change other ∈ call :: state.running ↔ (Function.update state.place call _ other).runs = true
    rw [List.mem_cons, guarded.running_iff]
    by_cases same : other = call
    · simp [same, Place.runs]
    · simp [same]
  one_thread := guarded.one_thread
  nested := by
    apply nested_step state _ call guarded clear
    · intro other different member
      exact (List.mem_cons.mp member).resolve_left different
    · intro other different
      exact Function.update_of_ne different ..

theorem guarded_enter (state : State) (call : Nat) (guarded : Guarded invocations state)
    (waiting : state.place call = .waiting) (clear : state.clear invocations call)
    (acquirable : ∀ other ∈ state.guard (invocations call).transaction,
      (invocations other).thread = (invocations call).thread) :
    Guarded invocations
      (state.perform codec settings transactions invocations (.enterGuard call)) where
  guard_iff transaction other := by
    change other ∈ Function.update state.guard _ _ transaction ↔
      _ ∧ (Function.update state.place call _ other).inside = true
    by_cases mine : transaction = (invocations call).transaction
    · subst mine
      rw [Function.update_self, List.mem_cons, guarded.guard_iff]
      by_cases same : other = call
      · simp [same, Place.inside]
      · simp [same]
    · rw [Function.update_of_ne mine, guarded.guard_iff]
      by_cases same : other = call
      · simp [same, Ne.symm mine]
      · rw [Function.update_of_ne same]
  running_iff other := by
    change other ∈ state.running ↔ (Function.update state.place call _ other).runs = true
    have runs : Place.runs .checking = (state.place call).runs := by rw [waiting]; rfl
    rw [guarded.running_iff, entry_kept state.place Place.runs call _ runs]
  one_thread transaction first second left right := by
    change first ∈ Function.update state.guard _ _ transaction at left
    change second ∈ Function.update state.guard _ _ transaction at right
    by_cases mine : transaction = (invocations call).transaction
    · subst mine
      rw [Function.update_self] at left right
      have threads : ∀ other ∈ call :: state.guard (invocations call).transaction,
          (invocations other).thread = (invocations call).thread := by
        intro other member
        cases List.mem_cons.mp member with
        | inl same => rw [same]
        | inr earlier => exact acquirable other earlier
      rw [threads first left, threads second right]
    · rw [Function.update_of_ne mine] at left right
      exact guarded.one_thread transaction first second left right
  nested := by
    apply nested_step state _ call guarded clear
    · intro other _ member
      exact member
    · intro other different
      exact Function.update_of_ne different ..

theorem guarded_leave (state : State) (call : Nat) (answer : Answer)
    (guarded : Guarded invocations state) (clear : state.clear invocations call) :
    Guarded invocations (state.leaveGuard invocations call answer) where
  guard_iff transaction other := by
    change other ∈ Function.update state.guard _ _ transaction ↔
      _ ∧ (Function.update state.place call _ other).inside = true
    by_cases mine : transaction = (invocations call).transaction
    · subst mine
      rw [Function.update_self, List.mem_filter, guarded.guard_iff]
      by_cases same : other = call
      · simp [same, Place.inside]
      · simp [same]
    · rw [Function.update_of_ne mine, guarded.guard_iff]
      by_cases same : other = call
      · simp [same, Ne.symm mine]
      · rw [Function.update_of_ne same]
  running_iff other := by
    change other ∈ state.running.filter _ ↔ (Function.update state.place call _ other).runs = true
    rw [List.mem_filter, guarded.running_iff]
    by_cases same : other = call
    · simp [same, Place.runs]
    · simp [same]
  one_thread transaction first second left right := by
    have kept : ∀ other, other ∈ (state.leaveGuard invocations call answer).guard transaction →
        other ∈ state.guard transaction := by
      intro other member
      change other ∈ Function.update state.guard _ _ transaction at member
      by_cases mine : transaction = (invocations call).transaction
      · subst mine
        rw [Function.update_self] at member
        exact (List.mem_filter.mp member).1
      · rwa [Function.update_of_ne mine] at member
    exact guarded.one_thread transaction first second (kept first left) (kept second right)
  nested := by
    apply nested_step state _ call guarded clear
    · intro other _ member
      exact (List.mem_filter.mp member).1
    · intro other different
      exact Function.update_of_ne different ..

theorem guarded_perform (state : State) (event : Event) (guarded : Guarded invocations state)
    (enabled : state.enabled transactions invocations event) :
    Guarded invocations (state.perform codec settings transactions invocations event) := by
  cases event with
  | external entry => exact guarded_frame state _ guarded rfl rfl rfl
  | recorded manager health => exact guarded_frame state _ guarded rfl rfl rfl
  | acquire transaction => exact guarded_frame state _ guarded rfl rfl rfl
  | load transaction =>
      apply guarded_frame state _ guarded <;>
        (simp only [State.perform, State.load]; split <;> rfl)
  | finish transaction => exact guarded_frame state _ guarded rfl rfl rfl
  | close transaction => exact guarded_frame state _ guarded rfl rfl rfl
  | release transaction => exact guarded_frame state _ guarded rfl rfl rfl
  | invoke call => exact guarded_invoke state call guarded (unmade_idle _ enabled.1) enabled.2.2
  | enterGuard call => exact guarded_enter state call guarded (waits_waiting _ enabled.1) enabled.2.1 enabled.2.2
  | check call =>
      obtain ⟨place, inward⟩ := check_inward state call
      exact guarded_inside state _ call place guarded enabled.2
        (by rw [checks_checking _ enabled.1]; rfl) inward
  | validate call =>
      obtain ⟨token, validating⟩ := validates_token _ enabled.1
      obtain ⟨place, inward⟩ := validate_inward state call token
      simp only [State.perform, validating]
      exact guarded_inside state _ call place guarded enabled.2 (by rw [validating]; rfl) inward
  | store call =>
      obtain ⟨refreshed, storing⟩ := stores_document _ enabled.1
      obtain ⟨place, inward⟩ := store_inward state call refreshed
      simp only [State.perform, storing]
      exact guarded_inside state _ call place guarded enabled.2 (by rw [storing]; rfl) inward
  | commit call =>
      obtain ⟨refreshed, stored⟩ := commits_document _ enabled.1
      obtain ⟨place, inward⟩ := commit_inward state call refreshed
      simp only [State.perform, stored]
      exact guarded_inside state _ call place guarded enabled.2 (by rw [stored]; rfl) inward
  | leaveGuard call =>
      obtain ⟨answer, leaving⟩ := leaves_answer _ enabled.1
      simp only [State.perform, leaving]
      exact guarded_leave state call answer guarded enabled.2

end SchwabGateway.Token.Scope
