import Mathlib.Logic.Relation
import Mathlib.Data.Set.Basic

set_option autoImplicit false

namespace SchwabGateway.Library

-- A system gives every event a guard and an effect. Which events the
-- environment may use is a separate set, so one model serves several laws.
structure System (σ ε : Type) where
  enabled : σ → ε → Prop
  perform : σ → ε → σ

variable {σ τ ε φ : Type}

namespace System

def Step (sys : System σ ε) (allowed : Set ε) (before after : σ) : Prop :=
  ∃ event, event ∈ allowed ∧ sys.enabled before event ∧ after = sys.perform before event

def Reaches (sys : System σ ε) (allowed : Set ε) : σ → σ → Prop :=
  Relation.ReflTransGen (sys.Step allowed)

theorem reaches_perform (sys : System σ ε) (allowed : Set ε) (start state : σ) (event : ε)
    (reached : sys.Reaches allowed start state) (member : event ∈ allowed)
    (guard : sys.enabled state event) : sys.Reaches allowed start (sys.perform state event) :=
  reached.tail ⟨event, member, guard, rfl⟩

theorem reaches_wider (sys : System σ ε) (narrow wide : Set ε) (wider : narrow ⊆ wide) (start state : σ)
    (reached : sys.Reaches narrow start state) : sys.Reaches wide start state := by
  induction reached with
  | refl => exact .refl
  | tail _ step ih =>
      obtain ⟨event, member, guard, same⟩ := step
      exact ih.tail ⟨event, wider member, guard, same⟩

theorem reaches_invariant (sys : System σ ε) (allowed : Set ε) (invariant : σ → Prop)
    (preserved : ∀ state event, event ∈ allowed → invariant state → sys.enabled state event →
      invariant (sys.perform state event))
    (start final : σ) (reached : sys.Reaches allowed start final) (initially : invariant start) :
    invariant final := by
  induction reached with
  | refl => exact initially
  | tail _ step ih =>
      obtain ⟨event, member, guard, rfl⟩ := step
      exact preserved _ event member ih guard

-- A reflexive and transitive relation that every single step respects holds
-- between the two ends of any run that stays inside the invariant.
theorem reaches_related (sys : System σ ε) (allowed : Set ε) (invariant : σ → Prop)
    (related : σ → σ → Prop) (reflexive : ∀ state, related state state)
    (transitive : ∀ a b c, related a b → related b c → related a c)
    (preserved : ∀ state event, event ∈ allowed → invariant state → sys.enabled state event →
      invariant (sys.perform state event))
    (respected : ∀ state event, event ∈ allowed → invariant state → sys.enabled state event →
      related state (sys.perform state event))
    (start final : σ) (reached : sys.Reaches allowed start final) (initially : invariant start) :
    related start final := by
  induction reached with
  | refl => exact reflexive start
  | @tail middle _ earlier step ih =>
      obtain ⟨event, member, guard, rfl⟩ := step
      have held := sys.reaches_invariant allowed invariant preserved start middle earlier initially
      exact transitive _ _ _ ih (respected middle event member held guard)

theorem reaches_project (sys : System σ ε) (other : System τ φ) (allowed : Set ε) (visible : Set φ)
    (project : σ → τ) (invariant : σ → Prop)
    (preserved : ∀ state event, event ∈ allowed → invariant state → sys.enabled state event →
      invariant (sys.perform state event))
    (simulated : ∀ state event, event ∈ allowed → invariant state → sys.enabled state event →
      other.Reaches visible (project state) (project (sys.perform state event)))
    (start final : σ) (reached : sys.Reaches allowed start final) (initially : invariant start) :
    other.Reaches visible (project start) (project final) :=
  sys.reaches_related allowed invariant (fun a b => other.Reaches visible (project a) (project b))
    (fun _ => .refl) (fun _ _ _ first second => first.trans second) preserved simulated
    start final reached initially

def performAll (sys : System σ ε) : σ → List ε → σ
  | state, [] => state
  | state, event :: rest => sys.performAll (sys.perform state event) rest

def EnabledAll (sys : System σ ε) : σ → List ε → Prop
  | _, [] => True
  | state, event :: rest => sys.enabled state event ∧ sys.EnabledAll (sys.perform state event) rest

instance decidableEnabledAll (sys : System σ ε) [∀ state event, Decidable (sys.enabled state event)] :
    ∀ state events, Decidable (sys.EnabledAll state events)
  | _, [] => .isTrue trivial
  | state, event :: rest =>
      have := decidableEnabledAll sys (sys.perform state event) rest
      inferInstanceAs (Decidable (sys.enabled state event ∧ sys.EnabledAll (sys.perform state event) rest))

theorem reaches_perform_all (sys : System σ ε) (allowed : Set ε) (start : σ) (events : List ε)
    (members : ∀ event ∈ events, event ∈ allowed) (guards : sys.EnabledAll start events) :
    sys.Reaches allowed start (sys.performAll start events) := by
  induction events generalizing start with
  | nil => exact .refl
  | cons event rest ih =>
      have first : sys.Step allowed start (sys.perform start event) :=
        ⟨event, members event (by simp), guards.1, rfl⟩
      have later := ih (sys.perform start event) (fun e mem => members e (by simp [mem])) guards.2
      exact Relation.ReflTransGen.head first later

-- Unwinding: a run looks the same as the run of its visible events alone, if
-- visible events act alike on what looks the same and the others cannot be seen.
theorem perform_all_filter (sys : System σ ε) (same : σ → σ → Prop) (visible : ε → Bool)
    (respected : ∀ state other event, visible event = true → same state other →
      same (sys.perform state event) (sys.perform other event))
    (unseen : ∀ state other event, visible event = false → same state other →
      same (sys.perform state event) other)
    (events : List ε) (state other : σ) (alike : same state other) :
    same (sys.performAll state events) (sys.performAll other (events.filter visible)) := by
  induction events generalizing state other with
  | nil => exact alike
  | cons event rest ih =>
      cases seen : visible event with
      | true =>
          rw [List.filter_cons_of_pos seen]
          exact ih _ _ (respected state other event seen alike)
      | false =>
          rw [List.filter_cons_of_neg (by simp [seen])]
          exact ih _ _ (unseen state other event seen alike)

def restrict (sys : System σ ε) (condition : σ → ε → Prop) : System σ ε where
  enabled state event := sys.enabled state event ∧ condition state event
  perform := sys.perform

instance decidableRestrict (sys : System σ ε) (condition : σ → ε → Prop)
    [∀ state event, Decidable (sys.enabled state event)] [∀ state event, Decidable (condition state event)]
    (state : σ) (event : ε) : Decidable ((sys.restrict condition).enabled state event) :=
  inferInstanceAs (Decidable (sys.enabled state event ∧ condition state event))

def EveryStep (sys : System σ ε) (law : σ → ε → Prop) : σ → List ε → Prop
  | _, [] => True
  | state, event :: rest => law state event ∧ sys.EveryStep law (sys.perform state event) rest

theorem every_step_append (sys : System σ ε) (law : σ → ε → Prop) (start : σ) (first second : List ε) :
    sys.EveryStep law start (first ++ second) ↔
      sys.EveryStep law start first ∧ sys.EveryStep law (sys.performAll start first) second := by
  induction first generalizing start with
  | nil => exact ⟨fun held => ⟨trivial, held⟩, fun held => held.2⟩
  | cons event rest ih =>
      have later := ih (sys.perform start event)
      exact (and_congr_right (fun _ => later)).trans and_assoc.symm

theorem enabled_all_restrict (sys : System σ ε) (condition : σ → ε → Prop) (start : σ)
    (events : List ε) (guards : sys.EnabledAll start events)
    (kept : sys.EveryStep condition start events) :
    (sys.restrict condition).EnabledAll start events := by
  induction events generalizing start with
  | nil => trivial
  | cons event rest ih => exact ⟨⟨guards.1, kept.1⟩, ih (sys.perform start event) guards.2 kept.2⟩

theorem perform_all_restrict (sys : System σ ε) (condition : σ → ε → Prop) (start : σ) (events : List ε) :
    (sys.restrict condition).performAll start events = sys.performAll start events := by
  induction events generalizing start with
  | nil => rfl
  | cons event rest ih => exact ih (sys.perform start event)

theorem reaches_restrict (sys : System σ ε) (condition : σ → ε → Prop) (start : σ) (events : List ε)
    (guards : sys.EnabledAll start events) (kept : sys.EveryStep condition start events) :
    (sys.restrict condition).Reaches Set.univ start (sys.performAll start events) := by
  rw [← sys.perform_all_restrict condition]
  exact (sys.restrict condition).reaches_perform_all Set.univ start events (fun _ _ => trivial)
    (sys.enabled_all_restrict condition start events guards kept)

theorem every_step_congr (sys : System σ ε) (invariant : σ → Prop) (first second : σ → ε → Prop)
    (preserved : ∀ state event, invariant state → sys.enabled state event →
      invariant (sys.perform state event))
    (agree : ∀ state event, invariant state → sys.enabled state event →
      (first state event ↔ second state event))
    (start : σ) (events : List ε) (guards : sys.EnabledAll start events) (initially : invariant start) :
    sys.EveryStep first start events ↔ sys.EveryStep second start events := by
  induction events generalizing start with
  | nil => exact Iff.rfl
  | cons event rest ih =>
      have here := agree start event initially guards.1
      have later := ih (sys.perform start event) guards.2 (preserved start event initially guards.1)
      exact and_congr here later

structure Execution (sys : System σ ε) (allowed : Set ε) where
  state : Nat → σ
  event : Nat → ε
  permitted : ∀ n, event n ∈ allowed
  guarded : ∀ n, sys.enabled (state n) (event n)
  follows : ∀ n, state (n + 1) = sys.perform (state n) (event n)

namespace Execution

variable {sys : System σ ε} {allowed : Set ε}

theorem reaches (run : sys.Execution allowed) (n k : Nat) :
    sys.Reaches allowed (run.state n) (run.state (n + k)) := by
  induction k with
  | zero => exact .refl
  | succ k ih =>
      rw [← Nat.add_assoc, run.follows (n + k)]
      exact sys.reaches_perform allowed _ _ _ ih (run.permitted _) (run.guarded _)

theorem invariant_always (run : sys.Execution allowed) (invariant : σ → Prop)
    (preserved : ∀ state event, event ∈ allowed → invariant state → sys.enabled state event →
      invariant (sys.perform state event))
    (initially : invariant (run.state 0)) (n : Nat) : invariant (run.state n) := by
  have reached := run.reaches 0 n
  rw [Nat.zero_add] at reached
  exact sys.reaches_invariant allowed invariant preserved _ _ reached initially

def Eventually (run : sys.Execution allowed) (start : Nat) (goal : σ → Prop) : Prop :=
  ∃ n, start ≤ n ∧ goal (run.state n)

def LeadsTo (run : sys.Execution allowed) (source goal : σ → Prop) : Prop :=
  ∀ n, source (run.state n) → run.Eventually n goal

-- A family of events that stays enabled from some moment on is taken once more.
def WeaklyFair (run : sys.Execution allowed) (family : Set ε) : Prop :=
  ∀ n, (∀ m, n ≤ m → ∃ event, event ∈ family ∧ sys.enabled (run.state m) event) →
    ∃ m, n ≤ m ∧ run.event m ∈ family

theorem leads_to_refl (run : sys.Execution allowed) (source goal : σ → Prop)
    (implied : ∀ n, source (run.state n) → goal (run.state n)) : run.LeadsTo source goal :=
  fun n held => ⟨n, Nat.le_refl n, implied n held⟩

theorem leads_to_self (run : sys.Execution allowed) (goal : σ → Prop) : run.LeadsTo goal goal :=
  run.leads_to_refl goal goal (fun _ held => held)

theorem leads_to_trans (run : sys.Execution allowed) (first second third : σ → Prop)
    (early : run.LeadsTo first second) (late : run.LeadsTo second third) :
    run.LeadsTo first third := by
  intro n held
  obtain ⟨m, after, reached⟩ := early n held
  obtain ⟨k, later, final⟩ := late m reached
  exact ⟨k, Nat.le_trans after later, final⟩

theorem leads_to_or (run : sys.Execution allowed) (left right goal : σ → Prop)
    (fromLeft : run.LeadsTo left goal) (fromRight : run.LeadsTo right goal) :
    run.LeadsTo (fun s => left s ∨ right s) goal := by
  intro n held
  cases held with
  | inl held => exact fromLeft n held
  | inr held => exact fromRight n held

theorem leads_to_cases (run : sys.Execution allowed) (source left right goal : σ → Prop)
    (split : run.LeadsTo source (fun s => left s ∨ right s))
    (fromLeft : run.LeadsTo left goal) (fromRight : run.LeadsTo right goal) :
    run.LeadsTo source goal :=
  run.leads_to_trans source _ goal split (run.leads_to_or left right goal fromLeft fromRight)

theorem stable (run : sys.Execution allowed) (condition : σ → Prop)
    (kept : ∀ n, condition (run.state n) → condition (run.state (n + 1))) (start : Nat)
    (held : condition (run.state start)) (n : Nat) (after : start ≤ n) : condition (run.state n) := by
  induction n, after using Nat.le_induction with
  | base => exact held
  | succ n _ ih => exact kept n ih

theorem leads_to_keep (run : sys.Execution allowed) (condition source goal : σ → Prop)
    (kept : ∀ n, condition (run.state n) → condition (run.state (n + 1)))
    (reached : run.LeadsTo (fun s => condition s ∧ source s) goal) :
    run.LeadsTo (fun s => condition s ∧ source s) (fun s => condition s ∧ goal s) := by
  intro n held
  obtain ⟨m, after, final⟩ := reached n held
  exact ⟨m, after, run.stable condition kept n held.1 m after, final⟩

-- A condition that only ever gives way to its goal is either kept for good
-- from the moment it held or reaches the goal.
theorem persists_or_reaches (run : sys.Execution allowed) (source goal : σ → Prop)
    (persists : ∀ n, source (run.state n) →
      source (run.state (n + 1)) ∨ goal (run.state (n + 1)))
    (start : Nat) (held : source (run.state start)) :
    run.Eventually start goal ∨ ∀ n, start ≤ n → source (run.state n) := by
  by_cases reached : run.Eventually start goal
  · exact .inl reached
  · refine .inr (fun n after => ?_)
    induction n, after using Nat.le_induction with
    | base => exact held
    | succ n after ih =>
        cases persists n ih with
        | inl kept => exact kept
        | inr final => exact False.elim (reached ⟨n + 1, by omega, final⟩)

theorem leads_to_fair (run : sys.Execution allowed) (source goal : σ → Prop) (family : Set ε)
    (fair : run.WeaklyFair family)
    (persists : ∀ n, source (run.state n) →
      source (run.state (n + 1)) ∨ goal (run.state (n + 1)))
    (waiting : ∀ n, source (run.state n) → ∃ event, event ∈ family ∧ sys.enabled (run.state n) event)
    (helpful : ∀ n, source (run.state n) → run.event n ∈ family → goal (run.state (n + 1))) :
    run.LeadsTo source goal := by
  intro start held
  cases run.persists_or_reaches source goal persists start held with
  | inl reached => exact reached
  | inr kept =>
      obtain ⟨m, after, taken⟩ := fair start (fun m after => waiting m (kept m after))
      exact ⟨m + 1, by omega, helpful m (kept m after) taken⟩

-- A rank that the steps of a fair family lower and no other step raises.
theorem leads_to_rank (run : sys.Execution allowed) (source goal : σ → Prop) (rank : σ → Nat)
    (family : Set ε) (fair : run.WeaklyFair family)
    (persists : ∀ n, source (run.state n) →
      (source (run.state (n + 1)) ∧ rank (run.state (n + 1)) ≤ rank (run.state n)) ∨
        goal (run.state (n + 1)))
    (waiting : ∀ n, source (run.state n) → ∃ event, event ∈ family ∧ sys.enabled (run.state n) event)
    (helpful : ∀ n, source (run.state n) → run.event n ∈ family →
      (source (run.state (n + 1)) ∧ rank (run.state (n + 1)) < rank (run.state n)) ∨
        goal (run.state (n + 1))) :
    run.LeadsTo source goal := by
  have lowered : ∀ bound, run.LeadsTo (fun s => source s ∧ rank s ≤ bound)
      (fun s => goal s ∨ (source s ∧ rank s < bound)) := by
    intro bound
    apply run.leads_to_fair _ _ family fair
    · intro n held
      cases persists n held.1 with
      | inl kept => exact .inl ⟨kept.1, Nat.le_trans kept.2 held.2⟩
      | inr final => exact .inr (.inl final)
    · intro n held
      exact waiting n held.1
    · intro n held taken
      cases helpful n held.1 taken with
      | inl lower => exact .inr ⟨lower.1, Nat.lt_of_lt_of_le lower.2 held.2⟩
      | inr final => exact .inl final
  have bounded : ∀ bound, run.LeadsTo (fun s => source s ∧ rank s ≤ bound) goal := by
    intro bound
    induction bound with
    | zero =>
        apply run.leads_to_cases _ _ _ goal (lowered 0) (run.leads_to_self goal)
        intro n held
        exact absurd held.2 (Nat.not_lt_zero _)
    | succ bound ih =>
        apply run.leads_to_cases _ _ _ goal (lowered (bound + 1)) (run.leads_to_self goal)
        intro n held
        exact ih n ⟨held.1, Nat.le_of_lt_succ held.2⟩
  intro n held
  exact bounded (rank (run.state n)) n ⟨held, Nat.le_refl _⟩

end Execution

end System

end SchwabGateway.Library
