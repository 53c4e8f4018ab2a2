import SchwabGateway.Library.Cleanup

set_option autoImplicit false

namespace SchwabGateway.Library

namespace Attempt

variable {ε σ α β : Type} (related : σ → σ → Prop)

def Evolves (body : Attempt ε σ α) : Prop := ∀ before, related before (body before).2

theorem evolves_wider (wider : σ → σ → Prop) (more : ∀ before after, related before after → wider before after)
    (body : Attempt ε σ α) (evolves : Evolves related body) : Evolves wider body :=
  fun before => more before _ (evolves before)

theorem evolves_reading (reflexive : ∀ state, related state state) (result : σ → Except ε α) :
    Evolves related (reading result) :=
  fun before => reflexive before

variable (transitive : ∀ first second third, related first second → related second third → related first third)
  (body : Attempt ε σ α) (evolves : Evolves related body)

include transitive evolves

theorem evolves_bind (next : α → Attempt ε σ β) (two : ∀ value, Evolves related (next value)) :
    Evolves related (body >>= next) := by
  intro before
  rw [bind_run]
  have one := evolves before
  cases run : body before with
  | mk result after =>
      rw [run] at one
      cases result with
      | ok value => exact transitive _ _ _ one (two value after)
      | error error => exact one

theorem evolves_rescuing (handler : ε → Attempt ε σ α) (two : ∀ error, Evolves related (handler error)) :
    Evolves related (body.rescuing handler) := by
  intro before
  rw [rescuing]
  have one := evolves before
  cases run : body before with
  | mk result after =>
      rw [run] at one
      cases result with
      | ok value => exact one
      | error error => exact transitive _ _ _ one (two error after)

end Attempt

section Additions

variable {κ ν : Type} (allowed : κ → ν → Prop)

def Adds (before after : κ → Option ν) : Prop :=
  ∀ key, after key = before key ∨ before key = none ∧ ∃ value, after key = some value ∧ allowed key value

theorem adds_refl (map : κ → Option ν) : Adds allowed map map := fun _ => .inl rfl

theorem adds_trans (first second third : κ → Option ν) (one : Adds allowed first second)
    (two : Adds allowed second third) : Adds allowed first third := by
  intro key
  cases two key with
  | inl same =>
      rw [same]
      exact one key
  | inr added =>
      cases one key with
      | inl equal => exact .inr ⟨equal ▸ added.1, added.2⟩
      | inr earlier =>
          obtain ⟨value, present, _⟩ := earlier.2
          rw [added.1] at present
          cases present

theorem adds_wider (wider : κ → ν → Prop) (more : ∀ key value, allowed key value → wider key value)
    (before after : κ → Option ν) (adds : Adds allowed before after) : Adds wider before after := by
  intro key
  cases adds key with
  | inl same => exact .inl same
  | inr added =>
      obtain ⟨value, present, good⟩ := added.2
      exact .inr ⟨added.1, value, present, more key value good⟩

theorem adds_present (before after : κ → Option ν) (adds : Adds allowed before after) (key : κ)
    (present : before key ≠ none) : after key = before key := by
  cases adds key with
  | inl same => exact same
  | inr added => exact absurd added.1 present

theorem adds_absent (before after : κ → Option ν) (adds : Adds allowed before after) (key : κ)
    (absent : after key = none) : before key = none := by
  by_contra present
  rw [adds_present allowed before after adds key present] at absent
  exact present absent

theorem adds_elsewhere (before after : κ → Option ν) (adds : Adds allowed before after) (key : κ)
    (elsewhere : ∀ value, ¬ allowed key value) : after key = before key := by
  cases adds key with
  | inl same => exact same
  | inr added =>
      obtain ⟨value, _, good⟩ := added.2
      exact absurd good (elsewhere value)

end Additions

end SchwabGateway.Library
