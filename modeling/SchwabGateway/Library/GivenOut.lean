import Mathlib.Logic.Function.Basic

set_option autoImplicit false

namespace SchwabGateway.Library

variable {α : Type}

-- The numbers below count have been given out, each to one entry of a table.
structure GivenOut (table : Nat → α) (owns : α → Nat → Prop) (count : Nat) : Prop where
  below : ∀ id number, owns (table id) number → number < count
  owned : ∀ number, number < count → ∃ id, owns (table id) number
  once : ∀ first second number, owns (table first) number → owns (table second) number → first = second

section Updates

variable (table : Nat → α) (owns : α → Nat → Prop) (count : Nat)

theorem given_out_none (nothing : ∀ id number, ¬ owns (table id) number) : GivenOut table owns 0 where
  below id number own := absurd own (nothing id number)
  owned _ below := absurd below (Nat.not_lt_zero _)
  once first _ number own := absurd own (nothing first number)

variable (given : GivenOut table owns count) (id : Nat) (entry : α)
variable (before : ∀ number, ¬ owns (table id) number)

include given before

theorem given_out_keep (after : ∀ number, ¬ owns entry number) :
    GivenOut (Function.update table id entry) owns count := by
  have same : ∀ j number, owns (Function.update table id entry j) number ↔ owns (table j) number := by
    intro j number
    by_cases here : j = id
    · rw [here, Function.update_self]
      exact ⟨fun own => absurd own (after number), fun own => absurd own (before number)⟩
    · rw [Function.update_of_ne here]
  constructor
  · intro j number own
    exact given.below j number ((same j number).mp own)
  · intro number below
    obtain ⟨j, own⟩ := given.owned number below
    exact ⟨j, (same j number).mpr own⟩
  · intro first second number one two
    exact given.once first second number ((same first number).mp one) ((same second number).mp two)

theorem given_out_next (after : ∀ number, owns entry number ↔ number = count) :
    GivenOut (Function.update table id entry) owns (count + 1) := by
  have own : ∀ number, owns (Function.update table id entry id) number ↔ number = count := by
    intro number
    rw [Function.update_self]
    exact after number
  have other : ∀ j, j ≠ id → Function.update table id entry j = table j :=
    fun j different => Function.update_of_ne different entry table
  have old : ∀ j number, j ≠ id → owns (Function.update table id entry j) number → number < count := by
    intro j number different owned
    rw [other j different] at owned
    exact given.below j number owned
  constructor
  · intro j number owned
    by_cases here : j = id
    · rw [here] at owned
      exact Nat.lt_succ_of_le (Nat.le_of_eq ((own number).mp owned))
    · exact Nat.lt_succ_of_lt (old j number here owned)
  · intro number below
    cases Nat.lt_succ_iff_lt_or_eq.mp below with
    | inl earlier =>
        obtain ⟨j, owned⟩ := given.owned number earlier
        have different : j ≠ id := fun same => before number (same ▸ owned)
        exact ⟨j, by rw [other j different]; exact owned⟩
    | inr last => exact ⟨id, (own number).mpr last⟩
  · intro first second number one two
    by_cases left : first = id
    · by_cases right : second = id
      · exact left.trans right.symm
      · rw [left] at one
        exact absurd (old second number right two) (Nat.not_lt.mpr (Nat.le_of_eq ((own number).mp one).symm))
    · by_cases right : second = id
      · rw [right] at two
        exact absurd (old first number left one) (Nat.not_lt.mpr (Nat.le_of_eq ((own number).mp two).symm))
      · rw [other first left] at one
        rw [other second right] at two
        exact given.once first second number one two

end Updates

end SchwabGateway.Library
