import Mathlib.Data.List.Nodup

set_option autoImplicit false

namespace SchwabGateway.Library

-- Pieces of code that work on shared data. Every key stands for one of them
-- and has local data of its own; advance is its next step.
structure Sections (κ σ l : Type) where
  start : κ → l
  advance : κ → l → σ → l × σ

namespace Sections

variable {κ σ l : Type} (sections : Sections κ σ l)

def run (key : κ) : Nat → l × σ → l × σ
  | 0, data => data
  | steps + 1, data =>
      let reached := run key steps data
      sections.advance key reached.1 reached.2

def serial (initial : σ) : List (κ × Nat) → σ
  | [] => initial
  | (key, steps) :: earlier =>
      (sections.run key steps (sections.start key, serial initial earlier)).2

def localAfter (initial : σ) (key : κ) (steps : Nat) (earlier : List (κ × Nat)) : l :=
  (sections.run key steps (sections.start key, sections.serial initial earlier)).1

-- Shared and local data are what the serial run of the sections leaves, in
-- the order in which they were entered.
structure Follows (initial shared : σ) (locals : κ → l) (entered : List (κ × Nat)) : Prop where
  shared_eq : shared = sections.serial initial entered
  locals_eq : ∀ later key steps earlier, entered = later ++ (key, steps) :: earlier →
    locals key = sections.localAfter initial key steps earlier
  distinct : (entered.map Prod.fst).Nodup

variable {sections}

theorem follows_start (initial : σ) (locals : κ → l) :
    sections.Follows initial initial locals [] where
  shared_eq := rfl
  locals_eq later key steps earlier shape := by simp at shape
  distinct := List.nodup_nil

theorem split_cons (head : κ × Nat) (tail later earlier : List (κ × Nat)) (key : κ) (steps : Nat)
    (shape : head :: tail = later ++ (key, steps) :: earlier) :
    head = (key, steps) ∧ tail = earlier ∨
      ∃ rest, later = head :: rest ∧ tail = rest ++ (key, steps) :: earlier := by
  cases later with
  | nil =>
      simp only [List.nil_append, List.cons.injEq] at shape
      exact .inl shape
  | cons first rest =>
      simp only [List.cons_append, List.cons.injEq] at shape
      obtain ⟨rfl, shape⟩ := shape
      exact .inr ⟨rest, rfl, shape⟩

theorem follows_enter (initial shared : σ) (locals changed : κ → l) (entered : List (κ × Nat))
    (key : κ) (follows : sections.Follows initial shared locals entered)
    (fresh : key ∉ entered.map Prod.fst) (begins : changed key = sections.start key)
    (same : ∀ other, other ≠ key → changed other = locals other) :
    sections.Follows initial shared changed ((key, 0) :: entered) where
  shared_eq := follows.shared_eq
  locals_eq later other steps earlier shape := by
    cases split_cons _ _ later earlier other steps shape with
    | inl first =>
        obtain ⟨head, rfl⟩ := first
        cases head
        exact begins
    | inr deeper =>
        obtain ⟨rest, _, tail⟩ := deeper
        have different : other ≠ key := by
          rintro rfl
          exact fresh (by simp [tail])
        rw [same other different]
        exact follows.locals_eq rest other steps earlier tail
  distinct := List.nodup_cons.mpr ⟨fresh, follows.distinct⟩

theorem follows_advance (initial shared : σ) (locals changed : κ → l) (earlier : List (κ × Nat))
    (key : κ) (steps : Nat) (after : σ)
    (follows : sections.Follows initial shared locals ((key, steps) :: earlier))
    (taken : (changed key, after) = sections.advance key (locals key) shared)
    (same : ∀ other, other ≠ key → changed other = locals other) :
    sections.Follows initial after changed ((key, steps + 1) :: earlier) := by
  have here := follows.locals_eq [] key steps earlier rfl
  rw [here, follows.shared_eq] at taken
  exact
    { shared_eq := congrArg Prod.snd taken
      locals_eq := by
        intro later other count rest shape
        cases split_cons _ _ later rest other count shape with
        | inl first =>
            obtain ⟨head, rfl⟩ := first
            cases head
            exact congrArg Prod.fst taken
        | inr deeper =>
            obtain ⟨between, _, tail⟩ := deeper
            have different : other ≠ key := by
              rintro rfl
              exact (List.nodup_cons.mp follows.distinct).1 (by simp [tail])
            rw [same other different]
            exact follows.locals_eq ((key, steps) :: between) other count rest (by rw [tail]; rfl)
      distinct := follows.distinct }

-- What every step of a section keeps holds after any number of its steps.
theorem run_invariant (key : κ) (invariant : l × σ → Prop)
    (preserved : ∀ data, invariant data → invariant (sections.advance key data.1 data.2))
    (steps : Nat) (data : l × σ) (initially : invariant data) :
    invariant (sections.run key steps data) := by
  induction steps with
  | zero => exact initially
  | succ steps ih => exact preserved _ ih

end Sections

end SchwabGateway.Library
