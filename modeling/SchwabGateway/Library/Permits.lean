import Mathlib.Data.List.Count
import Mathlib.Data.List.Range
import Mathlib.Logic.Function.Basic

set_option autoImplicit false

namespace SchwabGateway.Library

variable {κ : Type} [DecidableEq κ]

def permitOf (held : Option κ) (class_ : κ) : Nat := if held = some class_ then 1 else 0

def countHolders (holding : Nat → Option κ) (members : Nat) (class_ : κ) : Nat :=
  (List.range members).countP (fun member => holding member = some class_)

theorem count_holders_succ (holding : Nat → Option κ) (members : Nat) (class_ : κ) :
    countHolders holding (members + 1) class_ =
      countHolders holding members class_ + permitOf (holding members) class_ := by
  rw [countHolders, List.range_succ, List.countP_append, ← countHolders, permitOf]
  by_cases holds : holding members = some class_
  · simp [holds]
  · simp [holds]

theorem count_holders_congr (holding other : Nat → Option κ) (members : Nat) (class_ : κ)
    (same : ∀ member, member < members → holding member = other member) :
    countHolders holding members class_ = countHolders other members class_ := by
  apply List.countP_congr
  intro member inside
  rw [same member (List.mem_range.mp inside)]

theorem count_holders_update (holding : Nat → Option κ) (members member : Nat) (held : Option κ) (class_ : κ)
    (inside : member < members) :
    countHolders (Function.update holding member held) members class_ + permitOf (holding member) class_ =
      countHolders holding members class_ + permitOf held class_ := by
  induction members with
  | zero => exact absurd inside (Nat.not_lt_zero member)
  | succ members ih =>
      rw [count_holders_succ, count_holders_succ]
      by_cases last : member = members
      · subst last
        have before : countHolders (Function.update holding member held) member class_ =
            countHolders holding member class_ :=
          count_holders_congr _ _ _ _ (fun other less => Function.update_of_ne (Nat.ne_of_lt less) _ _)
        rw [before, Function.update_self]
        omega
      · have earlier := ih (by omega)
        rw [Function.update_of_ne (Ne.symm last)]
        omega

end SchwabGateway.Library
