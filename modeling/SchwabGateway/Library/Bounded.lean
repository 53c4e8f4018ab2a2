import Mathlib.Data.List.Basic
import Mathlib.Data.List.DropRight

set_option autoImplicit false

namespace SchwabGateway.Library

variable {α : Type}

def pushBounded (limit : Nat) (items : List α) (item : α) : List α :=
  (if limit ≤ items.length then items.tail else items) ++ [item]

theorem push_bounded_suffix (limit : Nat) (items : List α) (item : α) :
    pushBounded limit items item <:+ items ++ [item] := by
  have kept : (if limit ≤ items.length then items.tail else items) <:+ items := by
    split
    · exact List.tail_suffix items
    · exact List.suffix_refl items
  obtain ⟨lost, same⟩ := kept
  refine ⟨lost, ?_⟩
  rw [pushBounded, ← List.append_assoc, same]

theorem push_bounded_last (limit : Nat) (items : List α) (item : α) :
    (pushBounded limit items item).getLast? = some item := by
  simp [pushBounded]

theorem push_bounded_rtake (limit : Nat) (items : List α) (item : α) (some_ : 1 ≤ limit) :
    pushBounded limit (items.rtake limit) item = (items ++ [item]).rtake limit := by
  obtain ⟨less, rfl⟩ : ∃ less, limit = less + 1 := ⟨limit - 1, by omega⟩
  rw [List.rtake_concat_succ, pushBounded]
  congr 1
  by_cases full : less + 1 ≤ items.length
  · rw [if_pos (by rw [List.rtake, List.length_drop]; omega), List.rtake, List.rtake, List.tail_drop]
    congr 1
    omega
  · have short : items.length ≤ less := by omega
    rw [if_neg (by rw [List.rtake, List.length_drop]; omega), List.rtake, List.rtake]
    congr 1
    omega

theorem push_bounded_bounded (limit : Nat) (items : List α) (item : α) (some_ : 1 ≤ limit)
    (bounded : items.length ≤ limit) : (pushBounded limit items item).length ≤ limit := by
  rw [pushBounded, List.length_append, List.length_singleton]
  split
  · rw [List.length_tail]
    omega
  · omega

theorem suffix_last (short long : List α) (suffix : short <:+ long) (item : α)
    (last : short.getLast? = some item) : ∃ before, long = before ++ [item] := by
  obtain ⟨dropped, same⟩ := suffix
  have split := List.getLast?_eq_some_iff.mp last
  obtain ⟨init, parts⟩ := split
  exact ⟨dropped ++ init, by rw [← same, parts, List.append_assoc]⟩

end SchwabGateway.Library
