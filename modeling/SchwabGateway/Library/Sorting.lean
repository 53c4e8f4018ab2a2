import Mathlib.Data.List.Sort

set_option autoImplicit false

namespace SchwabGateway.Library

variable {α : Type} (r : α → α → Prop) [DecidableRel r] (tied : α → Bool)

theorem insertion_sort_stable (items : List α)
    (ties : ∀ first second, tied first = true → tied second = true → r first second) :
    (items.insertionSort r).filter tied = items.filter tied := by
  have ordered : (items.filter tied).Pairwise r := by
    apply List.Pairwise.imp_of_mem (R := fun _ _ => True) _ (List.pairwise_of_forall (fun _ _ => trivial))
    intro first second firstIn secondIn _
    exact ties first second (List.mem_filter.mp firstIn).2 (List.mem_filter.mp secondIn).2
  have kept := (List.sublist_insertionSort ordered List.filter_sublist).filter tied
  rw [List.filter_filter] at kept
  simp only [Bool.and_self] at kept
  have size := ((List.perm_insertionSort r items).filter tied).length_eq
  exact (kept.eq_of_length size.symm).symm

end SchwabGateway.Library
