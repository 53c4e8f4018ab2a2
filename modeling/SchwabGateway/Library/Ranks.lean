import Mathlib.Data.Multiset.Sort
import Mathlib.Order.Bounds.Basic

set_option autoImplicit false

namespace SchwabGateway.Library

section Statistics

variable {α : Type} [LinearOrder α]

def nthSmallest (observations : Multiset α) (rank : Nat) : Option α :=
  if rank = 0 then none else (observations.sort (· ≤ ·))[rank - 1]?

theorem sorted_get_le_iff (items : List α) (sorted : items.Pairwise (· ≤ ·)) (index : Nat)
    (inside : index < items.length) (bound : α) :
    items[index] ≤ bound ↔ index < items.countP (fun item => decide (item ≤ bound)) := by
  induction items generalizing index with
  | nil => cases inside
  | cons first rest ih =>
      obtain ⟨least, later⟩ := List.pairwise_cons.mp sorted
      by_cases small : first ≤ bound
      · have count : (first :: rest).countP (fun item => decide (item ≤ bound)) =
            rest.countP (fun item => decide (item ≤ bound)) + 1 := List.countP_cons_of_pos (decide_eq_true small)
        rw [count]
        cases index with
        | zero => exact iff_of_true small (Nat.succ_pos _)
        | succ index =>
            rw [List.getElem_cons_succ, ih later index (Nat.lt_of_succ_lt_succ inside)]
            exact Nat.succ_lt_succ_iff.symm
      · have none : ∀ item ∈ first :: rest, ¬ item ≤ bound := by
          refine List.forall_mem_cons.mpr ⟨small, fun item member below => ?_⟩
          exact small (le_trans (least item member) below)
        have count : (first :: rest).countP (fun item => decide (item ≤ bound)) = 0 :=
          List.countP_eq_zero.mpr fun item member => by simpa using none item member
        rw [count]
        exact iff_of_false (none _ (List.getElem_mem inside)) (Nat.not_lt_zero _)

theorem nth_smallest_le_iff (observations : Multiset α) (rank : Nat) (statistic : α)
    (found : nthSmallest observations rank = some statistic) (bound : α) :
    statistic ≤ bound ↔ rank ≤ observations.countP (· ≤ bound) := by
  have count : observations.countP (· ≤ bound) =
      (observations.sort (· ≤ ·)).countP (fun item => decide (item ≤ bound)) := by
    conv_lhs => rw [← Multiset.sort_eq observations (· ≤ ·)]
    exact Multiset.coe_countP _ _
  rw [nthSmallest] at found
  by_cases zero : rank = 0
  · rw [if_pos zero] at found
    cases found
  · rw [if_neg zero] at found
    obtain ⟨inside, rfl⟩ := List.getElem?_eq_some_iff.mp found
    rw [sorted_get_le_iff _ (Multiset.pairwise_sort _ _) _ inside bound, count]
    omega

theorem nth_smallest_empty (rank : Nat) : nthSmallest (0 : Multiset α) rank = none := by
  rw [nthSmallest, Multiset.sort_zero, List.getElem?_nil, ite_self]

theorem nth_smallest_some (observations : Multiset α) (rank : Nat) (positive : 0 < rank)
    (inside : rank ≤ observations.card) : ∃ statistic, nthSmallest observations rank = some statistic := by
  have index : rank - 1 < (observations.sort (· ≤ ·)).length := by
    rw [Multiset.length_sort]
    omega
  refine ⟨(observations.sort (· ≤ ·))[rank - 1], ?_⟩
  rw [nthSmallest, if_neg positive.ne']
  exact List.getElem?_eq_getElem index

theorem nth_smallest_above (observations : Multiset α) (rank : Nat) (inside : rank ≤ observations.card) (bound : α)
    (few : observations.countP (· ≤ bound) < rank) :
    ∃ statistic, nthSmallest observations rank = some statistic ∧ bound < statistic := by
  obtain ⟨statistic, found⟩ := nth_smallest_some observations rank (Nat.zero_lt_of_lt few) inside
  refine ⟨statistic, found, not_le.mp fun below => ?_⟩
  exact absurd ((nth_smallest_le_iff observations rank statistic found bound).mp below) (not_le.mpr few)

theorem nth_smallest_mono (observations : Multiset α) (rank higher : Nat) (ordered : rank ≤ higher) (lower upper : α)
    (first : nthSmallest observations rank = some lower) (second : nthSmallest observations higher = some upper) :
    lower ≤ upper := by
  rw [nth_smallest_le_iff observations rank lower first]
  exact le_trans ordered ((nth_smallest_le_iff observations higher upper second upper).mp (le_refl _))

end Statistics

section Search

variable {α β : Type} [LinearOrder β] (key : α → β) (wanted : α → Bool)

theorem find_sorted_least (items : List α) (sorted : items.Pairwise (fun first second => key first ≤ key second))
    (item : α) (found : items.find? wanted = some item) :
    item ∈ items ∧ wanted item = true ∧ ∀ other ∈ items, wanted other = true → key item ≤ key other := by
  obtain ⟨accepted, before, after, whole, refused⟩ := List.find?_eq_some_iff_append.mp found
  refine ⟨List.mem_of_find?_eq_some found, accepted, ?_⟩
  intro other member asked
  rw [whole, List.mem_append, List.mem_cons] at member
  rw [whole, List.pairwise_append, List.pairwise_cons] at sorted
  rcases member with earlier | rfl | later
  · have not := refused other earlier
    rw [asked] at not
    cases not
  · exact le_refl _
  · exact sorted.2.1.1 other later

end Search

end SchwabGateway.Library
