import SchwabGateway.TtlAnalysis.Quantile
import SchwabGateway.TtlAnalysis.Scrape

set_option autoImplicit false

namespace SchwabGateway.TtlAnalysis

open SchwabGateway.Library
open SchwabGateway.Python

section Rows

theorem larger_counts (first second : Nat) : larger (ofCount first) (ofCount second) = ofCount (max first second) := by
  have order : (ofCount first).lt (ofCount second) = decide (first < second) := decide_eq_decide.mpr Nat.cast_lt
  rw [larger, order]
  by_cases below : first < second
  · rw [if_pos (decide_eq_true below), max_eq_right below.le]
  · rw [if_neg (by simpa using below), max_eq_left (not_lt.mp below)]

theorem max_value_counts (counts : List Nat) : maxValue (counts.map ofCount) = counts.max?.map ofCount := by
  cases counts with
  | nil => rfl
  | cons first rest =>
      rw [List.map_cons, maxValue, List.max?_cons', Option.map_some]
      congr 1
      induction rest generalizing first with
      | nil => rfl
      | cons second rest ih =>
          rw [List.map_cons, List.foldl_cons, List.foldl_cons, larger_counts]
          exact ih (max first second)

theorem not_above_rows (first second : Row) : notAbove (toRow first) (toRow second) ↔ first.1 ≤ second.1 := by
  change (ofBoundary second.1).lt (ofBoundary first.1) = false ↔ _
  rw [of_boundary_lt, decide_eq_false_iff_not, not_lt]

def sortedRows (counts : List Row) : List Row := counts.insertionSort (fun first second => first.1 ≤ second.1)

theorem sort_rows (counts : List Row) : (counts.map toRow).insertionSort notAbove = (sortedRows counts).map toRow :=
  (List.map_insertionSort _ _ toRow counts fun first _ second _ => (not_above_rows first second).symm).symm

theorem sorted_rows_sorted (counts : List Row) :
    (sortedRows counts).Pairwise (fun first second => first.1 ≤ second.1) := by
  have total : Std.Total (fun first second : Row => first.1 ≤ second.1) :=
    ⟨fun first second => le_total first.1 second.1⟩
  have trans : IsTrans Row (fun first second : Row => first.1 ≤ second.1) := ⟨fun _ _ _ => le_trans⟩
  exact List.pairwise_insertionSort _ counts

theorem mem_sorted_rows (counts : List Row) (row : Row) : row ∈ sortedRows counts ↔ row ∈ counts :=
  (List.perm_insertionSort _ counts).mem_iff

theorem le_count (target : ℚ) (count : Nat) :
    (PyFloat.finite target).le (ofCount count) = decide (⌈target⌉₊ ≤ count) := by
  have order : (ofCount count).lt (.finite target) = decide ((count : ℚ) < target) := rfl
  change (!(ofCount count).lt (.finite target)) = _
  rw [order, ← decide_not, decide_eq_decide, not_lt]
  exact Nat.ceil_le.symm

theorem reaches_target (target : ℚ) :
    (fun entry : PyFloat × PyFloat => (PyFloat.finite target).le entry.2) ∘ toRow =
      fun row => decide (⌈target⌉₊ ≤ row.2) :=
  funext fun row => le_count target row.2

theorem count_le_zero (count : Nat) : (ofCount count).le zero = decide (count = 0) := by
  have order : zero.lt (ofCount count) = decide ((0 : ℚ) < count) := rfl
  change (!zero.lt (ofCount count)) = _
  rw [order, ← decide_not, decide_eq_decide, Nat.cast_pos, Nat.pos_iff_ne_zero, not_not]

theorem count_mul (count : Nat) (p : ℚ) (positive : 0 < p) (proper : p ≤ 1) (small : count ≤ 2 ^ 53) :
    (ofCount count).mul (.finite p) = .finite (roundDouble (count * p)) := by
  apply of_rat_bounded _ (by positivity)
  exact le_trans (round_product_le count p positive proper small) (by exact_mod_cast small)

end Rows

section Answer

variable (bounds : List ℚ) (increasing : bounds.Pairwise (· < ·)) (observations : Multiset ℚ) (counts : List Row)
variable (p : ℚ) (positive : 0 < p) (proper : p ≤ 1)

theorem level_accepted (positive : 0 < p) (proper : p ≤ 1) :
    zero.lt (.finite p) ∧ (PyFloat.finite p).le (.finite 1) := by
  refine ⟨decide_eq_true positive, ?_⟩
  change (!decide ((1 : ℚ) < p)) = true
  rw [← decide_not, decide_eq_true_eq, not_lt]
  exact proper

theorem percentile_empty (positive : 0 < p) (proper : p ≤ 1) : percentile [] (.finite p) = .ok none :=
  if_neg (not_not.mpr (level_accepted p positive proper))

def Counts : Prop := ∀ row, row ∈ counts ↔ row.1 ∈ boundaries bounds ∧ row.2 = cumulative observations row.1

theorem top_boundary : ⊤ ∈ boundaries bounds := List.mem_append_right _ (List.mem_singleton_self _)

theorem max_count (counted : Counts bounds observations counts) :
    maxValue ((counts.map toRow).map Prod.snd) = some (ofCount observations.card) := by
  have values : (counts.map toRow).map Prod.snd = (counts.map Prod.snd).map ofCount := by
    rw [List.map_map, List.map_map]
    rfl
  have largest : (counts.map Prod.snd).max? = some observations.card := by
    apply List.max?_eq_some_iff.mpr
    constructor
    · have last := (counted (⊤, observations.card)).mpr ⟨top_boundary bounds, (cumulative_top observations).symm⟩
      exact List.mem_map_of_mem last
    · intro count member
      obtain ⟨row, inside, rfl⟩ := List.mem_map.mp member
      rw [((counted row).mp inside).2]
      exact cumulative_le observations row.1
  rw [values, max_value_counts, largest]
  rfl

theorem first_row_least (counted : Counts bounds observations counts) (rank : Nat) (statistic : ℚ)
    (found : nthSmallest observations rank = some statistic) :
    ∃ row, (sortedRows counts).find? (fun row => decide (rank ≤ row.2)) = some row ∧
      IsLeast {b | b ∈ boundaries bounds ∧ WithTop.some statistic ≤ b} row.1 := by
  have reaches := statistic_reaches observations rank statistic found
  have last := (counted (⊤, cumulative observations ⊤)).mpr ⟨top_boundary bounds, rfl⟩
  have some_ : ((sortedRows counts).find? (fun row => decide (rank ≤ row.2))).isSome := by
    apply List.find?_isSome.mpr
    refine ⟨_, (mem_sorted_rows counts _).mpr last, decide_eq_true ?_⟩
    exact (reaches ⊤).mp le_top
  obtain ⟨row, first⟩ := Option.isSome_iff_exists.mp some_
  obtain ⟨member, wanted, least⟩ := find_sorted_least Prod.fst _ _ (sorted_rows_sorted counts) row first
  obtain ⟨boundary, count⟩ := (counted row).mp ((mem_sorted_rows counts row).mp member)
  refine ⟨row, first, ⟨boundary, ?_⟩, ?_⟩
  · rw [reaches, ← count]
    exact of_decide_eq_true wanted
  · rintro other ⟨inside, above⟩
    have listed := (counted (other, cumulative observations other)).mpr ⟨inside, rfl⟩
    exact least _ ((mem_sorted_rows counts _).mpr listed) (decide_eq_true ((reaches other).mp above))

include increasing positive proper

theorem percentile_counts (counted : Counts bounds observations counts) (small : observations.card ≤ 2 ^ 53)
    (double : IsDouble p) :
    percentile (counts.map toRow) (.finite p) = .ok ((bucketQuantile bounds observations p).map ofBoundary) := by
  have accepted := level_accepted p positive proper
  have total := max_count bounds observations counts counted
  rw [percentile, if_neg (not_not.mpr accepted), total]
  dsimp only
  rw [count_le_zero]
  by_cases none : observations.card = 0
  · rw [if_pos (decide_eq_true none), Multiset.card_eq_zero.mp none, bucketQuantile, nth_smallest_empty]
    rfl
  · have rank := quantile_rank_pos observations.card p double positive (Nat.pos_of_ne_zero none)
    have inside := quantile_rank_le observations.card p positive proper small
    obtain ⟨statistic, found⟩ := nth_smallest_some observations _ rank inside
    obtain ⟨boundary, answer, least⟩ := bucket_quantile_least bounds observations increasing p statistic found
    obtain ⟨row, first, reached⟩ := first_row_least bounds observations counts counted _ statistic found
    have search : ((sortedRows counts).map toRow).find?
        (fun entry => (PyFloat.finite (roundDouble (observations.card * p))).le entry.2) = some (toRow row) := by
      rw [List.find?_map, reaches_target]
      exact congrArg (Option.map toRow) first
    rw [if_neg (by simpa using none), count_mul observations.card p positive proper small, sort_rows, search, answer,
      least.unique reached]
    rfl

end Answer

end SchwabGateway.TtlAnalysis
