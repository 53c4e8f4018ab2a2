import Mathlib.Order.Bounds.Basic
import SchwabGateway.Library.Ranks
import SchwabGateway.TtlAnalysis.Exposition

set_option autoImplicit false

namespace SchwabGateway.TtlAnalysis

open SchwabGateway.Library
open SchwabGateway.Python

-- The nearest rank of p among count observations, with the product rounded
-- as a float product is.
def quantileRank (count : Nat) (p : ℚ) : Nat := ⌈roundDouble (count * p)⌉₊

def bucketQuantile (bounds : List ℚ) (observations : Multiset ℚ) (p : ℚ) : Option (WithTop ℚ) :=
  (nthSmallest observations (quantileRank observations.card p)).bind fun statistic =>
    (boundaries bounds).find? fun boundary => WithTop.some statistic ≤ boundary

section Rank

theorem quantile_rank_pos (count : Nat) (p : ℚ) (double : IsDouble p) (positive : 0 < p) (some_ : 0 < count) :
    0 < quantileRank count p := by
  have one : (1 : ℚ) ≤ count := by exact_mod_cast some_
  have product : p ≤ count * p := le_mul_of_one_le_left positive.le one
  have rounded := round_double_mono p (count * p) positive.le product
  rw [double] at rounded
  exact Nat.ceil_pos.mpr (lt_of_lt_of_le positive rounded)

theorem round_product_le (count : Nat) (p : ℚ) (positive : 0 < p) (proper : p ≤ 1) (small : count ≤ 2 ^ 53) :
    roundDouble (count * p) ≤ count := by
  have product : (count : ℚ) * p ≤ count := mul_le_of_le_one_right (Nat.cast_nonneg count) proper
  have rounded := round_double_mono (count * p) count (by positivity) product
  rw [natural_double count small] at rounded
  exact rounded

theorem quantile_rank_le (count : Nat) (p : ℚ) (positive : 0 < p) (proper : p ≤ 1) (small : count ≤ 2 ^ 53) :
    quantileRank count p ≤ count :=
  Nat.ceil_le.mpr (round_product_le count p positive proper small)

theorem quantile_rank_mono (count : Nat) (p q : ℚ) (positive : 0 < p) (ordered : p ≤ q) :
    quantileRank count p ≤ quantileRank count q := by
  apply Nat.ceil_mono
  apply round_double_mono _ _ (by positivity)
  exact mul_le_mul_of_nonneg_left ordered (Nat.cast_nonneg count)

-- The rank is the exact one, except where the product comes out as the whole
-- number just below it.
theorem quantile_rank_exact (count : Nat) (p : ℚ) (positive : 0 < p) (proper : p ≤ 1) (small : count ≤ 2 ^ 53) :
    quantileRank count p = ⌈count * p⌉₊ ∨
      quantileRank count p + 1 = ⌈count * p⌉₊ ∧ roundDouble (count * p) = quantileRank count p := by
  have nonneg : (0 : ℚ) ≤ count * p := by positivity
  have top : ⌈(count : ℚ) * p⌉₊ ≤ count :=
    Nat.ceil_le.mpr (mul_le_of_le_one_right (Nat.cast_nonneg count) proper)
  have above : quantileRank count p ≤ ⌈(count : ℚ) * p⌉₊ := by
    apply Nat.ceil_le.mpr
    have rounded := round_double_mono _ _ nonneg (Nat.le_ceil ((count : ℚ) * p))
    rw [natural_double _ (le_trans top small)] at rounded
    exact rounded
  obtain same | less := above.eq_or_lt
  · exact .inl same
  · have strict : (quantileRank count p : ℚ) < count * p := Nat.lt_ceil.mp less
    have rounded := round_double_mono _ _ (Nat.cast_nonneg _) strict.le
    rw [natural_double _ (le_trans (le_trans above top) small)] at rounded
    have equal : roundDouble (count * p) = quantileRank count p := le_antisymm (Nat.le_ceil _) rounded
    have next : quantileRank count p + 1 ≤ 2 ^ 53 := le_trans (le_trans less top) small
    refine .inr ⟨le_antisymm less (Nat.ceil_le.mpr ?_), equal⟩
    by_contra beyond
    have skipped := round_double_mono _ _ (Nat.cast_nonneg _) (not_le.mp beyond).le
    rw [natural_double _ next, equal, Nat.cast_le] at skipped
    omega

end Rank

section Statistic

variable (bounds : List ℚ) (observations : Multiset ℚ)

theorem statistic_reaches (rank : Nat) (statistic : ℚ) (found : nthSmallest observations rank = some statistic)
    (boundary : WithTop ℚ) : WithTop.some statistic ≤ boundary ↔ rank ≤ cumulative observations boundary := by
  cases boundary with
  | top =>
      rw [cumulative_top]
      have all : observations.countP (· ≤ statistic) ≤ observations.card := Multiset.countP_le_card _ _
      exact iff_of_true le_top
        (le_trans ((nth_smallest_le_iff observations rank statistic found statistic).mp (le_refl _)) all)
  | coe bound =>
      rw [cumulative_bound, WithTop.coe_le_coe]
      exact nth_smallest_le_iff observations rank statistic found bound

theorem bucket_quantile_least (increasing : bounds.Pairwise (· < ·)) (p : ℚ) (statistic : ℚ)
    (found : nthSmallest observations (quantileRank observations.card p) = some statistic) :
    ∃ boundary, bucketQuantile bounds observations p = some boundary ∧
      IsLeast {b | b ∈ boundaries bounds ∧ WithTop.some statistic ≤ b} boundary := by
  have sorted : (boundaries bounds).Pairwise (fun first second => id first ≤ id second) :=
    (boundaries_increasing bounds increasing).imp fun below => below.le
  have reached : ((boundaries bounds).find? fun boundary => WithTop.some statistic ≤ boundary).isSome := by
    apply List.find?_isSome.mpr
    exact ⟨⊤, List.mem_append_right _ (List.mem_singleton_self _), decide_eq_true le_top⟩
  obtain ⟨boundary, first⟩ := Option.isSome_iff_exists.mp reached
  obtain ⟨member, wanted, least⟩ := find_sorted_least id _ _ sorted boundary first
  refine ⟨boundary, ?_, ⟨member, of_decide_eq_true wanted⟩, ?_⟩
  · rw [bucketQuantile, found]
    exact first
  · rintro other ⟨inside, asked⟩
    exact least other inside (decide_eq_true asked)

end Statistic

end SchwabGateway.TtlAnalysis
