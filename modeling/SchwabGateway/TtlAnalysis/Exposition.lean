import Mathlib.Data.Multiset.Filter
import Mathlib.Algebra.BigOperators.Group.Multiset.Basic
import Mathlib.Algebra.Order.WithTop.Untop0
import SchwabGateway.Library.Tally
import SchwabGateway.TtlAnalysis.Histogram

set_option autoImplicit false

namespace SchwabGateway.TtlAnalysis

open SchwabGateway.Library
open SchwabGateway.Python

-- What stands behind the buckets of one histogram: the observations of every
-- label set, counted under one list of bounds.
structure Exposition where
  bounds : List ℚ
  increasing : bounds.Pairwise (· < ·)
  sets : List (Multiset ℚ)

-- The bounds and, last, +Inf.
def boundaries (bounds : List ℚ) : List (WithTop ℚ) := bounds.map WithTop.some ++ [⊤]

def cumulative (observations : Multiset ℚ) (boundary : WithTop ℚ) : Nat :=
  observations.countP (fun observation => WithTop.some observation ≤ boundary)

abbrev Row := WithTop ℚ × Nat

namespace Exposition

def observations (exposition : Exposition) : Multiset ℚ := exposition.sets.sum

def rows (exposition : Exposition) : List Row :=
  exposition.sets.flatMap fun set =>
    (boundaries exposition.bounds).map fun boundary => (boundary, cumulative set boundary)

end Exposition

def ofBoundary : WithTop ℚ → PyFloat
  | none => .infinity
  | some bound => .finite bound

def ofCount (count : Nat) : PyFloat := .finite count

def Concerns (metric operation : String) (sample : Sample) : Prop :=
  sample.name = metric ++ "_bucket" ∧ OrderedMap.lookup sample.labels "operation" = some operation ∧
    OrderedMap.lookup sample.labels "le" ≠ none

instance (metric operation : String) : DecidablePred (Concerns metric operation) := fun _ =>
  inferInstanceAs (Decidable (_ ∧ _ ∧ _))

structure Prints (literals : Literals) (row : Row) (sample : Sample) : Prop where
  boundary : ∃ raw, OrderedMap.lookup sample.labels "le" = some raw ∧ boundaryOf literals raw = .ok (ofBoundary row.1)
  value : sample.value = ofCount row.2

def Exposed (literals : Literals) (operation : String) (samples : List Sample) (metric : String)
    (exposition : Exposition) : Prop :=
  ∃ rows, rows.Perm exposition.rows ∧
    List.Forall₂ (Prints literals) rows (samples.filter (fun sample => Concerns metric operation sample))

section Boundaries

theorem of_boundary_injective : Function.Injective ofBoundary := by
  intro first second same
  cases first with
  | top =>
      cases second with
      | top => rfl
      | coe bound => cases same
  | coe bound =>
      cases second with
      | top => cases same
      | coe other => exact congrArg WithTop.some (PyFloat.finite.inj same)

theorem of_boundary_lt (first second : WithTop ℚ) :
    (ofBoundary first).lt (ofBoundary second) = decide (first < second) := by
  cases first with
  | top =>
      cases second with
      | top => rfl
      | coe bound => exact (decide_eq_false (not_lt.mpr le_top)).symm
  | coe bound =>
      cases second with
      | top => exact (decide_eq_true (WithTop.coe_lt_top bound)).symm
      | coe other => exact decide_eq_decide.mpr WithTop.coe_lt_coe.symm

theorem boundaries_increasing (bounds : List ℚ) (increasing : bounds.Pairwise (· < ·)) :
    (boundaries bounds).Pairwise (· < ·) := by
  apply List.pairwise_append.mpr
  refine ⟨?_, List.pairwise_singleton _ _, ?_⟩
  · exact increasing.map WithTop.some fun _ _ below => WithTop.coe_lt_coe.mpr below
  · intro low member top last
    obtain ⟨bound, _, rfl⟩ := List.mem_map.mp member
    rw [List.mem_singleton.mp last]
    exact WithTop.coe_lt_top bound

theorem cumulative_top (observations : Multiset ℚ) : cumulative observations ⊤ = observations.card :=
  Multiset.countP_eq_card.mpr fun _ _ => le_top

theorem cumulative_bound (observations : Multiset ℚ) (bound : ℚ) :
    cumulative observations bound = observations.countP (· ≤ bound) :=
  Multiset.countP_congr rfl fun _ _ => propext WithTop.coe_le_coe

theorem cumulative_le (observations : Multiset ℚ) (boundary : WithTop ℚ) :
    cumulative observations boundary ≤ observations.card :=
  Multiset.countP_le_card _ _

theorem cumulative_add (first second : Multiset ℚ) (boundary : WithTop ℚ) :
    cumulative (first + second) boundary = cumulative first boundary + cumulative second boundary :=
  Multiset.countP_add _ _ _

end Boundaries

theorem total_of_rows (exposition : Exposition) (boundary : WithTop ℚ)
    (member : boundary ∈ boundaries exposition.bounds) :
    OrderedMap.totalUnder exposition.rows boundary = cumulative exposition.observations boundary := by
  obtain ⟨bounds, increasing, sets⟩ := exposition
  have distinct : (boundaries bounds).Nodup := (boundaries_increasing bounds increasing).imp fun below => below.ne
  induction sets with
  | nil => rfl
  | cons set rest ih =>
      simp only [Exposition.rows, Exposition.observations, List.flatMap_cons, List.sum_cons] at ih ⊢
      rw [OrderedMap.total_under_append, ih member, cumulative_add]
      rw [OrderedMap.total_under_table (boundaries bounds) distinct (cumulative set) boundary member]

theorem mem_rows_keys (exposition : Exposition) (boundary : WithTop ℚ) :
    boundary ∈ exposition.rows.map Prod.fst ↔ exposition.sets ≠ [] ∧ boundary ∈ boundaries exposition.bounds := by
  have keys : exposition.rows.map Prod.fst = exposition.sets.flatMap fun _ => boundaries exposition.bounds := by
    simp [Exposition.rows, List.map_flatMap, Function.comp_def]
  rw [keys, List.mem_flatMap]
  constructor
  · rintro ⟨set, member, inside⟩
    exact ⟨List.ne_nil_of_mem member, inside⟩
  · rintro ⟨some_, inside⟩
    obtain ⟨set, member⟩ := List.exists_mem_of_ne_nil _ some_
    exact ⟨set, member, inside⟩

end SchwabGateway.TtlAnalysis
