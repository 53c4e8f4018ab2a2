import Mathlib.Data.List.Sort
import SchwabGateway.Library.Dictionary

set_option autoImplicit false

namespace SchwabGateway.Library

variable {κ ν : Type}

def byKey [DecidableEq κ] (key : ν → κ) (items : List ν) : OrderedMap κ ν :=
  OrderedMap.ofPairs (items.map (fun item => (key item, item)))

def LastOfKey [DecidableEq κ] (key : ν → κ) (items : List ν) (item : ν) : Prop :=
  (items.filter (fun other => key other = key item)).getLast? = some item

section Entries

variable [DecidableEq κ] (key : ν → κ)

theorem lookup_reverse_iff (items : List ν) (item : ν) :
    OrderedMap.lookup (items.map (fun item => (key item, item))).reverse (key item) = some item ↔
      LastOfKey key items item := by
  rw [LastOfKey]
  induction items using List.reverseRecOn with
  | nil => rfl
  | append_singleton earlier newest ih =>
      rw [List.map_append, List.map_singleton, List.reverse_append, List.reverse_singleton, List.singleton_append,
        OrderedMap.lookup, List.filter_append]
      by_cases same : key newest = key item
      · rw [if_pos same]
        simp [same]
      · rw [if_neg same, ih]
        simp [same]

theorem by_key_own (items : List ν) (entry : κ × ν) (member : entry ∈ (byKey key items).entries) :
    entry.1 = key entry.2 := by
  obtain ⟨item, _, same⟩ := List.mem_map.mp (OrderedMap.mem_of_pairs _ entry member)
  rw [← same]

theorem mem_by_key (items : List ν) (item : ν) :
    item ∈ (byKey key items).entries.map Prod.snd ↔ LastOfKey key items item := by
  rw [← lookup_reverse_iff, ← OrderedMap.of_pairs_get]
  constructor
  · intro member
    obtain ⟨entry, there, same⟩ := List.mem_map.mp member
    have own := by_key_own key items entry there
    rw [← same, ← own]
    exact (OrderedMap.get_some_iff _ entry.1 entry.2).mpr there
  · intro found
    exact List.mem_map.mpr ⟨(key item, item), OrderedMap.lookup_some_mem _ _ _ found, rfl⟩

theorem by_key_keys (items : List ν) :
    ((byKey key items).entries.map Prod.snd).map key = (byKey key items).keys := by
  rw [List.map_map, OrderedMap.keys]
  apply List.map_congr_left
  intro entry member
  exact (by_key_own key items entry member).symm

end Entries

section Sorted

variable [LinearOrder κ] (key : ν → κ)

def sortedByKey (items : List ν) : List ν :=
  ((byKey key items).entries.map Prod.snd).insertionSort (fun first second => key first ≤ key second)

theorem mem_sorted_by_key (items : List ν) (item : ν) :
    item ∈ sortedByKey key items ↔ LastOfKey key items item := by
  rw [sortedByKey, List.mem_insertionSort, mem_by_key]

theorem sorted_by_key_length (items : List ν) : (sortedByKey key items).length = (byKey key items).entries.length := by
  rw [sortedByKey, List.length_insertionSort, List.length_map]

theorem sorted_by_key_strict (items : List ν) :
    (sortedByKey key items).Pairwise (fun first second => key first < key second) := by
  have ordered : (sortedByKey key items).Pairwise (fun first second => key first ≤ key second) :=
    List.pairwise_insertionSort _ _
  have distinct : ((sortedByKey key items).map key).Nodup := by
    have same : ((sortedByKey key items).map key).Perm (byKey key items).keys := by
      rw [← by_key_keys]
      exact (List.perm_insertionSort _ _).map key
    exact same.nodup_iff.mpr (byKey key items).distinct
  have different := List.pairwise_map.mp distinct
  exact (ordered.and different).imp (fun both => lt_of_le_of_ne both.1 both.2)

theorem strict_unique (first second : List ν)
    (ascending : first.Pairwise (fun one other => key one < key other))
    (also : second.Pairwise (fun one other => key one < key other))
    (members : ∀ item, item ∈ first ↔ item ∈ second) : first = second := by
  have distinct : ∀ list : List ν, list.Pairwise (fun one other => key one < key other) → list.Nodup := by
    intro list held
    apply held.imp
    intro one other less same
    exact absurd less (same ▸ lt_irrefl _)
  have perm := (List.perm_ext_iff_of_nodup (distinct first ascending) (distinct second also)).mpr members
  exact perm.eq_of_pairwise (fun one other _ _ less greater => absurd (less.trans greater) (lt_irrefl _)) ascending also

theorem last_of_key_parts (part : κ → Bool) (first second : List ν) (item : ν) :
    LastOfKey key (first.filter (fun other => part (key other)) ++ second.filter (fun other => !part (key other))) item ↔
      LastOfKey key (if part (key item) then first else second) item := by
  have own : ∀ (list : List ν) (keep : κ → Bool), keep (key item) = true →
      (list.filter (fun other => keep (key other))).filter (fun other => key other = key item) =
        list.filter (fun other => key other = key item) := by
    intro list keep kept
    rw [List.filter_filter]
    apply List.filter_congr
    intro other _
    by_cases same : key other = key item
    · simp [same, kept]
    · simp [same]
  have none_ : ∀ (list : List ν) (keep : κ → Bool), keep (key item) = false →
      (list.filter (fun other => keep (key other))).filter (fun other => key other = key item) = [] := by
    intro list keep dropped
    rw [List.filter_filter]
    apply List.filter_eq_nil_iff.mpr
    intro other _ both
    obtain ⟨same, kept⟩ := Bool.and_eq_true_iff.mp both
    rw [of_decide_eq_true same, dropped] at kept
    cases kept
  rw [LastOfKey, LastOfKey, List.filter_append]
  cases here : part (key item) with
  | true =>
      rw [own first part here, none_ second (fun name => !part name) (by simp [here]), List.append_nil, if_pos rfl]
  | false =>
      rw [none_ first part here, own second (fun name => !part name) (by simp [here]), List.nil_append]
      simp

theorem sorted_by_key_parts (part : κ → Bool) (items : List ν) :
    sortedByKey key (items.filter (fun item => part (key item)) ++ items.filter (fun item => !part (key item))) =
      sortedByKey key items := by
  apply strict_unique key _ _ (sorted_by_key_strict key _) (sorted_by_key_strict key _)
  intro item
  rw [mem_sorted_by_key, mem_sorted_by_key, last_of_key_parts, ite_self]

end Sorted

end SchwabGateway.Library
