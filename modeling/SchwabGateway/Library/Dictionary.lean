import Mathlib.Data.List.Induction
import SchwabGateway.Library.OrderedMap

set_option autoImplicit false

namespace SchwabGateway.Library.OrderedMap

variable {κ ν : Type} [DecidableEq κ]

-- Assignment under a key that is there keeps the place of the key.
def replace : List (κ × ν) → κ → ν → List (κ × ν)
  | [], key, value => [(key, value)]
  | row :: rest, key, value =>
      if row.1 = key then (key, value) :: rest else row :: replace rest key value

theorem mem_replace_keys (rows : List (κ × ν)) (key name : κ) (value : ν) :
    name ∈ (replace rows key value).map Prod.fst ↔ name ∈ rows.map Prod.fst ∨ name = key := by
  induction rows with
  | nil => simp [replace]
  | cons row rest ih =>
      by_cases same : row.1 = key
      · rw [replace, if_pos same, List.map_cons, List.map_cons, List.mem_cons, List.mem_cons, same]
        tauto
      · rw [replace, if_neg same, List.map_cons, List.map_cons, List.mem_cons, List.mem_cons, ih]
        tauto

theorem mem_replace (rows : List (κ × ν)) (key : κ) (value : ν) (row : κ × ν) (member : row ∈ replace rows key value) :
    row = (key, value) ∨ row ∈ rows := by
  induction rows with
  | nil => exact .inl (List.mem_singleton.mp member)
  | cons first rest ih =>
      by_cases same : first.1 = key
      · rw [replace, if_pos same] at member
        exact (List.mem_cons.mp member).imp_right (List.mem_cons_of_mem _)
      · rw [replace, if_neg same] at member
        obtain here | later := List.mem_cons.mp member
        · exact .inr (here ▸ List.mem_cons_self)
        · exact (ih later).imp_right (List.mem_cons_of_mem _)

theorem replace_distinct (rows : List (κ × ν)) (key : κ) (value : ν) (distinct : (rows.map Prod.fst).Nodup) :
    ((replace rows key value).map Prod.fst).Nodup := by
  induction rows with
  | nil => exact List.nodup_singleton key
  | cons row rest ih =>
      rw [List.map_cons, List.nodup_cons] at distinct
      by_cases same : row.1 = key
      · rw [replace, if_pos same, List.map_cons, List.nodup_cons, ← same]
        exact distinct
      · rw [replace, if_neg same, List.map_cons, List.nodup_cons, mem_replace_keys]
        exact ⟨not_or.mpr ⟨distinct.1, same⟩, ih distinct.2⟩

theorem lookup_replace (rows : List (κ × ν)) (key name : κ) (value : ν) :
    lookup (replace rows key value) name = if key = name then some value else lookup rows name := by
  induction rows with
  | nil => rfl
  | cons row rest ih =>
      by_cases same : row.1 = key
      · rw [replace, if_pos same, lookup, lookup, same]
        by_cases asked : key = name
        · rw [if_pos asked, if_pos asked]
        · rw [if_neg asked, if_neg asked, if_neg asked]
      · rw [replace, if_neg same, lookup, lookup, ih]
        by_cases asked : row.1 = name
        · have other : key ≠ name := fun equal => same (asked.trans equal.symm)
          rw [if_pos asked, if_pos asked, if_neg other]
        · rw [if_neg asked, if_neg asked]

theorem replace_absent (rows : List (κ × ν)) (key : κ) (value : ν) (absent : key ∉ rows.map Prod.fst) :
    replace rows key value = rows ++ [(key, value)] := by
  induction rows with
  | nil => rfl
  | cons row rest ih =>
      rw [List.map_cons, List.mem_cons, not_or] at absent
      rw [replace, if_neg (Ne.symm absent.1), ih absent.2, List.cons_append]

def store (map : OrderedMap κ ν) (key : κ) (value : ν) : OrderedMap κ ν where
  entries := replace map.entries key value
  distinct := replace_distinct map.entries key value map.distinct

theorem store_entries (map : OrderedMap κ ν) (key : κ) (value : ν) :
    (map.store key value).entries = replace map.entries key value := rfl

def ofPairs (pairs : List (κ × ν)) : OrderedMap κ ν :=
  pairs.foldl (fun map row => map.store row.1 row.2) empty

theorem store_pairs_get (pairs : List (κ × ν)) (map : OrderedMap κ ν) (name : κ) :
    (pairs.foldl (fun map row => map.store row.1 row.2) map).get name =
      (lookup pairs.reverse name).or (map.get name) := by
  induction pairs using List.reverseRecOn with
  | nil => rfl
  | append_singleton earlier row ih =>
      rw [List.foldl_append, List.foldl_cons, List.foldl_nil, List.reverse_append]
      rw [get, store, lookup_replace, List.reverse_singleton, List.singleton_append, lookup]
      by_cases asked : row.1 = name
      · rw [if_pos asked, if_pos asked, Option.some_or]
      · rw [if_neg asked, if_neg asked]
        exact ih

theorem of_pairs_get (pairs : List (κ × ν)) (name : κ) :
    (ofPairs pairs).get name = lookup pairs.reverse name := by
  rw [ofPairs, store_pairs_get, get, empty, lookup, Option.or_none]

theorem mem_of_pairs_keys (pairs : List (κ × ν)) (name : κ) :
    name ∈ (ofPairs pairs).keys ↔ name ∈ pairs.map Prod.fst := by
  have none_iff : name ∉ (ofPairs pairs).keys ↔ name ∉ pairs.map Prod.fst := by
    rw [← get_none_iff, of_pairs_get, lookup_none_iff, List.map_reverse, List.mem_reverse]
  exact not_iff_not.mp none_iff

theorem mem_of_pairs (pairs : List (κ × ν)) (row : κ × ν) (member : row ∈ (ofPairs pairs).entries) : row ∈ pairs := by
  induction pairs using List.reverseRecOn with
  | nil => cases member
  | append_singleton earlier last ih =>
      rw [ofPairs, List.foldl_append, List.foldl_cons, List.foldl_nil, store_entries] at member
      obtain here | before := mem_replace _ _ _ row member
      · exact List.mem_append_right _ (List.mem_singleton.mpr here)
      · exact List.mem_append_left _ (ih before)

theorem of_pairs_distinct (pairs : List (κ × ν)) (distinct : (pairs.map Prod.fst).Nodup) :
    (ofPairs pairs).entries = pairs := by
  induction pairs using List.reverseRecOn with
  | nil => rfl
  | append_singleton earlier row ih =>
      rw [List.map_append, List.nodup_append] at distinct
      have before : (earlier.foldl (fun map row => map.store row.1 row.2) empty).entries = earlier :=
        ih distinct.1
      have absent : row.1 ∉ earlier.map Prod.fst :=
        fun member => distinct.2.2 row.1 member row.1 (by simp) rfl
      rw [ofPairs, List.foldl_append, List.foldl_cons, List.foldl_nil, store_entries, before]
      exact replace_absent earlier row.1 row.2 absent

end SchwabGateway.Library.OrderedMap
