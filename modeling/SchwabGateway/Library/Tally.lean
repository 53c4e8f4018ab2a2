import Mathlib.Algebra.BigOperators.Group.List.Basic
import SchwabGateway.Library.Dictionary

set_option autoImplicit false

namespace SchwabGateway.Library.OrderedMap

section Sums

variable {κ ν : Type} [DecidableEq κ] [AddCommMonoid ν]

-- rows[key] = rows.get(key, 0) + value.
def addUnder (rows : List (κ × ν)) (row : κ × ν) : List (κ × ν) :=
  replace rows row.1 ((lookup rows row.1).getD 0 + row.2)

def collect (rows : List (κ × ν)) : List (κ × ν) := rows.foldl addUnder []

def totalUnder (rows : List (κ × ν)) (key : κ) : ν :=
  (rows.map (fun row => if row.1 = key then row.2 else 0)).sum

theorem collect_concat (rows : List (κ × ν)) (row : κ × ν) : collect (rows ++ [row]) = addUnder (collect rows) row :=
  List.foldl_concat addUnder [] row rows

theorem total_under_concat (rows : List (κ × ν)) (row : κ × ν) (key : κ) :
    totalUnder (rows ++ [row]) key = totalUnder rows key + if row.1 = key then row.2 else 0 := by
  simp [totalUnder]

theorem total_under_append (first second : List (κ × ν)) (key : κ) :
    totalUnder (first ++ second) key = totalUnder first key + totalUnder second key := by
  simp [totalUnder]

theorem total_under_perm (first second : List (κ × ν)) (same : first.Perm second) (key : κ) :
    totalUnder first key = totalUnder second key :=
  (same.map _).sum_eq

theorem total_under_absent (rows : List (κ × ν)) (key : κ) (absent : key ∉ rows.map Prod.fst) :
    totalUnder rows key = 0 := by
  apply List.sum_eq_zero
  intro value member
  obtain ⟨row, inside, rfl⟩ := List.mem_map.mp member
  have different : row.1 ≠ key := fun same => absent (same ▸ List.mem_map_of_mem inside)
  exact if_neg different

theorem total_under_table (keys : List κ) (distinct : keys.Nodup) (value : κ → ν) (key : κ) (member : key ∈ keys) :
    totalUnder (keys.map (fun name => (name, value name))) key = value key := by
  obtain ⟨before, after, rfl⟩ := List.append_of_mem member
  rw [List.nodup_middle, List.nodup_cons, List.mem_append, not_or] at distinct
  have none (names : List κ) (absent : key ∉ names) :
      totalUnder (names.map (fun name => (name, value name))) key = 0 := by
    apply total_under_absent
    simpa [Function.comp_def] using absent
  rw [List.map_append, List.map_cons, total_under_append, none before distinct.1.1, zero_add, totalUnder, List.map_cons,
    if_pos rfl, List.sum_cons]
  change value key + totalUnder _ key = _
  rw [none after distinct.1.2, add_zero]

theorem lookup_collect (rows : List (κ × ν)) (key : κ) :
    lookup (collect rows) key = if key ∈ rows.map Prod.fst then some (totalUnder rows key) else none := by
  induction rows using List.reverseRecOn with
  | nil => rfl
  | append_singleton rows row ih =>
      rw [collect_concat, addUnder, lookup_replace, total_under_concat, List.map_append, List.map_singleton]
      by_cases same : row.1 = key
      · have member : key ∈ rows.map Prod.fst ++ [row.1] := by simp [same]
        rw [if_pos same, if_pos same, if_pos member, same, ih]
        by_cases known : key ∈ rows.map Prod.fst
        · rw [if_pos known, Option.getD_some]
        · rw [if_neg known, total_under_absent rows key known, Option.getD_none]
      · have elsewhere : key ∈ rows.map Prod.fst ++ [row.1] ↔ key ∈ rows.map Prod.fst := by simp [Ne.symm same]
        rw [if_neg same, if_neg same, ih, add_zero]
        exact if_congr elsewhere.symm rfl rfl

theorem collect_distinct (rows : List (κ × ν)) : ((collect rows).map Prod.fst).Nodup := by
  induction rows using List.reverseRecOn with
  | nil => exact List.nodup_nil
  | append_singleton rows row ih =>
      rw [collect_concat]
      exact replace_distinct _ _ _ ih

theorem mem_collect (rows : List (κ × ν)) (key : κ) (value : ν) :
    (key, value) ∈ collect rows ↔ key ∈ rows.map Prod.fst ∧ value = totalUnder rows key := by
  constructor
  · intro member
    have found : lookup (collect rows) key = some value := by
      let dictionary : OrderedMap κ ν := ⟨collect rows, collect_distinct rows⟩
      exact (get_some_iff dictionary key value).mpr member
    rw [lookup_collect] at found
    by_cases known : key ∈ rows.map Prod.fst
    · rw [if_pos known] at found
      exact ⟨known, (Option.some.inj found).symm⟩
    · rw [if_neg known] at found
      cases found
  · rintro ⟨known, rfl⟩
    apply lookup_some_mem
    rw [lookup_collect, if_pos known]

end Sums

theorem lookup_table {κ ν : Type} [DecidableEq κ] (keys : List κ) (value : κ → ν) (key : κ) :
    lookup (keys.map (fun name => (name, value name))) key = if key ∈ keys then some (value key) else none := by
  induction keys with
  | nil => rfl
  | cons first rest ih =>
      rw [List.map_cons, lookup, ih]
      by_cases same : first = key
      · rw [if_pos same, if_pos (same ▸ List.mem_cons_self), same]
      · rw [if_neg same]
        have elsewhere : key ∈ first :: rest ↔ key ∈ rest := by simp [Ne.symm same]
        exact if_congr elsewhere.symm rfl rfl

section Renaming

variable {κ ν κ' ν' : Type} [DecidableEq κ] [DecidableEq κ'] (rename : κ → κ') (change : ν → ν')

theorem lookup_map (injective : Function.Injective rename) (rows : List (κ × ν)) (key : κ) :
    lookup (rows.map (Prod.map rename change)) (rename key) = (lookup rows key).map change := by
  induction rows with
  | nil => rfl
  | cons row rest ih =>
      rw [List.map_cons, Prod.map, lookup, lookup]
      by_cases same : row.1 = key
      · rw [if_pos same, if_pos (congrArg rename same), Option.map_some]
      · rw [if_neg same, if_neg (fun renamed => same (injective renamed))]
        exact ih

theorem replace_map (injective : Function.Injective rename) (rows : List (κ × ν)) (key : κ) (value : ν) :
    replace (rows.map (Prod.map rename change)) (rename key) (change value) =
      (replace rows key value).map (Prod.map rename change) := by
  induction rows with
  | nil => rfl
  | cons row rest ih =>
      rw [List.map_cons, Prod.map, replace, replace]
      by_cases same : row.1 = key
      · rw [if_pos same, if_pos (congrArg rename same)]
        rfl
      · rw [if_neg same, if_neg (fun renamed => same (injective renamed)), ih]
        rfl

end Renaming

end SchwabGateway.Library.OrderedMap
