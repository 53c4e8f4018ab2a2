import Mathlib.Data.List.Nodup
import Mathlib.Data.List.Basic
import Mathlib.Algebra.GroupWithZero.Nat
import Mathlib.Algebra.Order.Group.Nat
import Mathlib.Logic.Function.Basic

set_option autoImplicit false

namespace SchwabGateway.Library

-- A dictionary that remembers an order: the oldest entry stands first and no
-- key stands twice.
structure OrderedMap (κ ν : Type) where
  entries : List (κ × ν)
  distinct : (entries.map Prod.fst).Nodup

namespace OrderedMap

variable {κ ν : Type}

def empty : OrderedMap κ ν where
  entries := []
  distinct := List.nodup_nil

def keys (map : OrderedMap κ ν) : List κ := map.entries.map Prod.fst

def filter (map : OrderedMap κ ν) (keep : κ × ν → Bool) : OrderedMap κ ν where
  entries := map.entries.filter keep
  distinct := map.distinct.sublist (List.filter_sublist.map Prod.fst)

theorem keys_length (map : OrderedMap κ ν) : map.keys.length = map.entries.length :=
  List.length_map ..

theorem mem_keys_of_mem (map : OrderedMap κ ν) (entry : κ × ν) (member : entry ∈ map.entries) :
    entry.1 ∈ map.keys :=
  List.mem_map_of_mem member

theorem entry_unique (map : OrderedMap κ ν) (key : κ) (first second : ν)
    (one : (key, first) ∈ map.entries) (other : (key, second) ∈ map.entries) : first = second := by
  have same := List.inj_on_of_nodup_map map.distinct one other rfl
  exact (Prod.mk.inj same).2

section Keyed

variable [DecidableEq κ]

def lookup : List (κ × ν) → κ → Option ν
  | [], _ => none
  | (name, value) :: rest, key => if name = key then some value else lookup rest key

def get (map : OrderedMap κ ν) (key : κ) : Option ν := lookup map.entries key

def erase (map : OrderedMap κ ν) (key : κ) : OrderedMap κ ν :=
  map.filter (fun entry => entry.1 ≠ key)

theorem erase_absent (map : OrderedMap κ ν) (key : κ) : key ∉ (map.erase key).keys := by
  simp [keys, erase, filter]

def pushEnd (map : OrderedMap κ ν) (key : κ) (value : ν) : OrderedMap κ ν where
  entries := (map.erase key).entries ++ [(key, value)]
  distinct := by
    rw [List.map_append]
    apply List.Nodup.append (map.erase key).distinct (List.nodup_singleton key)
    intro name member same
    rw [List.mem_singleton] at same
    exact map.erase_absent key (same ▸ member)

def moveToEnd (map : OrderedMap κ ν) (key : κ) : OrderedMap κ ν :=
  match map.get key with
  | none => map
  | some value => map.pushEnd key value

theorem lookup_some_mem (rows : List (κ × ν)) (key : κ) (value : ν)
    (found : lookup rows key = some value) : (key, value) ∈ rows := by
  induction rows with
  | nil => cases found
  | cons row rest ih =>
      by_cases same : row.1 = key
      · rw [lookup, if_pos same] at found
        cases found
        exact List.mem_cons.mpr (.inl (by rw [← same]))
      · rw [lookup, if_neg same] at found
        exact List.mem_cons_of_mem row (ih found)

theorem lookup_none_iff (rows : List (κ × ν)) (key : κ) :
    lookup rows key = none ↔ key ∉ rows.map Prod.fst := by
  induction rows with
  | nil => simp [lookup]
  | cons row rest ih =>
      by_cases same : row.1 = key
      · simp [lookup, same]
      · simp [lookup, same, ih, Ne.symm same]

theorem get_none_iff (map : OrderedMap κ ν) (key : κ) : map.get key = none ↔ key ∉ map.keys :=
  lookup_none_iff map.entries key

theorem get_some_iff (map : OrderedMap κ ν) (key : κ) (value : ν) :
    map.get key = some value ↔ (key, value) ∈ map.entries := by
  constructor
  · exact lookup_some_mem map.entries key value
  · intro member
    cases found : map.get key with
    | none => exact absurd (map.mem_keys_of_mem _ member) ((map.get_none_iff key).mp found)
    | some other =>
        have there := lookup_some_mem map.entries key other found
        rw [map.entry_unique key other value there member]

theorem mem_erase (map : OrderedMap κ ν) (key : κ) (entry : κ × ν) :
    entry ∈ (map.erase key).entries ↔ entry ∈ map.entries ∧ entry.1 ≠ key := by
  simp [erase, filter]

theorem mem_push_end (map : OrderedMap κ ν) (key : κ) (value : ν) (entry : κ × ν) :
    entry ∈ (map.pushEnd key value).entries ↔
      (entry ∈ map.entries ∧ entry.1 ≠ key) ∨ entry = (key, value) := by
  rw [pushEnd, List.mem_append, mem_erase, List.mem_singleton]

theorem mem_move_to_end (map : OrderedMap κ ν) (key : κ) (entry : κ × ν) :
    entry ∈ (map.moveToEnd key).entries ↔ entry ∈ map.entries := by
  unfold moveToEnd
  cases found : map.get key with
  | none => exact Iff.rfl
  | some value =>
      have there := (map.get_some_iff key value).mp found
      dsimp only
      rw [mem_push_end]
      constructor
      · rintro (⟨member, _⟩ | rfl)
        · exact member
        · exact there
      · intro member
        by_cases same : entry.1 = key
        · obtain ⟨name, content⟩ := entry
          cases same
          exact .inr (by rw [map.entry_unique name content value member there])
        · exact .inl ⟨member, same⟩

theorem keys_push_end (map : OrderedMap κ ν) (key : κ) (value : ν) :
    (map.pushEnd key value).keys = map.keys.filter (· ≠ key) ++ [key] := by
  simp [keys, pushEnd, erase, filter, List.filter_map, Function.comp_def]

theorem keys_move_to_end (map : OrderedMap κ ν) (key : κ) (present : key ∈ map.keys) :
    (map.moveToEnd key).keys = map.keys.filter (· ≠ key) ++ [key] := by
  unfold moveToEnd
  cases found : map.get key with
  | none => exact absurd present ((map.get_none_iff key).mp found)
  | some value => exact map.keys_push_end key value

theorem get_filter_iff (map : OrderedMap κ ν) (keep : κ × ν → Bool) (key : κ) (value : ν) :
    (map.filter keep).get key = some value ↔ map.get key = some value ∧ keep (key, value) := by
  rw [get_some_iff, get_some_iff, filter, List.mem_filter]

theorem get_move_to_end_iff (map : OrderedMap κ ν) (key name : κ) (value : ν) :
    (map.moveToEnd key).get name = some value ↔ map.get name = some value := by
  rw [get_some_iff, get_some_iff, mem_move_to_end]

theorem get_push_end_same (map : OrderedMap κ ν) (key : κ) (value : ν) :
    (map.pushEnd key value).get key = some value := by
  rw [get_some_iff, mem_push_end]
  exact .inr rfl

theorem get_push_end_other (map : OrderedMap κ ν) (key name : κ) (value found : ν) (other : name ≠ key) :
    (map.pushEnd key value).get name = some found ↔ map.get name = some found := by
  simp only [get_some_iff, mem_push_end, Prod.mk.injEq, other, ne_eq, not_false_eq_true, and_true,
    false_and, or_false]

theorem get_erase_iff (map : OrderedMap κ ν) (key name : κ) (value : ν) :
    (map.erase key).get name = some value ↔ map.get name = some value ∧ name ≠ key := by
  rw [get_some_iff, get_some_iff, mem_erase]

theorem length_push_end_absent (map : OrderedMap κ ν) (key : κ) (value : ν) (absent : map.get key = none) :
    (map.pushEnd key value).entries.length = map.entries.length + 1 := by
  have whole : (map.erase key).entries = map.entries := by
    apply List.filter_eq_self.mpr
    intro row member
    apply decide_eq_true
    intro same
    exact (map.get_none_iff key).mp absent (same ▸ map.mem_keys_of_mem row member)
  have split : (map.pushEnd key value).entries = (map.erase key).entries ++ [(key, value)] := rfl
  rw [split, whole, List.length_append, List.length_singleton]

theorem length_move_to_end (map : OrderedMap κ ν) (key : κ) :
    (map.moveToEnd key).entries.length = map.entries.length := by
  have same : (map.moveToEnd key).entries.Perm map.entries := by
    apply (List.perm_ext_iff_of_nodup _ _).mpr (map.mem_move_to_end key)
    · exact List.Nodup.of_map Prod.fst (map.moveToEnd key).distinct
    · exact List.Nodup.of_map Prod.fst map.distinct
  exact same.length_eq

end Keyed

def total (size : ν → Nat) (rows : List (κ × ν)) : Nat := (rows.map (fun row => size row.2)).sum

def weight (size : ν → Nat) (map : OrderedMap κ ν) : Nat := total size map.entries

theorem total_append (size : ν → Nat) (first second : List (κ × ν)) :
    total size (first ++ second) = total size first + total size second := by
  simp [total]

theorem total_cons (size : ν → Nat) (row : κ × ν) (rest : List (κ × ν)) :
    total size (row :: rest) = size row.2 + total size rest := by
  simp [total]

theorem total_filter (size : ν → Nat) (keep : κ × ν → Bool) (rows : List (κ × ν)) :
    total size (rows.filter keep) + total size (rows.filter (fun row => !keep row)) =
      total size rows := by
  induction rows with
  | nil => rfl
  | cons row rest ih =>
      cases kept : keep row with
      | false =>
          simp only [List.filter_cons, kept, Bool.not_false, if_true, Bool.false_eq_true, if_false,
            total_cons]
          omega
      | true =>
          simp only [List.filter_cons, kept, Bool.not_true, if_true, Bool.false_eq_true, if_false,
            total_cons]
          omega

theorem total_lookup [DecidableEq κ] (size : ν → Nat) (rows : List (κ × ν)) (key : κ)
    (distinct : (rows.map Prod.fst).Nodup) :
    total size (rows.filter (fun row => row.1 ≠ key)) + ((lookup rows key).map size).getD 0 =
      total size rows := by
  induction rows with
  | nil => rfl
  | cons row rest ih =>
      rw [List.map_cons, List.nodup_cons] at distinct
      have later := ih distinct.2
      by_cases same : row.1 = key
      · have gone : lookup rest key = none := (lookup_none_iff rest key).mpr (same ▸ distinct.1)
        rw [gone] at later
        simp only [List.filter_cons, same, ne_eq, not_true_eq_false, decide_false, Bool.false_eq_true,
          if_false, lookup, if_true, Option.map_some, Option.getD_some, total_cons]
        simp only [ne_eq, Option.map_none, Option.getD_none, Nat.add_zero] at later
        omega
      · simp only [List.filter_cons, same, ne_eq, not_false_eq_true, decide_true, if_true, lookup,
          if_false, total_cons]
        simp only [ne_eq] at later
        omega

theorem weight_erase [DecidableEq κ] (size : ν → Nat) (map : OrderedMap κ ν) (key : κ) :
    weight size (map.erase key) + ((map.get key).map size).getD 0 = weight size map :=
  total_lookup size map.entries key map.distinct

theorem weight_push_end [DecidableEq κ] (size : ν → Nat) (map : OrderedMap κ ν) (key : κ) (value : ν) :
    weight size (map.pushEnd key value) = weight size (map.erase key) + size value := by
  rw [weight, pushEnd, total_append, total_cons]
  simp [weight, total]

theorem weight_move_to_end [DecidableEq κ] (size : ν → Nat) (map : OrderedMap κ ν) (key : κ) :
    weight size (map.moveToEnd key) = weight size map := by
  unfold moveToEnd
  cases found : map.get key with
  | none => rfl
  | some value =>
      have erased := weight_erase size map key
      rw [found] at erased
      dsimp only
      rw [weight_push_end]
      exact erased

-- used gives the moment each key was last touched: the keys stand in that order.
def Recent (used : κ → Nat) (keys : List κ) : Prop :=
  keys.Pairwise (fun older younger => used older < used younger)

theorem recent_sublist (used : κ → Nat) (some_ all : List κ) (sublist : some_.Sublist all)
    (recent : Recent used all) : Recent used some_ :=
  List.Pairwise.sublist sublist recent

theorem recent_touch [DecidableEq κ] (used : κ → Nat) (keys : List κ) (key : κ) (now : Nat)
    (recent : Recent used keys) (past : ∀ name, used name < now) :
    Recent (Function.update used key now) (keys.filter (· ≠ key) ++ [key]) := by
  apply List.pairwise_append.mpr
  refine ⟨?_, List.pairwise_singleton _ _, ?_⟩
  · apply List.Pairwise.imp_of_mem _ (recent_sublist used _ keys List.filter_sublist recent)
    intro older younger olderIn youngerIn earlier
    have other := of_decide_eq_true (List.mem_filter.mp olderIn).2
    have another := of_decide_eq_true (List.mem_filter.mp youngerIn).2
    rw [Function.update_of_ne other, Function.update_of_ne another]
    exact earlier
  · intro older olderIn younger youngest
    have other := of_decide_eq_true (List.mem_filter.mp olderIn).2
    rw [List.mem_singleton.mp youngest, Function.update_self, Function.update_of_ne other]
    exact past older

end OrderedMap

end SchwabGateway.Library
