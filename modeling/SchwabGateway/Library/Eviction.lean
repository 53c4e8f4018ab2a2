import SchwabGateway.Library.OrderedMap

set_option autoImplicit false

namespace SchwabGateway.Library

namespace OrderedMap

variable {κ ν : Type}

-- The longest tail of a list with a property: what a queue that only ever
-- loses its oldest item can still hold.
def LongestSuffix {α : Type} (fits : List α → Prop) (whole kept : List α) : Prop :=
  kept <:+ whole ∧ fits kept ∧ ∀ other, other <:+ whole → fits other → other <:+ kept

def Fits (entryLimit byteLimit : Nat) (size : ν → Nat) (rows : List (κ × ν)) : Prop :=
  rows.length ≤ entryLimit ∧ total size rows ≤ byteLimit

-- The eviction loop on a counter it is given: while a bound is exceeded the
-- oldest entry goes; none is the error of taking one from an empty dictionary.
def evictRows (entryLimit byteLimit : Nat) (size : ν → Nat) :
    List (κ × ν) → Int → Option (List (κ × ν) × Int)
  | [], bytes => if (byteLimit : Int) < bytes then none else some ([], bytes)
  | row :: rest, bytes =>
      if entryLimit < (row :: rest).length ∨ (byteLimit : Int) < bytes then
        evictRows entryLimit byteLimit size rest (bytes - size row.2)
      else
        some (row :: rest, bytes)

theorem evict_rows_suffix (entryLimit byteLimit : Nat) (size : ν → Nat) (rows : List (κ × ν))
    (bytes : Int) (kept : List (κ × ν)) (left : Int)
    (result : evictRows entryLimit byteLimit size rows bytes = some (kept, left)) :
    kept <:+ rows := by
  induction rows generalizing bytes with
  | nil =>
      rw [evictRows] at result
      split at result
      · cases result
      · cases result
        exact List.suffix_refl []
  | cons row rest ih =>
      rw [evictRows] at result
      split at result
      · exact (ih (bytes - size row.2) result).trans (List.suffix_cons row rest)
      · cases result
        exact List.suffix_refl (row :: rest)

-- With a counter that is right the loop always ends, leaves a right counter,
-- and takes no entry that could have stayed.
theorem evict_rows_longest (entryLimit byteLimit : Nat) (size : ν → Nat) (rows : List (κ × ν)) :
    ∃ kept, evictRows entryLimit byteLimit size rows (total size rows) = some (kept, (total size kept : Int)) ∧
      LongestSuffix (Fits entryLimit byteLimit size) rows kept := by
  induction rows with
  | nil =>
      have within : ¬ (byteLimit : Int) < (total size ([] : List (κ × ν)) : Int) := by
        simp [total]
      refine ⟨[], ?_, List.suffix_refl [], ?_, fun _ suffix _ => suffix⟩
      · rw [evictRows, if_neg within]
      · simp [Fits, total]
  | cons row rest ih =>
      by_cases exceeded : entryLimit < (row :: rest).length ∨ (byteLimit : Int) < (total size (row :: rest) : Int)
      · obtain ⟨kept, result, suffix, fits, longest⟩ := ih
        have counter : (total size (row :: rest) : Int) - size row.2 = total size rest := by
          rw [total_cons]
          omega
        refine ⟨kept, ?_, suffix.trans (List.suffix_cons row rest), fits, ?_⟩
        · rw [evictRows, if_pos exceeded, counter]
          exact result
        · intro other inside within
          have smaller : other <:+ rest := by
            cases List.suffix_cons_iff.mp inside with
            | inl whole =>
                cases whole
                have := within.1
                have := within.2
                omega
            | inr tail => exact tail
          exact longest other smaller within
      · refine ⟨row :: rest, ?_, List.suffix_refl _, ?_, fun _ suffix _ => suffix⟩
        · rw [evictRows, if_neg exceeded]
        · exact ⟨by omega, by omega⟩

def evict (entryLimit byteLimit : Nat) (size : ν → Nat) (map : OrderedMap κ ν) (bytes : Int) :
    Option (OrderedMap κ ν × Int) :=
  match result : evictRows entryLimit byteLimit size map.entries bytes with
  | none => none
  | some (kept, left) =>
      some (⟨kept, map.distinct.sublist
        ((evict_rows_suffix entryLimit byteLimit size _ _ _ _ result).sublist.map Prod.fst)⟩, left)

theorem evict_longest (entryLimit byteLimit : Nat) (size : ν → Nat) (map : OrderedMap κ ν)
    (bytes : Int) (counted : bytes = weight size map) :
    ∃ kept, evict entryLimit byteLimit size map bytes = some (kept, (weight size kept : Int)) ∧
      LongestSuffix (Fits entryLimit byteLimit size) map.entries kept.entries := by
  obtain ⟨rows, result, longest⟩ := evict_rows_longest entryLimit byteLimit size map.entries
  have distinct : (rows.map Prod.fst).Nodup := map.distinct.sublist (longest.1.sublist.map Prod.fst)
  refine ⟨⟨rows, distinct⟩, ?_, longest⟩
  have started : evictRows entryLimit byteLimit size map.entries bytes =
      some (rows, (total size rows : Int)) := by
    rw [counted]
    exact result
  unfold evict
  split
  · rename_i failed
    rw [started] at failed
    cases failed
  · rename_i kept left succeeded
    rw [started] at succeeded
    cases succeeded
    rfl

theorem evict_after_push [DecidableEq κ] (entryLimit byteLimit : Nat) (size : ν → Nat)
    (map : OrderedMap κ ν) (key : κ) (value : ν) (bytes : Int) (counted : bytes = weight size map) :
    ∃ kept, evict entryLimit byteLimit size (map.pushEnd key value)
          (bytes - (((map.get key).map size).getD 0 : Nat) + size value) =
        some (kept, (weight size kept : Int)) ∧
      LongestSuffix (Fits entryLimit byteLimit size) (map.pushEnd key value).entries kept.entries := by
  have erased := weight_erase size map key
  have pushed := weight_push_end size map key value
  have balance : bytes - (((map.get key).map size).getD 0 : Nat) + size value =
      weight size (map.pushEnd key value) := by
    omega
  exact evict_longest entryLimit byteLimit size (map.pushEnd key value) _ balance

theorem evict_keeps_youngest [DecidableEq κ] (entryLimit byteLimit : Nat) (size : ν → Nat)
    (map kept : OrderedMap κ ν) (key : κ) (value : ν) (room : 1 ≤ entryLimit)
    (small : size value ≤ byteLimit)
    (longest : LongestSuffix (Fits entryLimit byteLimit size) (map.pushEnd key value).entries kept.entries) :
    (key, value) ∈ kept.entries := by
  have alone : Fits entryLimit byteLimit size [(key, value)] := by
    simp [Fits, total, room, small]
  have suffix := longest.2.2 [(key, value)] (List.suffix_append _ _) alone
  exact suffix.mem (List.mem_singleton.mpr rfl)

end OrderedMap

end SchwabGateway.Library
