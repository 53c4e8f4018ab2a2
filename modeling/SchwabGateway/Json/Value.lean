import Mathlib.Data.List.Sort
import SchwabGateway.Python.Text
import SchwabGateway.Python.Value

set_option autoImplicit false

namespace SchwabGateway.Json

open SchwabGateway.Python

-- The values without parts that the json module knows, which are its keys as
-- well. object is everything that it does not know.
inductive Scalar where
  | none
  | bool (value : Bool)
  | int (value : Int)
  | float (value : PyFloat)
  | str (text : Text)
  | object
deriving DecidableEq

inductive Sequence where
  | list
  | tuple
deriving DecidableEq

inductive Value where
  | scalar (value : Scalar)
  | sequence (kind : Sequence) (items : List Value)
  | dict (entries : List (Scalar × Value))

abbrev Entries := List (Scalar × Value)

theorem Value.induction {motive : Value → Prop} (scalar : ∀ value, motive (.scalar value))
    (sequence : ∀ kind items, (∀ item ∈ items, motive item) → motive (.sequence kind items))
    (dict : ∀ entries : Entries, (∀ entry ∈ entries, motive entry.2) → motive (.dict entries)) :
    ∀ value, motive value
  | .scalar value => scalar value
  | .sequence kind items => sequence kind items fun item _ => Value.induction scalar sequence dict item
  | .dict entries => dict entries fun entry _ => Value.induction scalar sequence dict entry.2
termination_by value => sizeOf value
decreasing_by
  · have := List.sizeOf_lt_of_mem ‹item ∈ items›
    simp only [Value.sequence.sizeOf_spec]
    omega
  · have := List.sizeOf_lt_of_mem ‹entry ∈ entries›
    cases entry
    simp only [Value.dict.sizeOf_spec, Prod.mk.sizeOf_spec] at this ⊢
    omega

mutual
def Value.everywhere (check : Value → Bool) : Value → Bool
  | .scalar value => check (.scalar value)
  | .sequence kind items => check (.sequence kind items) && everywhereItems check items
  | .dict entries => check (.dict entries) && everywhereEntries check entries
def everywhereItems (check : Value → Bool) : List Value → Bool
  | [] => true
  | item :: rest => item.everywhere check && everywhereItems check rest
def everywhereEntries (check : Value → Bool) : Entries → Bool
  | [] => true
  | (_, value) :: rest => value.everywhere check && everywhereEntries check rest
end

theorem everywhere_items (check : Value → Bool) (items : List Value) :
    everywhereItems check items = true ↔ ∀ item ∈ items, item.everywhere check = true := by
  induction items with
  | nil => simp [everywhereItems]
  | cons item rest ih => simp [everywhereItems, ih]

theorem everywhere_entries (check : Value → Bool) (entries : Entries) :
    everywhereEntries check entries = true ↔ ∀ entry ∈ entries, entry.2.everywhere check = true := by
  induction entries with
  | nil => simp [everywhereEntries]
  | cons entry rest ih => simp [everywhereEntries, ih]

theorem everywhere_sequence (check : Value → Bool) (kind : Sequence) (items : List Value) :
    (Value.sequence kind items).everywhere check = true ↔
      check (.sequence kind items) = true ∧ ∀ item ∈ items, item.everywhere check = true := by
  rw [Value.everywhere, Bool.and_eq_true, everywhere_items]

theorem everywhere_dict (check : Value → Bool) (entries : Entries) :
    (Value.dict entries).everywhere check = true ↔
      check (.dict entries) = true ∧ ∀ entry ∈ entries, entry.2.everywhere check = true := by
  rw [Value.everywhere, Bool.and_eq_true, everywhere_entries]

mutual
def Value.nesting : Value → Nat
  | .scalar _ => 0
  | .sequence _ items => nestingItems items + 1
  | .dict entries => nestingEntries entries + 1
def nestingItems : List Value → Nat
  | [] => 0
  | item :: rest => max item.nesting (nestingItems rest)
def nestingEntries : Entries → Nat
  | [] => 0
  | (_, value) :: rest => max value.nesting (nestingEntries rest)
end

theorem nesting_items_le (items : List Value) (depth : Nat) :
    nestingItems items ≤ depth ↔ ∀ item ∈ items, item.nesting ≤ depth := by
  induction items with
  | nil => simp [nestingItems]
  | cons item rest ih => simp [nestingItems, ih]

theorem nesting_entries_le (entries : Entries) (depth : Nat) :
    nestingEntries entries ≤ depth ↔ ∀ entry ∈ entries, entry.2.nesting ≤ depth := by
  induction entries with
  | nil => simp [nestingEntries]
  | cons entry rest ih => simp [nestingEntries, ih]

theorem nesting_sequence_le (kind : Sequence) (items : List Value) (depth : Nat) :
    (Value.sequence kind items).nesting ≤ depth + 1 ↔ ∀ item ∈ items, item.nesting ≤ depth := by
  rw [Value.nesting, Nat.add_le_add_iff_right, nesting_items_le]

theorem nesting_dict_le (entries : Entries) (depth : Nat) :
    (Value.dict entries).nesting ≤ depth + 1 ↔ ∀ entry ∈ entries, entry.2.nesting ≤ depth := by
  rw [Value.nesting, Nat.add_le_add_iff_right, nesting_entries_le]

def Scalar.number : Scalar → Option PyFloat
  | .bool flag => some (.finite (if flag then 1 else 0))
  | .int value => some (.finite value)
  | .float value => some value
  | _ => .none

def sameNumber : Option PyFloat → Option PyFloat → Bool
  | some number, some other => number = other && number ≠ .nan
  | _, _ => false

-- NaN is not equal to itself, nor is an unknown object.
def Scalar.equals : Scalar → Scalar → Bool
  | .none, .none => true
  | .str text, .str other => text = other
  | value, other => sameNumber value.number other.number

theorem Scalar.equals_str (value : Scalar) (text : Text) : value.equals (.str text) = true ↔ value = .str text := by
  cases value with
  | str other => simp [Scalar.equals]
  | none | bool | int | float | object => simp [Scalar.equals, Scalar.number, sameNumber]

theorem Scalar.str_equals (value : Scalar) (text : Text) :
    (Scalar.str text).equals value = true ↔ value = .str text := by
  cases value with
  | str other => simp [Scalar.equals, eq_comm]
  | none | bool | int | float | object => simp [Scalar.equals, Scalar.number, sameNumber]

theorem same_number_comm (number other : Option PyFloat) : sameNumber number other = sameNumber other number := by
  cases number with
  | none =>
      cases other with
      | none | some => rfl
  | some left =>
      cases other with
      | none => rfl
      | some right =>
          by_cases same : left = right
          · rw [same]
          · simp only [sameNumber, same, Ne.symm same, decide_false, Bool.false_and]

theorem Scalar.equals_comm (value other : Scalar) : value.equals other = other.equals value := by
  have numbers := same_number_comm value.number other.number
  cases value with
  | none | bool | int | float | str | object =>
      cases other with
      | none | bool | int | float | str | object =>
          simp only [Scalar.equals, numbers, eq_comm]

def lookup (key : Scalar) : Entries → Option Value
  | [] => .none
  | (name, value) :: rest => if name.equals key then some value else lookup key rest

-- value == other. Two dictionaries are equal if they have the same keys and
-- equal values under them, whatever their order is.
mutual
def Value.equals : Value → Value → Bool
  | .scalar value, .scalar other => value.equals other
  | .sequence kind items, .sequence other others => kind = other && itemsEqual items others
  | .dict entries, .dict others =>
      entriesWithin entries others && others.all (fun entry => (lookup entry.1 entries).isSome)
  | _, _ => false
def itemsEqual : List Value → List Value → Bool
  | [], [] => true
  | item :: rest, other :: others => item.equals other && itemsEqual rest others
  | _, _ => false
def entriesWithin : Entries → Entries → Bool
  | [], _ => true
  | (key, value) :: rest, others =>
      (match lookup key others with
        | some other => value.equals other
        | .none => false) && entriesWithin rest others
end

theorem items_equal_iff (items others : List Value) :
    itemsEqual items others = true ↔ List.Forall₂ (fun item other => item.equals other = true) items others := by
  induction items generalizing others with
  | nil =>
      cases others with
      | nil => simp [itemsEqual]
      | cons other others => simp [itemsEqual]
  | cons item rest ih =>
      cases others with
      | nil => simp [itemsEqual]
      | cons other others => simp [itemsEqual, ih]

theorem entries_within_iff (entries others : Entries) :
    entriesWithin entries others = true ↔
      ∀ entry ∈ entries, ∃ other, lookup entry.1 others = some other ∧ entry.2.equals other = true := by
  induction entries with
  | nil => simp [entriesWithin]
  | cons entry rest ih =>
      obtain ⟨key, value⟩ := entry
      rw [entriesWithin, Bool.and_eq_true, ih, List.forall_mem_cons]
      refine and_congr_left' ?_
      cases lookup key others with
      | none => simp
      | some other => simp

theorem dict_equals_iff (entries others : Entries) :
    (Value.dict entries).equals (.dict others) = true ↔
      (∀ entry ∈ entries, ∃ other, lookup entry.1 others = some other ∧ entry.2.equals other = true) ∧
        ∀ entry ∈ others, (lookup entry.1 entries).isSome = true := by
  rw [Value.equals, Bool.and_eq_true, entries_within_iff, List.all_eq_true]

def distinctKeys (entries : Entries) : Bool :=
  decide (entries.Pairwise (fun entry other => entry.1.equals other.1 = false))

theorem distinct_keys_perm (entries others : Entries) (same : (entries.map Prod.fst).Perm (others.map Prod.fst)) :
    distinctKeys entries = distinctKeys others := by
  have keys : ∀ rows : Entries, (rows.map Prod.fst).Pairwise (fun key other => key.equals other = false) ↔
      rows.Pairwise (fun entry other => entry.1.equals other.1 = false) := fun rows => List.pairwise_map
  rw [distinctKeys, distinctKeys, decide_eq_decide, ← keys, ← keys]
  exact same.pairwise_iff fun apart => (Scalar.equals_comm _ _).trans apart

theorem lookup_mem (key : Scalar) (entries : Entries) (value : Value) (found : lookup key entries = some value) :
    ∃ name, (name, value) ∈ entries ∧ name.equals key = true := by
  induction entries with
  | nil => cases found
  | cons entry rest ih =>
      obtain ⟨name, other⟩ := entry
      rw [lookup] at found
      by_cases same : name.equals key = true
      · rw [if_pos same] at found
        cases found
        exact ⟨name, List.mem_cons_self, same⟩
      · rw [if_neg same] at found
        obtain ⟨found, member, equal⟩ := ih found
        exact ⟨found, List.mem_cons_of_mem _ member, equal⟩

theorem lookup_distinct (text : Text) (entries : Entries) (value : Value)
    (distinct : distinctKeys entries = true) (member : (Scalar.str text, value) ∈ entries) :
    lookup (.str text) entries = some value := by
  rw [distinctKeys, decide_eq_true_eq] at distinct
  induction entries with
  | nil => cases member
  | cons entry rest ih =>
      obtain ⟨first, later⟩ := List.pairwise_cons.mp distinct
      obtain rfl | inRest := List.mem_cons.mp member
      · rw [lookup, if_pos ((Scalar.equals_str _ _).mpr rfl)]
      · obtain ⟨name, other⟩ := entry
        have different : name.equals (.str text) = false := first _ inRest
        rw [lookup, if_neg (by simp [different])]
        exact ih later inRest

end SchwabGateway.Json
