import SchwabGateway.Json.Loss

set_option autoImplicit false

namespace SchwabGateway.Json

open SchwabGateway.Python SchwabGateway.Library

section Entries

variable (entries : Entries)

theorem mem_canonical_entries (row : Scalar × Value) :
    row ∈ (canonicalEntries entries).insertionSort keyOrder ↔
      ∃ entry ∈ entries, (entry.1, entry.2.canonical) = row := by
  rw [(canonical_dict_perm entries).mem_iff, List.mem_map]

theorem canonical_keys :
    (((canonicalEntries entries).insertionSort keyOrder).map Prod.fst).Perm (entries.map Prod.fst) := by
  have keys := (canonical_dict_perm entries).map Prod.fst
  rwa [List.map_map] at keys

theorem canonical_distinct (distinct : distinctKeys entries = true) :
    distinctKeys ((canonicalEntries entries).insertionSort keyOrder) = true := by
  rw [distinct_keys_perm _ entries (canonical_keys entries)]
  exact distinct

theorem lookup_canonical (text : Text) (distinct : distinctKeys entries = true) :
    lookup (.str text) ((canonicalEntries entries).insertionSort keyOrder) =
      (lookup (.str text) entries).map Value.canonical := by
  cases found : lookup (.str text) entries with
  | some value =>
      obtain ⟨name, member, same⟩ := lookup_mem _ _ value found
      rw [Scalar.equals_str] at same
      subst same
      exact lookup_distinct text _ value.canonical (canonical_distinct entries distinct)
        ((mem_canonical_entries entries _).mpr ⟨_, member, rfl⟩)
  | none =>
      cases there : lookup (.str text) ((canonicalEntries entries).insertionSort keyOrder) with
      | none => rfl
      | some value =>
          obtain ⟨name, member, same⟩ := lookup_mem _ _ value there
          rw [Scalar.equals_str] at same
          subst same
          obtain ⟨entry, inside, whole⟩ := (mem_canonical_entries entries _).mp member
          have key : entry.1 = .str text := congrArg Prod.fst whole
          rw [lookup_distinct text entries entry.2 distinct (key ▸ inside)] at found
          cases found

end Entries

section Values

variable (floats : Floats)

theorem scalar_equals_self (value : Scalar) (written : writable floats (.scalar value) = true) :
    value.equals value = true := by
  cases value with
  | float number =>
      cases number with
      | finite number => simp [Scalar.equals, Scalar.number, sameNumber]
      | infinity | negInfinity | nan => cases written
  | object => cases written
  | none | bool | int | str => simp [Scalar.equals, Scalar.number, sameNumber]

theorem canonical_equals (value : Value) : value.everywhere (writable floats) = true → value.proper floats = true →
    value.plain = true → value.canonical.equals value = true := by
  induction value using Value.induction with
  | scalar value =>
      intro written _ _
      exact scalar_equals_self floats value written
  | sequence kind items ih =>
      intro written proper plain
      obtain ⟨_, writtenItems⟩ := (everywhere_sequence _ _ _).mp written
      obtain ⟨_, properItems⟩ := (everywhere_sequence _ _ _).mp proper
      obtain ⟨_, plainItems⟩ := (everywhere_sequence _ _ _).mp plain
      rw [Value.canonical, canonical_items, Value.equals, Bool.and_eq_true, items_equal_iff,
        List.forall₂_map_left_iff, List.forall₂_same]
      exact ⟨decide_eq_true rfl,
        fun item member => ih item member (writtenItems item member) (properItems item member) (plainItems item member)⟩
  | dict entries ih =>
      intro written proper plain
      obtain ⟨_, writtenValues⟩ := (everywhere_dict _ _).mp written
      obtain ⟨distinct, properValues⟩ := (everywhere_dict _ _).mp proper
      obtain ⟨plainKeys, plainValues⟩ := (everywhere_dict _ _).mp plain
      have named : ∀ entry ∈ entries, entry.1 = .str (nameOf entry.1) :=
        fun entry member => (plain_text_name entry.1 (List.all_eq_true.mp plainKeys entry member)).1
      rw [Value.canonical, dict_equals_iff]
      constructor
      · intro row member
        obtain ⟨entry, inside, rfl⟩ := (mem_canonical_entries entries row).mp member
        refine ⟨entry.2, ?_, ih entry inside (writtenValues entry inside) (properValues entry inside)
          (plainValues entry inside)⟩
        rw [named entry inside]
        exact lookup_distinct _ entries entry.2 distinct (named entry inside ▸ inside)
      · intro entry inside
        have own := lookup_distinct (nameOf entry.1) entries entry.2 distinct (named entry inside ▸ inside)
        rw [named entry inside, lookup_canonical entries _ distinct, own]
        rfl

theorem canonical_nesting (value : Value) : ∀ depth, value.nesting ≤ depth → value.canonical.nesting ≤ depth := by
  induction value using Value.induction with
  | scalar value => exact fun _ nested => nested
  | sequence kind items ih =>
      intro depth nested
      cases depth with
      | zero => exact absurd nested (by simp [Value.nesting])
      | succ depth =>
          rw [nesting_sequence_le] at nested
          rw [Value.canonical, canonical_items, nesting_sequence_le, List.forall_mem_map]
          exact fun item member => ih item member depth (nested item member)
  | dict entries ih =>
      intro depth nested
      cases depth with
      | zero => exact absurd nested (by simp [Value.nesting])
      | succ depth =>
          rw [nesting_dict_le] at nested
          rw [Value.canonical, nesting_dict_le]
          intro row member
          obtain ⟨entry, inside, rfl⟩ := (mem_canonical_entries entries row).mp member
          exact ih entry inside depth (nested entry inside)

theorem canonical_writable (value : Value) : value.everywhere (writable floats) = true →
    value.canonical.everywhere (writable floats) = true := by
  induction value using Value.induction with
  | scalar value => exact id
  | sequence kind items ih =>
      intro written
      obtain ⟨_, writtenItems⟩ := (everywhere_sequence _ _ _).mp written
      rw [Value.canonical, canonical_items, everywhere_sequence, List.forall_mem_map]
      exact ⟨rfl, fun item member => ih item member (writtenItems item member)⟩
  | dict entries ih =>
      intro written
      obtain ⟨keys, writtenValues⟩ := (everywhere_dict _ _).mp written
      rw [writable, List.all_eq_true] at keys
      rw [Value.canonical, everywhere_dict, writable, List.all_eq_true]
      constructor
      · intro row member
        obtain ⟨entry, inside, rfl⟩ := (mem_canonical_entries entries row).mp member
        exact keys entry inside
      · intro row member
        obtain ⟨entry, inside, rfl⟩ := (mem_canonical_entries entries row).mp member
        exact ih entry inside (writtenValues entry inside)

theorem canonical_dumps (depth : Nat) (value : Value) (dumps : value.dumps floats depth = true) :
    value.canonical.dumps floats depth = true := by
  rw [Value.dumps, Bool.and_eq_true, decide_eq_true_eq] at dumps ⊢
  exact ⟨canonical_nesting value depth dumps.1, canonical_writable floats value dumps.2⟩

end Values

end SchwabGateway.Json
