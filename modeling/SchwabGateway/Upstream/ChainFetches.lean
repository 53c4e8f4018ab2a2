import Mathlib.Data.List.Perm.Basic
import SchwabGateway.Upstream.ChainEntries

set_option autoImplicit false

namespace SchwabGateway.Upstream

open SchwabGateway.Library SchwabGateway.Python OrderedMap

def FetchStage.isOpen : FetchStage → Bool
  | .running => true
  | .finished _ => true
  | _ => false

-- The table and the open fetches are two views of one thing.
structure FetchInvariant (limit : Nat) (inflight : OrderedMap ChainKey Nat) (fetches : Nat → Fetch)
    (started : Nat) : Prop where
  fresh : ∀ f, started ≤ f → (fetches f).stage.isOpen = false
  listed : ∀ f, (fetches f).stage.isOpen → inflight.get (fetches f).key = some f
  tracked : ∀ key f, inflight.get key = some f → (fetches f).key = key ∧ (fetches f).stage.isOpen
  bounded : inflight.entries.length ≤ limit

theorem no_fetch_invariant (limit : Nat) :
    FetchInvariant limit .empty (fun _ => ⟨("", 0), .absent⟩) 0 where
  fresh _ _ := rfl
  listed _ open_ := by cases open_
  tracked _ _ found := by cases found
  bounded := Nat.zero_le _

theorem start_fetch_invariant (limit : Nat) (inflight : OrderedMap ChainKey Nat) (fetches : Nat → Fetch)
    (started : Nat) (key : ChainKey) (invariant : FetchInvariant limit inflight fetches started)
    (absent : inflight.get key = none) (room : ¬ limit ≤ inflight.entries.length) :
    FetchInvariant limit (inflight.pushEnd key started)
      (Function.update fetches started ⟨key, .running⟩) (started + 1) := by
  refine ⟨?_, ?_, ?_, ?_⟩
  · intro f later
    rw [Function.update_of_ne (by omega)]
    exact invariant.fresh f (by omega)
  · intro f open_
    by_cases same : f = started
    · rw [same, Function.update_self]
      exact get_push_end_same inflight key started
    · rw [Function.update_of_ne same] at open_ ⊢
      have found := invariant.listed f open_
      have other : (fetches f).key ≠ key := by
        intro equal
        rw [equal, absent] at found
        cases found
      exact (get_push_end_other _ _ _ _ _ other).mpr found
  · intro name f found
    by_cases same : name = key
    · rw [same, get_push_end_same] at found
      cases found
      rw [Function.update_self]
      exact ⟨same.symm, rfl⟩
    · have earlier := invariant.tracked name f ((get_push_end_other _ _ _ _ _ same).mp found)
      have old : f ≠ started := by
        intro equal
        have closed := invariant.fresh f (Nat.le_of_eq equal.symm)
        rw [closed] at earlier
        cases earlier.2
      rw [Function.update_of_ne old]
      exact earlier
  · rw [length_push_end_absent _ _ _ absent]
    omega

theorem stage_open_invariant (limit : Nat) (inflight : OrderedMap ChainKey Nat) (fetches : Nat → Fetch)
    (started f : Nat) (stage : FetchStage) (invariant : FetchInvariant limit inflight fetches started)
    (before : (fetches f).stage.isOpen) (after : stage.isOpen) :
    FetchInvariant limit inflight
      (Function.update fetches f { fetches f with stage := stage }) started := by
  have view : ∀ g, (Function.update fetches f { fetches f with stage := stage } g).key = (fetches g).key ∧
      (Function.update fetches f { fetches f with stage := stage } g).stage.isOpen =
        (fetches g).stage.isOpen := by
    intro g
    by_cases same : g = f
    · rw [same, Function.update_self]
      exact ⟨rfl, after.trans before.symm⟩
    · rw [Function.update_of_ne same]
      exact ⟨rfl, rfl⟩
  refine ⟨?_, ?_, ?_, invariant.bounded⟩
  · intro g later
    rw [(view g).2]
    exact invariant.fresh g later
  · intro g open_
    rw [(view g).1]
    exact invariant.listed g ((view g).2 ▸ open_)
  · intro key g found
    rw [(view g).1, (view g).2]
    exact invariant.tracked key g found

theorem finish_fetch_invariant (limit : Nat) (inflight : OrderedMap ChainKey Nat) (fetches : Nat → Fetch)
    (started f : Nat) (stage : FetchStage) (invariant : FetchInvariant limit inflight fetches started)
    (before : (fetches f).stage.isOpen) (after : stage.isOpen = false) :
    FetchInvariant limit (inflight.erase (fetches f).key)
      (Function.update fetches f { fetches f with stage := stage }) started := by
  have mine := invariant.listed f before
  refine ⟨?_, ?_, ?_, ?_⟩
  · intro g later
    by_cases same : g = f
    · rw [same, Function.update_self]
      exact after
    · rw [Function.update_of_ne same]
      exact invariant.fresh g later
  · intro g open_
    by_cases same : g = f
    · rw [same, Function.update_self, after] at open_
      cases open_
    · rw [Function.update_of_ne same] at open_ ⊢
      have found := invariant.listed g open_
      have other : (fetches g).key ≠ (fetches f).key := by
        intro equal
        rw [equal, mine] at found
        exact same (Option.some.inj found).symm
      exact (get_erase_iff _ _ _ _).mpr ⟨found, other⟩
  · intro key g found
    obtain ⟨there, other⟩ := (get_erase_iff _ _ _ _).mp found
    have earlier := invariant.tracked key g there
    have different : g ≠ f := by
      intro equal
      exact other (equal ▸ earlier.1.symm)
    rw [Function.update_of_ne different]
    exact earlier
  · exact List.filter_sublist.length_le.trans invariant.bounded

theorem running_unique (limit : Nat) (inflight : OrderedMap ChainKey Nat) (fetches : Nat → Fetch)
    (started f g : Nat) (invariant : FetchInvariant limit inflight fetches started)
    (first : (fetches f).stage.isOpen) (second : (fetches g).stage.isOpen)
    (same : (fetches f).key = (fetches g).key) : f = g := by
  have one := invariant.listed f first
  have other := invariant.listed g second
  rw [same, other] at one
  exact (Option.some.inj one).symm

theorem running_bounded (limit : Nat) (inflight : OrderedMap ChainKey Nat) (fetches : Nat → Fetch)
    (started : Nat) (invariant : FetchInvariant limit inflight fetches started) (ids : List Nat)
    (distinct : ids.Nodup) (running : ∀ f ∈ ids, (fetches f).stage.isOpen) : ids.length ≤ limit := by
  have keys : (ids.map fun f => (fetches f).key).Nodup := by
    apply List.Nodup.map_on _ distinct
    intro f first g second same
    exact running_unique limit inflight fetches started f g invariant (running f first) (running g second) same
  have inside : (ids.map fun f => (fetches f).key) ⊆ inflight.keys := by
    intro key member
    obtain ⟨f, listed, rfl⟩ := List.mem_map.mp member
    have found := invariant.listed f (running f listed)
    exact inflight.mem_keys_of_mem _ ((get_some_iff _ _ _).mp found)
  have fewer := (List.subperm_of_subset keys inside).length_le
  rw [List.length_map, keys_length] at fewer
  exact fewer.trans invariant.bounded

end SchwabGateway.Upstream
