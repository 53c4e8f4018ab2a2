import SchwabGateway.Upstream.ChainCache

set_option autoImplicit false

namespace SchwabGateway.Upstream

open SchwabGateway.Library SchwabGateway.Python OrderedMap

variable (size : OptionChainV1 → Nat) (literals : Literals) (settings : ChainCacheSettings)

def ChainBounds : List (ChainKey × CachedOptionChain) → Prop :=
  Fits settings.cacheMaxEntries settings.cacheMaxBytes CachedOptionChain.payloadBytes

def EntryOf (clock : ℚ) (last : ChainKey → Option Success) (key : ChainKey)
    (cached : CachedOptionChain) : Prop :=
  ∃ success, last key = some success ∧ cached = settings.entry size success.finishedAt success.chain ∧
    success.finishedAt ≤ clock

def SuccessOf (key : ChainKey) (success : Success) : Prop :=
  fetchedChain literals settings key success.payload success.receivedAt = .ok success.chain ∧
    size success.chain ≤ settings.cacheMaxBytes

structure CacheInvariant (clock : ℚ) (cache : ChainCache) (last : ChainKey → Option Success) : Prop where
  counted : cache.bytes = weight CachedOptionChain.payloadBytes cache.entries
  fits : ChainBounds settings cache.entries.entries
  entries : ∀ key cached, cache.entries.get key = some cached → EntryOf size settings clock last key cached
  successes : ∀ key success, last key = some success → SuccessOf size literals settings key success

variable {size literals settings}

theorem empty_cache_invariant (clock : ℚ) :
    CacheInvariant size literals settings clock .empty (fun _ => none) where
  counted := rfl
  fits := ⟨Nat.zero_le _, Nat.zero_le _⟩
  entries _ _ found := by cases found
  successes _ _ found := by cases found

theorem cache_invariant_later (clock now : ℚ) (cache : ChainCache) (last : ChainKey → Option Success)
    (later : clock ≤ now) (invariant : CacheInvariant size literals settings clock cache last) :
    CacheInvariant size literals settings now cache last := by
  refine ⟨invariant.counted, invariant.fits, ?_, invariant.successes⟩
  intro key cached found
  obtain ⟨success, recorded, same, before⟩ := invariant.entries key cached found
  exact ⟨success, recorded, same, before.trans later⟩

theorem cache_invariant_fewer (clock : ℚ) (cache fewer : ChainCache) (last : ChainKey → Option Success)
    (invariant : CacheInvariant size literals settings clock cache last)
    (counted : fewer.bytes = weight CachedOptionChain.payloadBytes fewer.entries)
    (fits : ChainBounds settings fewer.entries.entries)
    (kept : ∀ key cached, fewer.entries.get key = some cached → cache.entries.get key = some cached) :
    CacheInvariant size literals settings clock fewer last :=
  ⟨counted, fits, fun key cached found => invariant.entries key cached (kept key cached found),
    invariant.successes⟩

theorem pruned_invariant (clock now : ℚ) (cache : ChainCache) (last : ChainKey → Option Success)
    (invariant : CacheInvariant size literals settings clock cache last) :
    CacheInvariant size literals settings clock (cache.pruned now) last := by
  have split := total_filter CachedOptionChain.payloadBytes (fun row => row.2.live now) cache.entries.entries
  have counted := invariant.counted
  have sublist : (cache.entries.filter fun row => row.2.live now).entries.Sublist cache.entries.entries :=
    List.filter_sublist
  apply cache_invariant_fewer clock cache (cache.pruned now) last invariant
  · simp only [ChainCache.pruned, weight, filter] at counted ⊢
    omega
  · refine ⟨sublist.length_le.trans invariant.fits.1, ?_⟩
    have fits := invariant.fits.2
    simp only [ChainCache.pruned, filter] at fits ⊢
    omega
  · intro key cached found
    exact ((get_filter_iff _ _ _ _).mp found).1

theorem cached_option_chain_some (cache : ChainCache) (key : ChainKey) (now : ℚ) (evaluatedAt : Datetime)
    (chain : OptionChainV1)
    (served : (cachedOptionChain settings cache key now evaluatedAt).1 = some chain) :
    ∃ cached, cache.entries.get key = some cached ∧ now < cached.expiresAt ∧
      chain = cached.chain.reevaluated evaluatedAt settings.staleAfterSeconds := by
  unfold cachedOptionChain at served
  dsimp only at served
  split at served
  · cases served
  · rename_i cached found
    cases served
    obtain ⟨present, live⟩ := (get_filter_iff _ _ _ _).mp found
    exact ⟨cached, present, of_decide_eq_true live, rfl⟩

theorem cached_option_chain_keeps (cache : ChainCache) (key name : ChainKey) (now : ℚ)
    (evaluatedAt : Datetime) (cached : CachedOptionChain)
    (found : (cachedOptionChain settings cache key now evaluatedAt).2.entries.get name = some cached) :
    cache.entries.get name = some cached := by
  unfold cachedOptionChain at found
  dsimp only at found
  split at found
  · exact ((get_filter_iff _ _ _ _).mp found).1
  · exact ((get_filter_iff _ _ _ _).mp ((get_move_to_end_iff _ _ _ _).mp found)).1

theorem cached_option_chain_invariant (clock : ℚ) (cache : ChainCache) (last : ChainKey → Option Success)
    (key : ChainKey) (now : ℚ) (evaluatedAt : Datetime)
    (invariant : CacheInvariant size literals settings clock cache last) :
    CacheInvariant size literals settings clock
      (cachedOptionChain settings cache key now evaluatedAt).2 last := by
  have pruned := pruned_invariant clock now cache last invariant
  have same := weight_move_to_end CachedOptionChain.payloadBytes (cache.pruned now).entries key
  have unmoved := length_move_to_end (cache.pruned now).entries key
  unfold cachedOptionChain
  dsimp only
  split
  · exact pruned
  · apply cache_invariant_fewer clock (cache.pruned now) _ last pruned
    · exact pruned.counted.trans (congrArg Nat.cast same.symm)
    · exact ⟨unmoved.trans_le pruned.fits.1, (Nat.le_of_eq same).trans pruned.fits.2⟩
    · intro name cached found
      exact (get_move_to_end_iff _ _ _ _).mp found

theorem store_chain_small (cache : ChainCache) (key : ChainKey) (now : ℚ) (chain : OptionChainV1)
    (counted : cache.bytes = weight CachedOptionChain.payloadBytes cache.entries)
    (small : size chain ≤ settings.cacheMaxBytes) :
    ∃ after, storeChain size settings cache key now chain = some after ∧
      after.bytes = weight CachedOptionChain.payloadBytes after.entries ∧
      LongestSuffix (ChainBounds settings)
        (cache.entries.pushEnd key (settings.entry size now chain)).entries after.entries.entries := by
  obtain ⟨kept, evicted, longest⟩ := evict_after_push settings.cacheMaxEntries settings.cacheMaxBytes
    CachedOptionChain.payloadBytes cache.entries key (settings.entry size now chain) cache.bytes counted
  refine ⟨⟨kept, weight CachedOptionChain.payloadBytes kept⟩, ?_, rfl, longest⟩
  rw [storeChain, if_pos small]
  dsimp only [ChainCacheSettings.entry] at evicted ⊢
  rw [evicted]
  rfl

theorem store_chain_large (cache : ChainCache) (key : ChainKey) (now : ℚ) (chain : OptionChainV1)
    (large : ¬ size chain ≤ settings.cacheMaxBytes) :
    storeChain size settings cache key now chain = some cache := by
  rw [storeChain, if_neg large]

theorem store_chain_invariant (clock : ℚ) (cache after : ChainCache) (last : ChainKey → Option Success)
    (key : ChainKey) (success : Success) (now_ : success.finishedAt = clock)
    (invariant : CacheInvariant size literals settings clock cache last)
    (fresh : SuccessOf size literals settings key success)
    (counted : after.bytes = weight CachedOptionChain.payloadBytes after.entries)
    (longest : LongestSuffix (ChainBounds settings)
      (cache.entries.pushEnd key (settings.entry size clock success.chain)).entries after.entries.entries) :
    CacheInvariant size literals settings clock after (Function.update last key (some success)) := by
  refine ⟨counted, longest.2.1, ?_, ?_⟩
  · intro name cached found
    have member := longest.1.mem ((get_some_iff _ _ _).mp found)
    cases (mem_push_end _ _ _ _).mp member with
    | inl old =>
        obtain ⟨earlier, recorded, same, before⟩ :=
          invariant.entries name cached ((get_some_iff _ _ _).mpr old.1)
        exact ⟨earlier, (Function.update_of_ne old.2 _ _).trans recorded, same, before⟩
    | inr new =>
        cases new
        refine ⟨success, Function.update_self _ _ _, ?_, now_.le⟩
        rw [now_]
  · intro name recorded found
    by_cases same : name = key
    · rw [same, Function.update_self] at found
      cases found
      rw [same]
      exact fresh
    · rw [Function.update_of_ne same] at found
      exact invariant.successes name recorded found

end SchwabGateway.Upstream
