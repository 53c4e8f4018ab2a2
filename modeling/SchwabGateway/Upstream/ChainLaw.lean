import SchwabGateway.Upstream.ChainFetches

set_option autoImplicit false

namespace SchwabGateway.Upstream

open SchwabGateway.Library SchwabGateway.Python OrderedMap

variable (size : OptionChainV1 → Nat) (literals : Literals) (settings : ChainCacheSettings)

structure ChainInvariant (s : ChainState) : Prop where
  cache : CacheInvariant size literals settings s.clock s.cache s.lastSuccess
  fetches : FetchInvariant settings.maxInflight s.inflight s.fetches s.started
  quiet : s.raised = false

variable {size literals settings}

theorem initial_chain_invariant (clock : ℚ) :
    ChainInvariant size literals settings (.initial clock) where
  cache := empty_cache_invariant clock
  fetches := no_fetch_invariant settings.maxInflight
  quiet := rfl

theorem running_open (stage : FetchStage) (running : stage.isRunning) : stage.isOpen := by
  cases stage with
  | running => rfl
  | absent => cases running
  | finished outcome => cases running
  | settled outcome => cases running

theorem finished_open (stage : FetchStage) (finished : stage.isFinished) : stage.isOpen := by
  cases stage with
  | finished outcome => rfl
  | absent => cases finished
  | running => cases finished
  | settled outcome => cases finished

theorem set_waiter_invariant (s : ChainState) (w : Nat) (waiter : Waiter)
    (invariant : ChainInvariant size literals settings s) :
    ChainInvariant size literals settings (s.setWaiter w waiter) :=
  ⟨invariant.cache, invariant.fetches, invariant.quiet⟩

theorem set_stage_invariant (s : ChainState) (f : Nat) (outcome : Except ReadError OptionChainV1)
    (running : (s.fetches f).stage.isRunning) (invariant : ChainInvariant size literals settings s) :
    ChainInvariant size literals settings (s.setStage f (.finished outcome)) :=
  ⟨invariant.cache,
    stage_open_invariant settings.maxInflight s.inflight s.fetches s.started f (.finished outcome)
      invariant.fetches (running_open _ running) rfl,
    invariant.quiet⟩

theorem after_read_invariant (s : ChainState) (key : ChainKey) (evaluatedAt : Datetime)
    (invariant : ChainInvariant size literals settings s) :
    ChainInvariant size literals settings
      { s with cache := (cachedOptionChain settings s.cache key s.clock evaluatedAt).2 } :=
  ⟨cached_option_chain_invariant s.clock s.cache s.lastSuccess key s.clock evaluatedAt invariant.cache,
    invariant.fetches, invariant.quiet⟩

theorem read_cached_invariant (s : ChainState) (w : Nat) (key : ChainKey) (evaluatedAt : Datetime)
    (invariant : ChainInvariant size literals settings s) :
    ChainInvariant size literals settings (s.readCached settings w key evaluatedAt) := by
  have after := after_read_invariant s key evaluatedAt invariant
  unfold ChainState.readCached
  dsimp only
  split
  · exact set_waiter_invariant _ w _ after
  · exact set_waiter_invariant _ w _ after

theorem join_inflight_invariant (s : ChainState) (w : Nat) (key : ChainKey)
    (invariant : ChainInvariant size literals settings s) :
    ChainInvariant size literals settings (s.joinInflight w key) := by
  unfold ChainState.joinInflight
  split
  · exact set_waiter_invariant s w _ invariant
  · exact set_waiter_invariant s w _ invariant

theorem get_option_chain_invariant (s : ChainState) (w : Nat) (key : ChainKey) (evaluatedAt : Datetime)
    (invariant : ChainInvariant size literals settings s) :
    ChainInvariant size literals settings (s.getOptionChain settings w key evaluatedAt) := by
  have after := after_read_invariant s key evaluatedAt invariant
  unfold ChainState.getOptionChain
  dsimp only
  split
  · exact set_waiter_invariant _ w _ after
  · split
    · exact set_waiter_invariant _ w _ after
    · rename_i absent
      split
      · exact set_waiter_invariant _ w _ after
      · rename_i room
        exact ⟨after.cache,
          start_fetch_invariant settings.maxInflight s.inflight s.fetches s.started key after.fetches absent room,
          after.quiet⟩

theorem return_fetch_ok (s : ChainState) (f : Nat) (payload : PyValue) (receivedAt : Datetime)
    (chain : OptionChainV1) (invariant : ChainInvariant size literals settings s)
    (fetched : fetchedChain literals settings (s.fetches f).key payload receivedAt = .ok chain) :
    ∃ cache, storeChain size settings s.cache (s.fetches f).key s.clock chain = some cache ∧
      s.returnFetch size literals settings f payload receivedAt =
        (s.recordSuccess size settings f cache ⟨chain, s.clock, payload, receivedAt⟩).setStage f
          (.finished (.ok chain)) := by
  have stored : ∃ cache, storeChain size settings s.cache (s.fetches f).key s.clock chain = some cache := by
    by_cases small : size chain ≤ settings.cacheMaxBytes
    · obtain ⟨after, same, _⟩ :=
        store_chain_small s.cache (s.fetches f).key s.clock chain invariant.cache.counted small
      exact ⟨after, same⟩
    · exact ⟨s.cache, store_chain_large s.cache (s.fetches f).key s.clock chain small⟩
  obtain ⟨cache, same⟩ := stored
  refine ⟨cache, same, ?_⟩
  unfold ChainState.returnFetch
  rw [fetched]
  dsimp only
  rw [same]

theorem record_success_invariant (s : ChainState) (f : Nat) (payload : PyValue) (receivedAt : Datetime)
    (chain : OptionChainV1) (cache : ChainCache) (invariant : ChainInvariant size literals settings s)
    (fetched : fetchedChain literals settings (s.fetches f).key payload receivedAt = .ok chain)
    (stored : storeChain size settings s.cache (s.fetches f).key s.clock chain = some cache) :
    ChainInvariant size literals settings
      (s.recordSuccess size settings f cache ⟨chain, s.clock, payload, receivedAt⟩) := by
  unfold ChainState.recordSuccess
  by_cases small : size chain ≤ settings.cacheMaxBytes
  · obtain ⟨after, same, counted, longest⟩ :=
      store_chain_small s.cache (s.fetches f).key s.clock chain invariant.cache.counted small
    cases stored.symm.trans same
    rw [if_pos small]
    exact ⟨store_chain_invariant s.clock s.cache cache s.lastSuccess (s.fetches f).key
        ⟨chain, s.clock, payload, receivedAt⟩ rfl invariant.cache ⟨fetched, small⟩ counted longest,
      invariant.fetches, invariant.quiet⟩
  · cases stored.symm.trans (store_chain_large s.cache (s.fetches f).key s.clock chain small)
    rw [if_neg small]
    exact invariant

theorem return_fetch_invariant (s : ChainState) (f : Nat) (payload : PyValue) (receivedAt : Datetime)
    (running : (s.fetches f).stage.isRunning) (invariant : ChainInvariant size literals settings s) :
    ChainInvariant size literals settings (s.returnFetch size literals settings f payload receivedAt) := by
  cases fetched : fetchedChain literals settings (s.fetches f).key payload receivedAt with
  | error error =>
      unfold ChainState.returnFetch
      rw [fetched]
      exact set_stage_invariant s f (.error error) running invariant
  | ok chain =>
      obtain ⟨cache, stored, same⟩ := return_fetch_ok s f payload receivedAt chain invariant fetched
      have recorded := record_success_invariant s f payload receivedAt chain cache invariant fetched stored
      rw [same]
      apply set_stage_invariant _ f (.ok chain) _ recorded
      unfold ChainState.recordSuccess
      split
      · exact running
      · exact running

theorem finish_fetch_state (s : ChainState) (f : Nat) (outcome : Except ReadError OptionChainV1)
    (finished : (s.fetches f).stage = .finished outcome)
    (invariant : ChainInvariant size literals settings s) :
    s.finishFetch f =
      { s with inflight := s.inflight.erase (s.fetches f).key }.setStage f (.settled outcome) := by
  have open_ : (s.fetches f).stage.isOpen := by
    rw [finished]
    rfl
  have mine := invariant.fetches.listed f open_
  unfold ChainState.finishFetch
  dsimp only
  rw [if_pos mine, finished]

theorem finish_fetch_keeps (s : ChainState) (f : Nat) (finished : (s.fetches f).stage.isFinished)
    (invariant : ChainInvariant size literals settings s) :
    ChainInvariant size literals settings (s.finishFetch f) := by
  have open_ := finished_open _ finished
  cases stage : (s.fetches f).stage with
  | finished outcome =>
      rw [finish_fetch_state s f outcome stage invariant]
      exact ⟨invariant.cache,
        finish_fetch_invariant settings.maxInflight s.inflight s.fetches s.started f (.settled outcome)
          invariant.fetches open_ rfl,
        invariant.quiet⟩
  | absent => rw [stage] at finished; cases finished
  | running => rw [stage] at finished; cases finished
  | settled outcome => rw [stage] at finished; cases finished

theorem wake_invariant (s : ChainState) (w : Nat) (invariant : ChainInvariant size literals settings s) :
    ChainInvariant size literals settings (s.wake w) := by
  unfold ChainState.wake
  split
  · exact invariant
  · split
    · exact invariant
    · exact set_waiter_invariant s w _ invariant

theorem step_chain_invariant (s : ChainState) (event : ChainEvent)
    (invariant : ChainInvariant size literals settings s)
    (guard : (optionChains size literals settings).enabled s event) :
    ChainInvariant size literals settings ((optionChains size literals settings).perform s event) := by
  cases event with
  | tick now =>
      exact ⟨cache_invariant_later s.clock now s.cache s.lastSuccess guard invariant.cache,
        invariant.fetches, invariant.quiet⟩
  | cached w key evaluatedAt => exact read_cached_invariant s w key evaluatedAt invariant
  | join w key => exact join_inflight_invariant s w key invariant
  | get w key evaluatedAt => exact get_option_chain_invariant s w key evaluatedAt invariant
  | fetchFails f => exact set_stage_invariant s f _ guard invariant
  | fetchReturns f payload receivedAt => exact return_fetch_invariant s f payload receivedAt guard invariant
  | finishFetch f => exact finish_fetch_keeps s f guard invariant
  | wake w => exact wake_invariant s w invariant
  | cancel w => exact set_waiter_invariant s w .cancelled invariant

theorem reachable_chain_invariant (clock : ℚ) (s : ChainState)
    (reached : (optionChains size literals settings).Reaches Set.univ (.initial clock) s) :
    ChainInvariant size literals settings s := by
  apply (optionChains size literals settings).reaches_invariant Set.univ
    (ChainInvariant size literals settings) _ (.initial clock) s reached (initial_chain_invariant clock)
  intro state event _ invariant guard
  exact step_chain_invariant state event invariant guard

theorem read_cached_cache (settings : ChainCacheSettings) (s : ChainState) (w : Nat) (key : ChainKey) (evaluatedAt : Datetime) :
    (s.readCached settings w key evaluatedAt).cache =
      (cachedOptionChain settings s.cache key s.clock evaluatedAt).2 := by
  unfold ChainState.readCached
  dsimp only
  split
  · rfl
  · rfl

theorem get_option_chain_cache (settings : ChainCacheSettings) (s : ChainState) (w : Nat) (key : ChainKey) (evaluatedAt : Datetime) :
    (s.getOptionChain settings w key evaluatedAt).cache =
      (cachedOptionChain settings s.cache key s.clock evaluatedAt).2 := by
  unfold ChainState.getOptionChain
  dsimp only
  split
  · rfl
  · split
    · rfl
    · split
      · rfl
      · rfl

theorem join_inflight_cache (s : ChainState) (w : Nat) (key : ChainKey) :
    (s.joinInflight w key).cache = s.cache := by
  unfold ChainState.joinInflight
  split
  · rfl
  · rfl

theorem wake_cache (s : ChainState) (w : Nat) : (s.wake w).cache = s.cache := by
  unfold ChainState.wake
  split
  · rfl
  · split
    · rfl
    · rfl

theorem finish_fetch_cache (s : ChainState) (f : Nat) : (s.finishFetch f).cache = s.cache := by
  unfold ChainState.finishFetch
  dsimp only
  split
  · split
    · rfl
    · rfl
  · split
    · rfl
    · rfl

theorem return_fetch_failed (size : OptionChainV1 → Nat) (s : ChainState) (f : Nat) (payload : PyValue) (receivedAt : Datetime)
    (error : ReadError)
    (failed : fetchedChain literals settings (s.fetches f).key payload receivedAt = .error error) :
    (s.returnFetch size literals settings f payload receivedAt).cache = s.cache := by
  unfold ChainState.returnFetch
  rw [failed]
  rfl

theorem record_success_cache (s : ChainState) (f : Nat) (cache : ChainCache) (success : Success)
    (stage : FetchStage) :
    ((s.recordSuccess size settings f cache success).setStage f stage).cache = cache := by
  unfold ChainState.recordSuccess
  split
  · rfl
  · rfl

theorem return_fetch_stores (s : ChainState) (f : Nat) (payload : PyValue) (receivedAt : Datetime)
    (chain : OptionChainV1) (invariant : ChainInvariant size literals settings s)
    (fetched : fetchedChain literals settings (s.fetches f).key payload receivedAt = .ok chain)
    (small : size chain ≤ settings.cacheMaxBytes) :
    LongestSuffix (ChainBounds settings)
        (s.cache.entries.pushEnd (s.fetches f).key (settings.entry size s.clock chain)).entries
        (s.returnFetch size literals settings f payload receivedAt).cache.entries.entries ∧
      (s.returnFetch size literals settings f payload receivedAt).cache.entries.get (s.fetches f).key =
        some (settings.entry size s.clock chain) := by
  obtain ⟨cache, stored, same⟩ := return_fetch_ok s f payload receivedAt chain invariant fetched
  obtain ⟨after, again, _, longest⟩ :=
    store_chain_small s.cache (s.fetches f).key s.clock chain invariant.cache.counted small
  cases stored.symm.trans again
  rw [same, record_success_cache]
  have youngest := evict_keeps_youngest settings.cacheMaxEntries settings.cacheMaxBytes
    CachedOptionChain.payloadBytes s.cache.entries cache.entries (s.fetches f).key
    (settings.entry size s.clock chain) settings.entriesBounded.1 small longest
  exact ⟨longest, (get_some_iff _ _ _).mpr youngest⟩

def SucceedsOn (size : OptionChainV1 → Nat) (literals : Literals) (settings : ChainCacheSettings)
    (s : ChainState) (key : ChainKey) (cached : CachedOptionChain) : ChainEvent → Prop
  | .fetchReturns f payload receivedAt =>
      (s.fetches f).key = key ∧ ∃ chain,
        fetchedChain literals settings key payload receivedAt = .ok chain ∧
          cached = settings.entry size s.clock chain
  | _ => False

theorem entry_appears (s : ChainState) (event : ChainEvent)
    (invariant : ChainInvariant size literals settings s) (key : ChainKey) (cached : CachedOptionChain)
    (found : ((optionChains size literals settings).perform s event).cache.entries.get key = some cached) :
    s.cache.entries.get key = some cached ∨ SucceedsOn size literals settings s key cached event := by
  cases event with
  | tick now => exact .inl found
  | cached w name evaluatedAt =>
      change (s.readCached settings w name evaluatedAt).cache.entries.get key = some cached at found
      rw [read_cached_cache] at found
      exact .inl (cached_option_chain_keeps s.cache name key s.clock evaluatedAt cached found)
  | join w name =>
      change (s.joinInflight w name).cache.entries.get key = some cached at found
      rw [join_inflight_cache] at found
      exact .inl found
  | get w name evaluatedAt =>
      change (s.getOptionChain settings w name evaluatedAt).cache.entries.get key = some cached at found
      rw [get_option_chain_cache] at found
      exact .inl (cached_option_chain_keeps s.cache name key s.clock evaluatedAt cached found)
  | fetchFails f => exact .inl found
  | fetchReturns f payload receivedAt =>
      change (s.returnFetch size literals settings f payload receivedAt).cache.entries.get key =
        some cached at found
      cases fetched : fetchedChain literals settings (s.fetches f).key payload receivedAt with
      | error error =>
          rw [return_fetch_failed size s f payload receivedAt error fetched] at found
          exact .inl found
      | ok chain =>
          by_cases small : size chain ≤ settings.cacheMaxBytes
          · have longest := (return_fetch_stores s f payload receivedAt chain invariant fetched small).1
            have member := longest.1.mem ((get_some_iff _ _ _).mp found)
            cases (mem_push_end _ _ _ _).mp member with
            | inl old => exact .inl ((get_some_iff _ _ _).mpr old.1)
            | inr new =>
                cases new
                exact .inr ⟨rfl, chain, fetched, rfl⟩
          · obtain ⟨cache, stored, same⟩ := return_fetch_ok s f payload receivedAt chain invariant fetched
            cases stored.symm.trans (store_chain_large s.cache (s.fetches f).key s.clock chain small)
            rw [same, record_success_cache] at found
            exact .inl found
  | finishFetch f =>
      change (s.finishFetch f).cache.entries.get key = some cached at found
      rw [finish_fetch_cache] at found
      exact .inl found
  | wake w =>
      change (s.wake w).cache.entries.get key = some cached at found
      rw [wake_cache] at found
      exact .inl found
  | cancel w => exact .inl found

def Running (s : ChainState) (f : Nat) : Prop := (s.fetches f).stage.isRunning

-- The law of the upstream: its fetches, its cache, and what one step may do.
structure ChainCacheLaw (size : OptionChainV1 → Nat) (literals : Literals) (settings : ChainCacheSettings)
    (s : ChainState) : Prop where
  onePerKey : ∀ f g, Running s f → Running s g → (s.fetches f).key = (s.fetches g).key → f = g
  runningBounded : ∀ ids : List Nat, ids.Nodup → (∀ f ∈ ids, Running s f) → ids.length ≤ settings.maxInflight
  counted : s.cache.bytes = weight CachedOptionChain.payloadBytes s.cache.entries
  bounded : ChainBounds settings s.cache.entries.entries
  neverRaised : s.raised = false
  served : ∀ key evaluatedAt chain,
    (cachedOptionChain settings s.cache key s.clock evaluatedAt).1 = some chain →
      ∃ success, s.lastSuccess key = some success ∧ SuccessOf size literals settings key success ∧
        chain = success.chain.reevaluated evaluatedAt settings.staleAfterSeconds ∧
        s.clock - success.finishedAt < settings.cacheTtlSeconds
  survives : ∀ f payload receivedAt chain,
    fetchedChain literals settings (s.fetches f).key payload receivedAt = .ok chain →
      size chain ≤ settings.cacheMaxBytes →
        ((optionChains size literals settings).perform s
            (.fetchReturns f payload receivedAt)).cache.entries.get (s.fetches f).key =
          some (settings.entry size s.clock chain)
  cancelling : ∀ w, ((optionChains size literals settings).perform s (.cancel w)).fetches = s.fetches ∧
    ((optionChains size literals settings).perform s (.cancel w)).inflight = s.inflight
  failing : ∀ event key cached, ¬ SucceedsOn size literals settings s key cached event →
    ((optionChains size literals settings).perform s event).cache.entries.get key = some cached →
      s.cache.entries.get key = some cached

theorem chain_cache_law (size : OptionChainV1 → Nat) (literals : Literals) (settings : ChainCacheSettings)
    (clock : ℚ) (s : ChainState)
    (reached : (optionChains size literals settings).Reaches Set.univ (.initial clock) s) :
    ChainCacheLaw size literals settings s := by
  have invariant := reachable_chain_invariant clock s reached
  refine ⟨?_, ?_, invariant.cache.counted, invariant.cache.fits, invariant.quiet, ?_, ?_, ?_, ?_⟩
  · intro f g first second same
    exact running_unique settings.maxInflight s.inflight s.fetches s.started f g invariant.fetches
      (running_open _ first) (running_open _ second) same
  · intro ids distinct running
    exact running_bounded settings.maxInflight s.inflight s.fetches s.started invariant.fetches ids distinct
      (fun f listed => running_open _ (running f listed))
  · intro key evaluatedAt chain served
    obtain ⟨cached, found, live, same⟩ :=
      cached_option_chain_some s.cache key s.clock evaluatedAt chain served
    obtain ⟨success, recorded, rfl, _⟩ := invariant.cache.entries key cached found
    have age : s.clock - success.finishedAt < settings.cacheTtlSeconds := by
      dsimp only [ChainCacheSettings.entry] at live
      linarith
    exact ⟨success, recorded, invariant.cache.successes key success recorded, same, age⟩
  · intro f payload receivedAt chain fetched small
    exact (return_fetch_stores s f payload receivedAt chain invariant fetched small).2
  · exact fun w => ⟨rfl, rfl⟩
  · intro event key cached other found
    cases entry_appears s event invariant key cached found with
    | inl old => exact old
    | inr new => exact absurd new other

def sampleChainSettings : ChainCacheSettings :=
  ⟨.finite 300, 4, 16, 67108864, 4, by decide +kernel, by decide, by decide, by decide⟩

def sampleChainSize : OptionChainV1 → Nat := fun _ => 1379

def sampleChainKey : ChainKey := ("AAPL", Date.ofCivil 2026 8 21)

-- A second caller joins the fetch of the first, the first is cancelled, and
-- a third is answered from the cache.
def sampleChainEvents : List ChainEvent :=
  [.get 0 sampleChainKey 1786543200000000, .get 1 sampleChainKey 1786543200000000, .cancel 0,
    .fetchReturns 0 samplePayload 1786543200000000, .wake 1, .finishFetch 0, .tick 3,
    .get 2 sampleChainKey 1786543203000000]

def sampleChains : ChainState :=
  (optionChains sampleChainSize sampleLiterals sampleChainSettings).performAll (.initial 0) sampleChainEvents

def Waiter.isHit : Waiter → Bool
  | .hit _ => true
  | _ => false

theorem chain_cache_law_sample :
    ChainCacheLaw sampleChainSize sampleLiterals sampleChainSettings sampleChains ∧
      (sampleChains.waiters 2).isHit ∧ sampleChains.started = 1 := by
  refine ⟨chain_cache_law sampleChainSize sampleLiterals sampleChainSettings 0 sampleChains ?_, ?_, ?_⟩
  · apply (optionChains sampleChainSize sampleLiterals sampleChainSettings).reaches_perform_all Set.univ
      (.initial 0) sampleChainEvents (fun _ _ => trivial)
    decide +kernel
  · decide +kernel
  · decide +kernel

end SchwabGateway.Upstream
