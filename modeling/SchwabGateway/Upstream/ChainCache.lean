import Mathlib.Logic.Function.Basic
import SchwabGateway.Library.Eviction
import SchwabGateway.Library.Transition
import SchwabGateway.Upstream.Reevaluation

set_option autoImplicit false

namespace SchwabGateway.Upstream

open SchwabGateway.Library SchwabGateway.Python

structure ChainCacheSettings where
  staleAfterSeconds : PyFloat
  cacheTtlSeconds : ℚ
  cacheMaxEntries : Nat
  cacheMaxBytes : Nat
  maxInflight : Nat
  ttlBounded : 0 < cacheTtlSeconds ∧ cacheTtlSeconds ≤ 8
  entriesBounded : 1 ≤ cacheMaxEntries ∧ cacheMaxEntries ≤ 16
  bytesBounded : 1 ≤ cacheMaxBytes ∧ cacheMaxBytes ≤ 64 * 1024 * 1024
  inflightBounded : 1 ≤ maxInflight ∧ maxInflight ≤ 16

abbrev ChainKey := String × Date

structure CachedOptionChain where
  createdAt : ℚ
  expiresAt : ℚ
  chain : OptionChainV1
  payloadBytes : Nat

structure ChainCache where
  entries : OrderedMap ChainKey CachedOptionChain
  bytes : Int

def ChainCache.empty : ChainCache := ⟨.empty, 0⟩

def CachedOptionChain.live (now : ℚ) (cached : CachedOptionChain) : Bool := now < cached.expiresAt

def ChainCache.pruned (cache : ChainCache) (now : ℚ) : ChainCache where
  entries := cache.entries.filter fun row => row.2.live now
  bytes :=
    cache.bytes -
      OrderedMap.total CachedOptionChain.payloadBytes
        (cache.entries.entries.filter fun row => !row.2.live now)

section Operations

variable (size : OptionChainV1 → Nat) (literals : Literals) (settings : ChainCacheSettings)

def cachedOptionChain (cache : ChainCache) (key : ChainKey) (now : ℚ) (evaluatedAt : Datetime) :
    Option OptionChainV1 × ChainCache :=
  let pruned := cache.pruned now
  match pruned.entries.get key with
  | none => (none, pruned)
  | some cached =>
      (some (cached.chain.reevaluated evaluatedAt settings.staleAfterSeconds),
        { pruned with entries := pruned.entries.moveToEnd key })

-- The sum of the clock reading and the lifetime is exact here.
def ChainCacheSettings.entry (now : ℚ) (chain : OptionChainV1) : CachedOptionChain where
  createdAt := now
  expiresAt := now + settings.cacheTtlSeconds
  chain := chain
  payloadBytes := size chain

-- The end of _fetch_option_chain with _evict_to_bounds: none is the KeyError of
-- popitem on an empty dictionary.
def storeChain (cache : ChainCache) (key : ChainKey) (now : ℚ) (chain : OptionChainV1) :
    Option ChainCache :=
  if size chain ≤ settings.cacheMaxBytes then
    let previous := ((cache.entries.get key).map CachedOptionChain.payloadBytes).getD 0
    (OrderedMap.evict settings.cacheMaxEntries settings.cacheMaxBytes CachedOptionChain.payloadBytes
      (cache.entries.pushEnd key (settings.entry size now chain))
      (cache.bytes - previous + size chain)).map fun (kept, left) => ⟨kept, left⟩
  else some cache

-- What _fetch_option_chain makes of the payload the provider returned.
def fetchedChain (key : ChainKey) (payload : PyValue) (receivedAt : Datetime) :
    Except ReadError OptionChainV1 :=
  match normalizeOptionChain literals key.2 receivedAt settings.staleAfterSeconds key.1 payload with
  | .ok chain => .ok chain
  | .error error => .error (readError "Schwab option chain response was invalid" error)

-- A fetch task: in the provider, done with its callback still to come, or over.
inductive FetchStage where
  | absent
  | running
  | finished (outcome : Except ReadError OptionChainV1)
  | settled (outcome : Except ReadError OptionChainV1)

structure Fetch where
  key : ChainKey
  stage : FetchStage

-- A caller: one that returned without waiting, or one behind a shield.
inductive Waiter where
  | absent
  | hit (chain : OptionChainV1)
  | missed
  | refused (error : ReadError)
  | waiting (fetch : Nat)
  | answered (outcome : Except ReadError OptionChainV1)
  | cancelled

-- The last success of a key that was small enough for the cache.
structure Success where
  chain : OptionChainV1
  finishedAt : ℚ
  payload : PyValue
  receivedAt : Datetime

structure ChainState where
  clock : ℚ
  cache : ChainCache
  inflight : OrderedMap ChainKey Nat
  fetches : Nat → Fetch
  started : Nat
  waiters : Nat → Waiter
  lastSuccess : ChainKey → Option Success
  raised : Bool

def ChainState.initial (clock : ℚ) : ChainState where
  clock := clock
  cache := .empty
  inflight := .empty
  fetches _ := ⟨("", 0), .absent⟩
  started := 0
  waiters _ := .absent
  lastSuccess _ := none
  raised := false

inductive ChainEvent where
  | tick (now : ℚ)
  | cached (w : Nat) (key : ChainKey) (evaluatedAt : Datetime)
  | join (w : Nat) (key : ChainKey)
  | get (w : Nat) (key : ChainKey) (evaluatedAt : Datetime)
  | fetchFails (f : Nat)
  | fetchReturns (f : Nat) (payload : PyValue) (receivedAt : Datetime)
  | finishFetch (f : Nat)
  | wake (w : Nat)
  | cancel (w : Nat)

def FetchStage.isRunning : FetchStage → Bool
  | .running => true
  | _ => false

def FetchStage.isFinished : FetchStage → Bool
  | .finished _ => true
  | _ => false

def FetchStage.outcome : FetchStage → Option (Except ReadError OptionChainV1)
  | .finished outcome => some outcome
  | .settled outcome => some outcome
  | _ => none

def Waiter.isAbsent : Waiter → Bool
  | .absent => true
  | _ => false

def Waiter.fetch : Waiter → Option Nat
  | .waiting fetch => some fetch
  | _ => none

namespace ChainState

def setWaiter (s : ChainState) (w : Nat) (waiter : Waiter) : ChainState :=
  { s with waiters := Function.update s.waiters w waiter }

def setStage (s : ChainState) (f : Nat) (stage : FetchStage) : ChainState :=
  { s with fetches := Function.update s.fetches f { s.fetches f with stage := stage } }

def readCached (s : ChainState) (w : Nat) (key : ChainKey) (evaluatedAt : Datetime) : ChainState :=
  let (result, cache) := cachedOptionChain settings s.cache key s.clock evaluatedAt
  match result with
  | none => { s with cache := cache }.setWaiter w .missed
  | some chain => { s with cache := cache }.setWaiter w (.hit chain)

def joinInflight (s : ChainState) (w : Nat) (key : ChainKey) : ChainState :=
  match s.inflight.get key with
  | none => s.setWaiter w .missed
  | some fetch => s.setWaiter w (.waiting fetch)

def startFetch (s : ChainState) (w : Nat) (key : ChainKey) : ChainState :=
  { s with
    fetches := Function.update s.fetches s.started ⟨key, .running⟩
    inflight := s.inflight.pushEnd key s.started
    started := s.started + 1 }.setWaiter w (.waiting s.started)

def inflightRefusal : ReadError := .unavailable "option-chain in-flight capacity is unavailable"

-- get_option_chain up to its first await.
def getOptionChain (s : ChainState) (w : Nat) (key : ChainKey) (evaluatedAt : Datetime) : ChainState :=
  let (result, cache) := cachedOptionChain settings s.cache key s.clock evaluatedAt
  let s := { s with cache := cache }
  match result with
  | some chain => s.setWaiter w (.hit chain)
  | none =>
      match s.inflight.get key with
      | some fetch => s.setWaiter w (.waiting fetch)
      | none =>
          if settings.maxInflight ≤ s.inflight.entries.length then
            s.setWaiter w (.refused inflightRefusal)
          else s.startFetch w key

def failFetch (s : ChainState) (f : Nat) : ChainState :=
  s.setStage f (.finished (.error (.unavailable "Schwab option chain request failed")))

def recordSuccess (s : ChainState) (f : Nat) (cache : ChainCache) (success : Success) : ChainState :=
  if size success.chain ≤ settings.cacheMaxBytes then
    { s with
      cache := cache
      lastSuccess := Function.update s.lastSuccess (s.fetches f).key (some success) }
  else { s with cache := cache }

def returnFetch (s : ChainState) (f : Nat) (payload : PyValue) (receivedAt : Datetime) : ChainState :=
  match fetchedChain literals settings (s.fetches f).key payload receivedAt with
  | .error error => s.setStage f (.finished (.error error))
  | .ok chain =>
      match storeChain size settings s.cache (s.fetches f).key s.clock chain with
      | none => { s with raised := true }
      | some cache =>
          (s.recordSuccess size settings f cache ⟨chain, s.clock, payload, receivedAt⟩).setStage f
            (.finished (.ok chain))

def finishFetch (s : ChainState) (f : Nat) : ChainState :=
  let fetch := s.fetches f
  let s := if s.inflight.get fetch.key = some f then { s with inflight := s.inflight.erase fetch.key } else s
  match fetch.stage with
  | .finished outcome => s.setStage f (.settled outcome)
  | _ => s

def wake (s : ChainState) (w : Nat) : ChainState :=
  match (s.waiters w).fetch with
  | none => s
  | some f =>
      match (s.fetches f).stage.outcome with
      | none => s
      | some outcome => s.setWaiter w (.answered outcome)

end ChainState

def optionChains : System ChainState ChainEvent where
  enabled s event :=
    match event with
    | .tick now => s.clock ≤ now
    | .cached w _ _ => (s.waiters w).isAbsent
    | .join w _ => (s.waiters w).isAbsent
    | .get w _ _ => (s.waiters w).isAbsent
    | .fetchFails f => (s.fetches f).stage.isRunning
    | .fetchReturns f _ _ => (s.fetches f).stage.isRunning
    | .finishFetch f => (s.fetches f).stage.isFinished
    | .wake w => ((s.waiters w).fetch.bind fun f => (s.fetches f).stage.outcome).isSome
    | .cancel w => (s.waiters w).fetch.isSome
  perform s event :=
    match event with
    | .tick now => { s with clock := now }
    | .cached w key evaluatedAt => s.readCached settings w key evaluatedAt
    | .join w key => s.joinInflight w key
    | .get w key evaluatedAt => s.getOptionChain settings w key evaluatedAt
    | .fetchFails f => s.failFetch f
    | .fetchReturns f payload receivedAt => s.returnFetch size literals settings f payload receivedAt
    | .finishFetch f => s.finishFetch f
    | .wake w => s.wake w
    | .cancel w => s.setWaiter w .cancelled

instance decidableChainEnabled (s : ChainState) :
    (event : ChainEvent) → Decidable ((optionChains size literals settings).enabled s event)
  | .tick now => inferInstanceAs (Decidable (s.clock ≤ now))
  | .cached w _ _ => inferInstanceAs (Decidable ((s.waiters w).isAbsent = true))
  | .join w _ => inferInstanceAs (Decidable ((s.waiters w).isAbsent = true))
  | .get w _ _ => inferInstanceAs (Decidable ((s.waiters w).isAbsent = true))
  | .fetchFails f => inferInstanceAs (Decidable ((s.fetches f).stage.isRunning = true))
  | .fetchReturns f _ _ => inferInstanceAs (Decidable ((s.fetches f).stage.isRunning = true))
  | .finishFetch f => inferInstanceAs (Decidable ((s.fetches f).stage.isFinished = true))
  | .wake w =>
      inferInstanceAs
        (Decidable (((s.waiters w).fetch.bind fun f => (s.fetches f).stage.outcome).isSome = true))
  | .cancel w => inferInstanceAs (Decidable ((s.waiters w).fetch.isSome = true))

end Operations

end SchwabGateway.Upstream
