import Mathlib.Logic.Function.Basic
import SchwabGateway.Library.Eviction
import SchwabGateway.Library.Transition
import SchwabGateway.Upstream.SessionWire

set_option autoImplicit false

namespace SchwabGateway.Upstream

open SchwabGateway.Library SchwabGateway.Python

structure SessionCacheSettings where
  staleAfterSeconds : PyFloat
  cacheMaxEntries : Nat
  cacheMaxBytes : Nat
  entriesPositive : 1 ≤ cacheMaxEntries
  bytesPositive : 1 ≤ cacheMaxBytes

abbrev SessionKey := String × Date × Session

def SessionHistoryV1.key (history : SessionHistoryV1) : SessionKey :=
  (history.symbol, history.date, history.session)

structure SessionCache where
  entries : OrderedMap SessionKey Json
  bytes : Int

def SessionCache.empty : SessionCache := ⟨.empty, 0⟩

section Operations

variable (length : Json → Nat) (eastern : Zone) (settings : SessionCacheSettings)

-- cached_session_history: the entry moves to the end before it is validated.
def cachedSessionHistory (cache : SessionCache) (key : SessionKey) (now : Datetime) :
    Result (Option SessionHistoryV1) × SessionCache :=
  match cache.entries.get key with
  | none => (.ok none, cache)
  | some payload =>
      let moved := { cache with entries := cache.entries.moveToEnd key }
      match SessionHistoryV1.modelValidate payload with
      | .ok history => (.ok (some (history.refreshed now settings.staleAfterSeconds)), moved)
      | .error error => (.error error, moved)

def Cacheable (history : SessionHistoryV1) (receivedAt : Datetime) : Prop :=
  isCompletedSession eastern history receivedAt ∧ length history.modelDump ≤ settings.cacheMaxBytes

instance (history : SessionHistoryV1) (receivedAt : Datetime) :
    Decidable (Cacheable length eastern settings history receivedAt) :=
  inferInstanceAs (Decidable (_ ∧ _))

-- _store: none is the KeyError of popitem on an empty dictionary.
def storeSession (cache : SessionCache) (history : SessionHistoryV1) (receivedAt : Datetime) :
    Option SessionCache :=
  if Cacheable length eastern settings history receivedAt then
    let payload := history.modelDump
    let previous := ((cache.entries.get history.key).map length).getD 0
    let bytes := cache.bytes - previous + length payload
    (OrderedMap.evict settings.cacheMaxEntries settings.cacheMaxBytes length
      (cache.entries.pushEnd history.key payload) bytes).map fun (kept, left) => ⟨kept, left⟩
  else some cache

-- Beside the cache: how many calls there were, the call that last stored or
-- hit a key, what was last stored under it, and whether a store has raised.
structure SessionState where
  cache : SessionCache
  calls : Nat
  used : SessionKey → Nat
  stored : SessionKey → Option (SessionHistoryV1 × Datetime)
  raised : Bool

def SessionState.initial : SessionState where
  cache := .empty
  calls := 0
  used _ := 0
  stored _ := none
  raised := false

inductive SessionEvent where
  | read (key : SessionKey) (now : Datetime)
  | store (history : SessionHistoryV1) (receivedAt : Datetime)

namespace SessionState

def afterRead (s : SessionState) (key : SessionKey) (now : Datetime) : SessionState :=
  { s with
    cache := (cachedSessionHistory settings s.cache key now).2
    calls := s.calls + 1
    used := if key ∈ s.cache.entries.keys then Function.update s.used key (s.calls + 1) else s.used }

def afterStore (s : SessionState) (history : SessionHistoryV1) (receivedAt : Datetime) : SessionState :=
  match storeSession length eastern settings s.cache history receivedAt with
  | none => { s with raised := true }
  | some cache =>
      if Cacheable length eastern settings history receivedAt then
        { s with
          cache := cache
          calls := s.calls + 1
          used := Function.update s.used history.key (s.calls + 1)
          stored := Function.update s.stored history.key (some (history, receivedAt)) }
      else { s with cache := cache, calls := s.calls + 1 }

end SessionState

def sessionCaches : System SessionState SessionEvent where
  enabled _ _ := True
  perform s event :=
    match event with
    | .read key now => s.afterRead settings key now
    | .store history receivedAt => s.afterStore length eastern settings history receivedAt

end Operations

end SchwabGateway.Upstream
