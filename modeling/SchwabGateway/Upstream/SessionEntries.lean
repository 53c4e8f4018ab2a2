import SchwabGateway.Upstream.SessionCache

set_option autoImplicit false

namespace SchwabGateway.Upstream

open SchwabGateway.Library SchwabGateway.Python OrderedMap

variable (length : Json → Nat) (eastern : Zone) (settings : SessionCacheSettings)

def SessionBounds : List (SessionKey × Json) → Prop :=
  Fits settings.cacheMaxEntries settings.cacheMaxBytes length

-- One store, whatever it finds: the bytes it counts are those it holds, and
-- it holds the longest tail that fits.
theorem store_session_cacheable (cache : SessionCache) (history : SessionHistoryV1)
    (receivedAt : Datetime) (counted : cache.bytes = weight length cache.entries)
    (cacheable : Cacheable length eastern settings history receivedAt) :
    ∃ after, storeSession length eastern settings cache history receivedAt = some after ∧
      after.bytes = weight length after.entries ∧
      LongestSuffix (SessionBounds length settings)
        (cache.entries.pushEnd history.key history.modelDump).entries after.entries.entries := by
  obtain ⟨kept, evicted, longest⟩ := evict_after_push settings.cacheMaxEntries settings.cacheMaxBytes length
    cache.entries history.key history.modelDump cache.bytes counted
  refine ⟨⟨kept, weight length kept⟩, ?_, rfl, longest⟩
  rw [storeSession, if_pos cacheable]
  dsimp only
  rw [evicted]
  rfl

theorem store_session_refused (cache : SessionCache) (history : SessionHistoryV1)
    (receivedAt : Datetime) (refused : ¬ Cacheable length eastern settings history receivedAt) :
    storeSession length eastern settings cache history receivedAt = some cache := by
  rw [storeSession, if_neg refused]

theorem cached_session_history_cache (cache : SessionCache) (key : SessionKey) (now : Datetime) :
    (cachedSessionHistory settings cache key now).2 =
      { cache with entries := cache.entries.moveToEnd key } := by
  unfold cachedSessionHistory
  cases found : cache.entries.get key with
  | none => rw [moveToEnd, found]
  | some payload =>
      dsimp only
      split
      · rfl
      · rfl

structure SessionInvariant (s : SessionState) : Prop where
  counted : s.cache.bytes = weight length s.cache.entries
  fits : SessionBounds length settings s.cache.entries.entries
  recent : Recent s.used s.cache.entries.keys
  past : ∀ key, s.used key ≤ s.calls
  entries : ∀ key payload, (key, payload) ∈ s.cache.entries.entries →
    ∃ history receivedAt, s.stored key = some (history, receivedAt) ∧ history.key = key ∧
      payload = history.modelDump ∧ isCompletedSession eastern history receivedAt
  quiet : s.raised = false

variable {length eastern settings}

theorem initial_session_invariant : SessionInvariant length eastern settings .initial where
  counted := rfl
  fits := ⟨Nat.zero_le _, Nat.zero_le _⟩
  recent := List.Pairwise.nil
  past _ := Nat.le_refl 0
  entries _ _ member := by cases member
  quiet := rfl

theorem read_session_invariant (s : SessionState) (key : SessionKey) (now : Datetime)
    (invariant : SessionInvariant length eastern settings s) :
    SessionInvariant length eastern settings (s.afterRead settings key now) := by
  have moved := cached_session_history_cache settings s.cache key now
  have same := weight_move_to_end length s.cache.entries key
  have rows : ∀ row, row ∈ (s.cache.entries.moveToEnd key).entries ↔ row ∈ s.cache.entries.entries :=
    mem_move_to_end s.cache.entries key
  have unmoved : (s.cache.entries.moveToEnd key).entries.length = s.cache.entries.entries.length :=
    length_move_to_end s.cache.entries key
  refine ⟨?_, ?_, ?_, ?_, ?_, invariant.quiet⟩
  · rw [SessionState.afterRead, moved]
    exact invariant.counted.trans (congrArg Nat.cast same.symm)
  · rw [SessionState.afterRead, moved]
    refine ⟨unmoved.trans_le invariant.fits.1, ?_⟩
    exact (Nat.le_of_eq same).trans invariant.fits.2
  · rw [SessionState.afterRead, moved]
    by_cases present : key ∈ s.cache.entries.keys
    · dsimp only
      rw [if_pos present, keys_move_to_end _ _ present]
      exact recent_touch s.used _ key _ invariant.recent
        (fun name => Nat.lt_succ_of_le (invariant.past name))
    · have absent : s.cache.entries.moveToEnd key = s.cache.entries := by
        rw [moveToEnd, (get_none_iff _ _).mpr present]
      dsimp only
      rw [if_neg present, absent]
      exact invariant.recent
  · intro name
    have earlier := invariant.past name
    rw [SessionState.afterRead]
    dsimp only
    split
    · by_cases same : name = key
      · rw [same, Function.update_self]
      · rw [Function.update_of_ne same]
        omega
    · omega
  · intro name payload member
    rw [SessionState.afterRead, moved] at member
    exact invariant.entries name payload ((rows _).mp member)

theorem store_session_invariant (s : SessionState) (history : SessionHistoryV1) (receivedAt : Datetime)
    (invariant : SessionInvariant length eastern settings s) :
    SessionInvariant length eastern settings (s.afterStore length eastern settings history receivedAt) := by
  by_cases cacheable : Cacheable length eastern settings history receivedAt
  · obtain ⟨after, stored, counted, longest⟩ :=
      store_session_cacheable length eastern settings s.cache history receivedAt invariant.counted cacheable
    have shape : s.afterStore length eastern settings history receivedAt =
        { s with
          cache := after
          calls := s.calls + 1
          used := Function.update s.used history.key (s.calls + 1)
          stored := Function.update s.stored history.key (some (history, receivedAt)) } := by
      rw [SessionState.afterStore, stored]
      dsimp only
      rw [if_pos cacheable]
    have ordered := recent_touch s.used _ history.key _ invariant.recent
      (fun name => Nat.lt_succ_of_le (invariant.past name))
    rw [← keys_push_end s.cache.entries history.key history.modelDump] at ordered
    rw [shape]
    refine ⟨counted, longest.2.1, ?_, ?_, ?_, invariant.quiet⟩
    · exact recent_sublist _ _ _ (longest.1.sublist.map Prod.fst) ordered
    · intro name
      have earlier := invariant.past name
      by_cases same : name = history.key
      · dsimp only
        rw [same, Function.update_self]
      · dsimp only
        rw [Function.update_of_ne same]
        omega
    · intro name payload member
      cases (mem_push_end _ _ _ _).mp (longest.1.mem member) with
      | inl old =>
          obtain ⟨earlier, at_, recorded, own, written, completed⟩ := invariant.entries name payload old.1
          have kept := (Function.update_of_ne old.2 (some (history, receivedAt)) s.stored).trans recorded
          exact ⟨earlier, at_, kept, own, written, completed⟩
      | inr new =>
          cases new
          exact ⟨history, receivedAt, Function.update_self _ _ _, rfl, rfl, cacheable.1⟩
  · have shape : s.afterStore length eastern settings history receivedAt =
        { s with calls := s.calls + 1 } := by
      rw [SessionState.afterStore, store_session_refused length eastern settings s.cache history receivedAt cacheable]
      dsimp only
      rw [if_neg cacheable]
    rw [shape]
    exact ⟨invariant.counted, invariant.fits, invariant.recent,
      fun name => Nat.le_succ_of_le (invariant.past name), invariant.entries, invariant.quiet⟩

theorem reachable_session_invariant (s : SessionState)
    (reached : (sessionCaches length eastern settings).Reaches Set.univ .initial s) :
    SessionInvariant length eastern settings s := by
  apply (sessionCaches length eastern settings).reaches_invariant Set.univ
    (SessionInvariant length eastern settings) _ .initial s reached initial_session_invariant
  intro state event _ invariant _
  cases event with
  | read key now => exact read_session_invariant state key now invariant
  | store history receivedAt => exact store_session_invariant state history receivedAt invariant

def NoBarDropped (eastern : Zone) (history : SessionHistoryV1) : Prop :=
  ∀ literals items receivedAt threshold,
    normalizeSessionHistory literals eastern history.symbol history.date history.session (.list items)
      receivedAt threshold = .ok history →
    ∀ candle ∈ items, ∃ bar, barFromCandle literals candle = .ok (some bar)

theorem session_bars_dropped (literals : Literals) (date : Date) (session : Session)
    (items : List PyValue) (bars : List PriceBarV1)
    (collected : sessionBars literals eastern date session items = .ok (bars, 0)) :
    ∀ candle ∈ items, ∃ bar, barFromCandle literals candle = .ok (some bar) := by
  induction items generalizing bars with
  | nil => simp
  | cons candle rest ih =>
      rw [sessionBars] at collected
      obtain ⟨first, read, collected⟩ := (bind_ok_iff _ _ _).mp collected
      obtain ⟨⟨others, dropped⟩, later, collected⟩ := (bind_ok_iff _ _ _).mp collected
      cases first with
      | none => cases collected
      | some bar =>
          have none_ : dropped = 0 := by
            dsimp only at collected
            split at collected
            · cases collected
              rfl
            · cases collected
              rfl
          cases none_
          intro other member
          cases List.mem_cons.mp member with
          | inl same => exact ⟨bar, same ▸ read⟩
          | inr inside => exact ih others later other inside

theorem completed_no_bar_dropped (history : SessionHistoryV1) (receivedAt : Datetime)
    (completed : isCompletedSession eastern history receivedAt) :
    history.date < eastern.date receivedAt ∧ history.candles ≠ [] ∧ NoBarDropped eastern history := by
  simp only [isCompletedSession, Bool.and_eq_true, decide_eq_true_eq, Bool.not_eq_true',
    List.isEmpty_eq_false_iff, List.contains_eq_mem, decide_eq_false_iff_not] at completed
  obtain ⟨⟨past, bars⟩, unflagged⟩ := completed
  refine ⟨past, bars, ?_⟩
  intro literals items at_ threshold normalized
  obtain ⟨rows, bars, dropped, same, collected, shape⟩ :=
    normalize_session_history_ok literals eastern _ _ _ _ at_ threshold history normalized
  cases same
  have whole : dropped = 0 := by
    by_contra some_
    apply unflagged
    rw [shape]
    simp only [sessionHistory, Freshness.evaluated, List.mem_append, session_flags_mem]
    exact .inl (.inr (.inl ⟨some_, trivial⟩))
  cases whole
  exact session_bars_dropped literals _ _ items bars collected

-- The law of the cache: its counter, its order, what a store leaves, and what
-- an entry can be.
structure SessionCacheLaw (length : Json → Nat) (eastern : Zone) (settings : SessionCacheSettings)
    (s : SessionState) : Prop where
  counted : s.cache.bytes = weight length s.cache.entries
  recency : Recent s.used s.cache.entries.keys
  bounded : SessionBounds length settings s.cache.entries.entries
  neverRaised : s.raised = false
  stores : ∀ history receivedAt, Cacheable length eastern settings history receivedAt →
    ∃ after, storeSession length eastern settings s.cache history receivedAt = some after ∧
      LongestSuffix (SessionBounds length settings)
        (s.cache.entries.pushEnd history.key history.modelDump).entries after.entries.entries ∧
      after.entries.get history.key = some history.modelDump
  refuses : ∀ history receivedAt, ¬ Cacheable length eastern settings history receivedAt →
    storeSession length eastern settings s.cache history receivedAt = some s.cache
  entries : ∀ key payload, s.cache.entries.get key = some payload →
    ∃ history receivedAt, s.stored key = some (history, receivedAt) ∧ history.key = key ∧
      payload = history.modelDump ∧ history.candles ≠ [] ∧ NoBarDropped eastern history ∧
      history.date < eastern.date receivedAt

theorem session_cache_law (length : Json → Nat) (eastern : Zone) (settings : SessionCacheSettings)
    (s : SessionState) (reached : (sessionCaches length eastern settings).Reaches Set.univ .initial s) :
    SessionCacheLaw length eastern settings s := by
  have invariant := reachable_session_invariant s reached
  refine ⟨invariant.counted, invariant.recent, invariant.fits, invariant.quiet, ?_, ?_, ?_⟩
  · intro history receivedAt cacheable
    obtain ⟨after, stored, _, longest⟩ :=
      store_session_cacheable length eastern settings s.cache history receivedAt invariant.counted cacheable
    have youngest := evict_keeps_youngest settings.cacheMaxEntries settings.cacheMaxBytes length
      s.cache.entries after.entries history.key history.modelDump settings.entriesPositive cacheable.2 longest
    exact ⟨after, stored, longest, (get_some_iff _ _ _).mpr youngest⟩
  · intro history receivedAt refused
    exact store_session_refused length eastern settings s.cache history receivedAt refused
  · intro key payload found
    obtain ⟨history, receivedAt, recorded, own, written, completed⟩ :=
      invariant.entries key payload ((get_some_iff _ _ _).mp found)
    obtain ⟨past, bars, whole⟩ := completed_no_bar_dropped history receivedAt completed
    exact ⟨history, receivedAt, recorded, own, written, bars, whole, past⟩

-- The text length of the samples below, which differ in their symbols only.
def sampleLength : Json → Nat
  | .object fields =>
      match fields.lookup "symbol" with
      | some (.text symbol) => 348 + symbol.length
      | _ => 0
  | _ => 0

def sampleSettings : SessionCacheSettings := ⟨.finite 86400, 2, 1000, by decide, by decide⟩

def sampleBar : PriceBarV1 :=
  ⟨1786543200000000, .finite 11, .finite 12, .finite 10, .finite 11, 100, by decide⟩

def sampleHistory (symbol : String) : SessionHistoryV1 where
  eventTimestamp := some 1786543200000000
  ageSeconds := some 86400
  stale := false
  dataQualityFlags := []
  symbol := symbol
  date := Date.ofCivil 2026 8 12
  session := .regular
  candles := [sampleBar]
  gatewayReceivedAt := 1786629600000000
  source := "schwab_rest_session_history"

def sampleEvents : List SessionEvent :=
  [.store (sampleHistory "AAPL") 1786629600000000, .store (sampleHistory "MSFT") 1786629600000000,
    .read ("AAPL", Date.ofCivil 2026 8 12, .regular) 1786629660000000,
    .store (sampleHistory "SPY") 1786629660000000]

def sampleSessions : SessionState :=
  (sessionCaches sampleLength summer sampleSettings).performAll .initial sampleEvents

theorem all_session_events_enabled (length : Json → Nat) (eastern : Zone) (settings : SessionCacheSettings)
    (s : SessionState) (events : List SessionEvent) :
    (sessionCaches length eastern settings).EnabledAll s events := by
  induction events generalizing s with
  | nil => trivial
  | cons event rest ih => exact ⟨trivial, ih _⟩

-- The hit made MSFT the oldest, so the third store evicts it.
theorem session_cache_law_sample :
    SessionCacheLaw sampleLength summer sampleSettings sampleSessions ∧
      sampleSessions.cache.entries.keys.map Prod.fst = ["AAPL", "SPY"] := by
  refine ⟨session_cache_law sampleLength summer sampleSettings sampleSessions ?_, by decide +kernel⟩
  exact (sessionCaches sampleLength summer sampleSettings).reaches_perform_all Set.univ .initial sampleEvents
    (fun _ _ => trivial) (all_session_events_enabled _ _ _ _ _)

end SchwabGateway.Upstream
