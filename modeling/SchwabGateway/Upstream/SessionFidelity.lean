import SchwabGateway.Upstream.SessionEntries

set_option autoImplicit false

namespace SchwabGateway.Upstream

open SchwabGateway.Library SchwabGateway.Python OrderedMap

section Operations

variable (length : Json → Nat) (literals : Literals) (eastern : Zone) (settings : SessionCacheSettings)

-- get_session_history from the moment the provider has returned: what the call
-- ends with, and the cache it leaves.
def receiveSessionHistory (cache : SessionCache) (symbol : String) (date : Date) (session : Session)
    (candles : PyValue) (receivedAt : Datetime) : Except ReadError SessionHistoryV1 × Option SessionCache :=
  match normalizeSessionHistory literals eastern symbol date session candles receivedAt
      settings.staleAfterSeconds with
  | .ok history => (.ok history, storeSession length eastern settings cache history receivedAt)
  | .error error =>
      (.error (readError "Schwab session history response was invalid" error), some cache)

end Operations

section Prices

variable (literals : Literals) (eastern : Zone)

def priceNames : List String := ["open", "high", "low", "close"]

-- Every price of the candle that float() can read is finite.
def FinitePrices (candle : PyValue) : Prop :=
  ∀ payload, candle = .dict payload → ∀ name ∈ priceNames, ∀ price,
    number literals payload name = .ok (some price) → price.isfinite

def Kept (date : Date) (session : Session) (candle : PyValue) : Prop :=
  ∃ bar, barFromCandle literals candle = .ok (some bar) ∧ belongs eastern date session bar

theorem validated_ok (at_ : Datetime) (open_ high low close : PyFloat) (volume : Int) (bar : PriceBarV1)
    (valid : PriceBarV1.validated at_ open_ high low close volume = .ok bar) :
    bar.open_ = open_ ∧ bar.high = high ∧ bar.low = low ∧ bar.close = close := by
  unfold PriceBarV1.validated at valid
  split at valid
  · cases valid
    exact ⟨rfl, rfl, rfl, rfl⟩
  · cases valid

theorem drop_invalid_some {α : Type} (attempt : Result α) (value : α)
    (kept : dropInvalid attempt = .ok (some value)) : attempt = .ok value := by
  cases attempt with
  | ok result =>
      cases kept
      rfl
  | error error =>
      rw [dropInvalid] at kept
      split at kept
      · cases kept
      · cases kept

theorem bar_from_candle_ok (candle : PyValue) (bar : PriceBarV1)
    (read : barFromCandle literals candle = .ok (some bar)) :
    ∃ payload, candle = .dict payload ∧ number literals payload "open" = .ok (some bar.open_) ∧
      number literals payload "high" = .ok (some bar.high) ∧
      number literals payload "low" = .ok (some bar.low) ∧
      number literals payload "close" = .ok (some bar.close) := by
  unfold barFromCandle at read
  split at read
  · rename_i payload
    obtain ⟨millis, _, read⟩ := (bind_ok_iff _ _ _).mp read
    obtain ⟨open_, opens, read⟩ := (bind_ok_iff _ _ _).mp read
    obtain ⟨high, highs, read⟩ := (bind_ok_iff _ _ _).mp read
    obtain ⟨low, lows, read⟩ := (bind_ok_iff _ _ _).mp read
    obtain ⟨close, closes, read⟩ := (bind_ok_iff _ _ _).mp read
    obtain ⟨volume, _, read⟩ := (bind_ok_iff _ _ _).mp read
    split at read
    · split at read
      · cases read
      · have built := drop_invalid_some _ bar read
        obtain ⟨at_, _, valid⟩ := (bind_ok_iff _ _ _).mp built
        obtain ⟨same, sameHigh, sameLow, sameClose⟩ := validated_ok at_ _ _ _ _ _ bar valid
        rw [same, sameHigh, sameLow, sameClose]
        exact ⟨payload, rfl, opens, highs, lows, closes⟩
    · cases read
  · cases read

theorem bar_finite_iff (candle : PyValue) (bar : PriceBarV1)
    (read : barFromCandle literals candle = .ok (some bar)) :
    bar.Finite ↔ FinitePrices literals candle := by
  obtain ⟨payload, shape, opens, highs, lows, closes⟩ := bar_from_candle_ok literals candle bar read
  constructor
  · rintro ⟨openFinite, highFinite, lowFinite, closeFinite⟩ other same name member price found
    have here := PyValue.dict.inj (shape.symm.trans same)
    rw [← here] at found
    simp only [priceNames, List.mem_cons, List.not_mem_nil, or_false] at member
    obtain rfl | rfl | rfl | rfl := member
    · cases opens.symm.trans found
      exact openFinite
    · cases highs.symm.trans found
      exact highFinite
    · cases lows.symm.trans found
      exact lowFinite
    · cases closes.symm.trans found
      exact closeFinite
  · intro finite
    have each := finite payload shape
    exact ⟨each "open" (by simp [priceNames]) _ opens, each "high" (by simp [priceNames]) _ highs,
      each "low" (by simp [priceNames]) _ lows, each "close" (by simp [priceNames]) _ closes⟩

theorem session_bars_mem (date : Date) (session : Session) (items : List PyValue)
    (bars : List PriceBarV1) (dropped : Nat)
    (collected : sessionBars literals eastern date session items = .ok (bars, dropped)) (bar : PriceBarV1) :
    bar ∈ bars ↔ ∃ candle ∈ items, barFromCandle literals candle = .ok (some bar) ∧
      belongs eastern date session bar := by
  induction items generalizing bars dropped with
  | nil =>
      cases collected
      simp
  | cons candle rest ih =>
      rw [sessionBars] at collected
      obtain ⟨first, read, collected⟩ := (bind_ok_iff _ _ _).mp collected
      obtain ⟨⟨others, lost⟩, later, collected⟩ := (bind_ok_iff _ _ _).mp collected
      have tail := ih others lost later
      cases first with
      | none =>
          cases collected
          simp [tail, read]
      | some found =>
          dsimp only at collected
          split at collected
          · rename_i inside
            cases collected
            simp only [List.mem_cons, tail, exists_eq_or_imp, read, Except.ok.injEq, Option.some.injEq]
            constructor
            · rintro (same | later)
              · exact .inl ⟨same.symm, same ▸ inside⟩
              · exact .inr later
            · rintro (⟨same, _⟩ | later)
              · exact .inl same.symm
              · exact .inr later
          · rename_i outside
            cases collected
            simp only [List.mem_cons, tail, exists_eq_or_imp, read, Except.ok.injEq, Option.some.injEq]
            constructor
            · exact .inr
            · rintro (⟨same, inside⟩ | later)
              · exact absurd (same ▸ inside) outside
              · exact later

theorem session_bars_finite_iff (date : Date) (session : Session) (items : List PyValue)
    (bars : List PriceBarV1) (dropped : Nat)
    (collected : sessionBars literals eastern date session items = .ok (bars, dropped)) :
    (∀ bar ∈ bars, bar.Finite) ↔
      ∀ candle ∈ items, Kept literals eastern date session candle → FinitePrices literals candle := by
  have members := session_bars_mem literals eastern date session items bars dropped collected
  constructor
  · rintro finite candle member ⟨bar, read, inside⟩
    exact (bar_finite_iff literals candle bar read).mp (finite bar ((members bar).mpr ⟨candle, member, read, inside⟩))
  · intro finite bar member
    obtain ⟨candle, listed, read, inside⟩ := (members bar).mp member
    exact (bar_finite_iff literals candle bar read).mpr (finite candle listed ⟨bar, read, inside⟩)

end Prices

theorem cached_session_history_result (settings : SessionCacheSettings) (cache : SessionCache) (history : SessionHistoryV1) (now : Datetime)
    (found : cache.entries.get history.key = some history.modelDump) :
    (cachedSessionHistory settings cache history.key now).1 =
        .ok (some (history.refreshed now settings.staleAfterSeconds)) ↔
      ∀ bar ∈ history.candles, bar.Finite := by
  rw [← history_round_trip_iff]
  unfold cachedSessionHistory
  rw [found]
  dsimp only
  cases read : SessionHistoryV1.modelValidate history.modelDump with
  | error error => simp
  | ok result =>
      have back := validate_dump history
      rw [read] at back
      obtain ⟨candles, _, shape⟩ := (map_ok_iff _ _ _).mp back.symm
      simp only [Except.ok.injEq, Option.some.injEq]
      constructor
      · intro same
        rw [← shape] at same
        have bars : candles = history.candles := congrArg SessionHistoryV1.candles same
        rw [← shape, bars]
      · intro same
        rw [same]

-- A completed session is read back from the cache as it was stored exactly if
-- no bar it was made of had a price that JSON cannot spell.
theorem cached_reads_faithful_iff (length : Json → Nat) (literals : Literals) (eastern : Zone)
    (settings : SessionCacheSettings) (before later : SessionState) (symbol : String) (date : Date)
    (session : Session) (items : List PyValue) (receivedAt now : Datetime) (history : SessionHistoryV1)
    (reached : (sessionCaches length eastern settings).Reaches Set.univ .initial before)
    (returned : (receiveSessionHistory length literals eastern settings before.cache symbol date session
      (.list items) receivedAt).1 = .ok history)
    (run : (sessionCaches length eastern settings).Reaches Set.univ
      (before.afterStore length eastern settings history receivedAt) later)
    (present : (symbol, date, session) ∈ later.cache.entries.keys)
    (unreplaced : later.stored (symbol, date, session) = some (history, receivedAt)) :
    (cachedSessionHistory settings later.cache (symbol, date, session) now).1 =
        .ok (some (history.refreshed now settings.staleAfterSeconds)) ↔
      ∀ candle ∈ items, Kept literals eastern date session candle → FinitePrices literals candle := by
  have normalized : normalizeSessionHistory literals eastern symbol date session (.list items) receivedAt
      settings.staleAfterSeconds = .ok history := by
    unfold receiveSessionHistory at returned
    split at returned
    · rename_i result normalized
      cases returned
      exact normalized
    · cases returned
  obtain ⟨_, bars, dropped, same, collected, shape⟩ :=
    normalize_session_history_ok literals eastern symbol date session _ receivedAt _ history normalized
  cases same
  have key : history.key = (symbol, date, session) := by
    rw [shape]
    rfl
  have same : history.candles = bars := by
    rw [shape]
    rfl
  have whole : (sessionCaches length eastern settings).Reaches Set.univ .initial later :=
    ((sessionCaches length eastern settings).reaches_perform Set.univ .initial before
      (.store history receivedAt) reached trivial trivial).trans run
  have invariant := reachable_session_invariant later whole
  have found : later.cache.entries.get history.key = some history.modelDump := by
    rw [key]
    cases entry : later.cache.entries.get (symbol, date, session) with
    | none => exact absurd present ((get_none_iff _ _).mp entry)
    | some payload =>
        obtain ⟨last, at_, recorded, _, written, _⟩ :=
          invariant.entries _ payload ((get_some_iff _ _ _).mp entry)
        cases recorded.symm.trans unreplaced
        rw [written]
  have result := cached_session_history_result settings later.cache history now found
  rw [key] at result
  rw [result, same]
  exact session_bars_finite_iff literals eastern date session items bars dropped collected

def sampleKey : SessionKey := ("AAPL", Date.ofCivil 2026 8 12, .regular)

-- JSON as Python reads it can hold Infinity, and a float has room for it.
def storedSample (open_ : PyFloat) : Except ReadError SessionHistoryV1 × Option SessionCache :=
  receiveSessionHistory sampleLength noLiterals summer sampleSettings .empty "AAPL"
    (Date.ofCivil 2026 8 12) .regular (.list [sampleCandle open_]) 1786629600000000

def sampleStored : SessionState :=
  SessionState.initial.afterStore sampleLength summer sampleSettings (sampleHistory "AAPL") 1786629600000000

theorem cached_reads_faithful_sample :
    (cachedSessionHistory sampleSettings sampleStored.cache sampleKey 1786629660000000).1 =
      .ok (some ((sampleHistory "AAPL").refreshed 1786629660000000 (.finite 86400))) := by
  have law := cached_reads_faithful_iff sampleLength noLiterals summer sampleSettings .initial sampleStored
    "AAPL" (Date.ofCivil 2026 8 12) .regular [sampleCandle (.finite 11)] 1786629600000000 1786629660000000
    (sampleHistory "AAPL") .refl (by decide +kernel) .refl (by decide +kernel) (by decide +kernel)
  apply law.mpr
  intro candle member _
  rw [List.mem_singleton.mp member]
  exact (bar_finite_iff noLiterals _ sampleBar (by decide +kernel)).mp (by decide)

def poisonedHistory : SessionHistoryV1 :=
  { sampleHistory "AAPL" with candles := [{ sampleBar with open_ := .infinity }] }

def poisonedCache : SessionCache := (storedSample .infinity).2.getD .empty

-- An infinite price is stored as null, and the next read of the key fails on it.
theorem infinite_price_poisons :
    (storedSample .infinity).1 = .ok poisonedHistory ∧ (storedSample .infinity).2.isSome ∧
      sampleKey ∈ poisonedCache.entries.keys ∧
      (cachedSessionHistory sampleSettings poisonedCache sampleKey 1786629660000000).1 =
        .error (.validation "open" "Input should be a valid number") := by
  refine ⟨?_, ?_, ?_, ?_⟩
  · decide +kernel
  · decide +kernel
  · decide +kernel
  · decide +kernel

end SchwabGateway.Upstream
