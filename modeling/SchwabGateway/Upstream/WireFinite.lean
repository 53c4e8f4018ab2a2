import SchwabGateway.Upstream.HistoryWindow
import SchwabGateway.Upstream.ReadCourses
import SchwabGateway.Upstream.SessionFidelity
import SchwabGateway.Upstream.WireLoss

set_option autoImplicit false

namespace SchwabGateway.Upstream

open SchwabGateway.Library SchwabGateway.Python

theorem forall_results_iff {α β : Type} {made : α → β → Prop} {p : α → Prop} {q : β → Prop}
    {sources : List α} {results : List β} (all : List.Forall₂ made sources results)
    (each : ∀ source result, made source result → (q result ↔ p source)) :
    (∀ result ∈ results, q result) ↔ ∀ source ∈ sources, p source := by
  induction all with
  | nil => simp
  | cons first rest ih => rw [List.forall_mem_cons, List.forall_mem_cons, each _ _ first, ih]

section Conditions

variable (literals : Literals)

def FiniteReading (payload : Payload) (name : String) : Prop :=
  ∀ price, number literals payload name = .ok (some price) → price.isfinite

theorem spellable_iff (payload : Payload) (name : String) (value : Option PyFloat)
    (read : number literals payload name = .ok value) :
    Spellable value ↔ FiniteReading literals payload name := by
  unfold Spellable FiniteReading
  rw [read]
  simp only [Except.ok.injEq]

def currentNumbers : List String := ["bidPrice", "askPrice", "lastPrice", "mark"]
def regularNumbers : List String := ["closePrice", "netPercentChange"]

def FiniteQuote (symbol : String) (payload : Payload) : Prop :=
  (∀ name ∈ currentNumbers, FiniteReading literals (currentBlock literals symbol payload) name) ∧
    ∀ name ∈ regularNumbers, FiniteReading literals (block payload "quote") name

-- price = quote.get("lastPrice") or quote.get("mark") or quote.get("closePrice").
def spotValue (quote : Payload) : PyValue :=
  orElse (orElse (PyValue.get quote "lastPrice") (PyValue.get quote "mark")) (PyValue.get quote "closePrice")

def FiniteSpot (symbol : String) (response : PyValue) : Prop :=
  ∀ quote, spotQuote response symbol = .ok quote →
    ∀ price, toFloat literals (spotValue quote) = .ok price → price.isfinite

def FiniteUnderlying (response : PyValue) : Prop :=
  ∀ payload, response = .dict payload → FiniteReading literals payload "underlyingPrice"

def requestedCandles (eastern : Zone) (frequency : Frequency) (items : List PyValue) (receivedAt : Datetime) :
    Option Int → List PyValue
  | none => items
  | some daysBack =>
      if items.isEmpty || daysBack ≤ 0 then items
      else
        match frequency with
        | .daily => items.rtake daysBack.toNat
        | .minute =>
            let anchor := anchorDate (barDates eastern (wellFormedBars literals items)) (eastern.date receivedAt)
            items.filter fun candle => (barOf literals candle).any (withinDays eastern anchor daysBack)

def FiniteWindow (eastern : Zone) (frequency : Frequency) (candles : PyValue) (receivedAt : Datetime)
    (daysBack : Option Int) : Prop :=
  ∀ items, candles = .list items →
    ∀ candle ∈ requestedCandles literals eastern frequency items receivedAt daysBack,
      FinitePrices literals candle

def FiniteSession (eastern : Zone) (date : Date) (session : Session) (candles : PyValue) : Prop :=
  ∀ items, candles = .list items →
    ∀ candle ∈ items, Kept literals eastern date session candle → FinitePrices literals candle

def moverNumbers : List (List String) :=
  [["lastPrice", "last"], ["change", "netChange"], ["changePercent", "netPercentChange"]]

-- An item that is no mover is dropped, whatever its numbers are.
def FiniteMover (item : PyValue) : Prop :=
  ∀ payload, item = .dict payload → (∃ mover, moverFromItem literals item = .ok (some mover)) →
    ∀ names ∈ moverNumbers, ∀ value, firstNumber literals payload names = .ok (some value) → value.isfinite

def FiniteMovers (response : PyValue) : Prop :=
  ∀ items, response = .list items → ∀ item ∈ items, FiniteMover literals item

end Conditions

section Quotes

variable (literals : Literals) (symbol : String) (payload : Payload) (receivedAt : Datetime) (threshold : PyFloat)

theorem quote_numbers (quote : QuoteV1)
    (accepted : normalizeQuote literals symbol payload receivedAt threshold = .ok quote) :
    number literals (currentBlock literals symbol payload) "bidPrice" = .ok quote.bid ∧
      number literals (currentBlock literals symbol payload) "askPrice" = .ok quote.ask ∧
      number literals (currentBlock literals symbol payload) "lastPrice" = .ok quote.last ∧
      number literals (currentBlock literals symbol payload) "mark" = .ok quote.mark ∧
      number literals (block payload "quote") "closePrice" = .ok quote.close ∧
      number literals (block payload "quote") "netPercentChange" = .ok quote.netPercentChange := by
  obtain ⟨regularTime, extendedTime, regularRead, extendedRead, _, quoted, close, net⟩ :=
    normalize_quote_ok literals symbol payload receivedAt threshold quote accepted
  rw [regular_event_time] at regularRead
  rw [currentBlock, event_of_ok literals _ _ regularRead, event_of_ok literals _ _ extendedRead]
  exact ⟨quoted.bid, quoted.ask, quoted.last, quoted.mark, close, net⟩

theorem quote_finite_iff (quote : QuoteV1)
    (accepted : normalizeQuote literals symbol payload receivedAt threshold = .ok quote) :
    quote.Finite ↔ FiniteQuote literals symbol payload := by
  obtain ⟨bid, ask, last, mark, close, net⟩ := quote_numbers literals symbol payload receivedAt threshold quote accepted
  unfold FiniteQuote currentNumbers regularNumbers
  simp only [List.forall_mem_cons, List.not_mem_nil, false_implies, implies_true, and_true,
    ← spellable_iff literals _ _ _ bid, ← spellable_iff literals _ _ _ ask, ← spellable_iff literals _ _ _ last,
    ← spellable_iff literals _ _ _ mark, ← spellable_iff literals _ _ _ close, ← spellable_iff literals _ _ _ net]
  constructor
  · rintro ⟨bid, ask, last, mark, close, net⟩
    exact ⟨⟨bid, ask, last, mark⟩, close, net⟩
  · rintro ⟨⟨bid, ask, last, mark⟩, close, net⟩
    exact ⟨bid, ask, last, mark, close, net⟩

end Quotes

section Spot

variable (literals : Literals)

theorem spot_finite_iff (symbol : String) (response : PyValue) (price : PyFloat) (event : Option Datetime)
    (accepted : extractSpot literals response symbol = .ok (price, event)) :
    price.isfinite ↔ FiniteSpot literals symbol response := by
  unfold extractSpot at accepted
  obtain ⟨quote, found, accepted⟩ := (bind_ok_iff _ _ _).mp accepted
  dsimp only at accepted
  split at accepted
  · cases accepted
  · obtain ⟨times, _, accepted⟩ := (bind_ok_iff _ _ _).mp accepted
    obtain ⟨value, priced, accepted⟩ := (bind_ok_iff _ _ _).mp accepted
    cases accepted
    have read : toFloat literals (spotValue quote) = .ok price := by
      unfold spotPrice at priced
      split at priced
      · rename_i read
        cases priced
        exact read
      · cases priced
      · cases priced
    constructor
    · intro finite other same result again
      cases found.symm.trans same
      cases read.symm.trans again
      exact finite
    · intro finite
      exact finite quote found price read

end Spot

section Metadata

variable (literals : Literals)

theorem metadata_finite_iff (symbol : String) (response : PyValue) (expiration : Date) (receivedAt : Datetime)
    (threshold : PyFloat) (chain : ChainMetadataV1)
    (accepted : normalizeChainMetadata literals symbol response expiration receivedAt threshold = .ok chain) :
    Spellable chain.underlyingPrice ↔ FiniteUnderlying literals response := by
  unfold normalizeChainMetadata extractChainMetadata at accepted
  obtain ⟨fields, extracted, accepted⟩ := (bind_ok_iff _ _ _).mp accepted
  cases accepted
  split at extracted
  · rename_i payload
    obtain ⟨⟨calls, _⟩, _, extracted⟩ := (bind_ok_iff _ _ _).mp extracted
    obtain ⟨⟨puts, _⟩, _, extracted⟩ := (bind_ok_iff _ _ _).mp extracted
    obtain ⟨price, read, extracted⟩ := (bind_ok_iff _ _ _).mp extracted
    obtain ⟨event, _, extracted⟩ := (bind_ok_iff _ _ _).mp extracted
    cases extracted
    have finite := spellable_iff literals payload "underlyingPrice" price read
    unfold FiniteUnderlying
    simp only [PyValue.dict.injEq, forall_eq']
    exact finite
  · cases extracted

end Metadata

section Candles

variable (literals : Literals) (eastern : Zone)

theorem well_formed_made (items : List PyValue) (formed : WellFormed literals items) :
    List.Forall₂ (fun candle bar => barFromCandle literals candle = .ok (some bar)) items
      (wellFormedBars literals items) := by
  induction items with
  | nil => exact .nil
  | cons candle rest ih =>
      obtain ⟨bar, read⟩ := formed candle (List.mem_cons_self ..)
      rw [wellFormedBars, List.filterMap_cons_some (bar_of_ok literals candle (some bar) read)]
      exact .cons read (ih (fun other member => formed other (List.mem_cons_of_mem candle member)))

theorem requested_made (frequency : Frequency) (items : List PyValue) (receivedAt : Datetime)
    (daysBack : Option Int) (bars : List PriceBarV1) (formed : WellFormed literals items)
    (requested : requestedBars eastern frequency (wellFormedBars literals items) receivedAt daysBack = .ok bars) :
    List.Forall₂ (fun candle bar => barFromCandle literals candle = .ok (some bar))
      (requestedCandles literals eastern frequency items receivedAt daysBack) bars := by
  have made := well_formed_made literals items formed
  have empty : (wellFormedBars literals items).isEmpty = items.isEmpty := by
    rw [Bool.eq_iff_iff, List.isEmpty_iff_length_eq_zero, List.isEmpty_iff_length_eq_zero, made.length_eq]
  cases daysBack with
  | none =>
      cases requested
      exact made
  | some daysBack =>
      unfold requestedBars at requested
      unfold requestedCandles
      dsimp only at requested ⊢
      rw [empty] at requested
      split at requested
      · rename_i whole
        cases requested
        rw [if_pos whole]
        exact made
      · rename_i part
        rw [if_neg part]
        cases frequency with
        | daily =>
            cases requested
            dsimp only
            rw [List.rtake, List.rtake, made.length_eq]
            exact List.forall₂_drop _ made
        | minute =>
            dsimp only [minuteWindow] at requested ⊢
            split at requested
            · cases requested
            · cases requested
              apply List.rel_filter _ made
              intro candle bar read
              dsimp only
              rw [bar_of_ok literals candle (some bar) read]
              rfl

theorem window_finite_iff (symbol : String) (frequency : Frequency) (candles : PyValue) (receivedAt : Datetime)
    (threshold : PyFloat) (daysBack : Option Int) (history : HistoryV1)
    (accepted : normalizeHistory literals eastern symbol frequency candles receivedAt threshold daysBack =
      .ok history) :
    (∀ bar ∈ history.bars, bar.Finite) ↔
      FiniteWindow literals eastern frequency candles receivedAt daysBack := by
  cases candles with
  | list items =>
      obtain ⟨formed, requested, _⟩ := normalize_history_ok literals eastern symbol frequency items receivedAt
        threshold daysBack history accepted
      have made := requested_made literals eastern frequency items receivedAt daysBack history.bars formed requested
      rw [forall_results_iff made (bar_finite_iff literals)]
      unfold FiniteWindow
      simp only [PyValue.list.injEq, forall_eq']
  | none => cases accepted
  | bool flag => cases accepted
  | int number => cases accepted
  | float number => cases accepted
  | str text => cases accepted
  | dict entries => cases accepted
  | object => cases accepted

theorem session_finite_iff (symbol : String) (date : Date) (session : Session) (candles : PyValue)
    (receivedAt : Datetime) (threshold : PyFloat) (history : SessionHistoryV1)
    (accepted : normalizeSessionHistory literals eastern symbol date session candles receivedAt threshold =
      .ok history) :
    (∀ bar ∈ history.candles, bar.Finite) ↔ FiniteSession literals eastern date session candles := by
  obtain ⟨items, bars, dropped, rfl, collected, rfl⟩ :=
    normalize_session_history_ok literals eastern symbol date session candles receivedAt threshold history accepted
  unfold FiniteSession
  simp only [PyValue.list.injEq, forall_eq']
  exact session_bars_finite_iff literals eastern date session items bars dropped collected

end Candles

section Movers

variable (literals : Literals)

theorem mover_numbers (item : PyValue) (mover : MoverV1)
    (accepted : moverFromItem literals item = .ok (some mover)) :
    ∃ payload, item = .dict payload ∧
      firstNumber literals payload ["lastPrice", "last"] = .ok mover.lastPrice ∧
      firstNumber literals payload ["change", "netChange"] = .ok mover.change ∧
      firstNumber literals payload ["changePercent", "netPercentChange"] = .ok mover.changePercent := by
  unfold moverFromItem at accepted
  split at accepted
  · rename_i payload
    split at accepted
    · cases accepted
    · have built := drop_invalid_some _ mover accepted
      unfold moverOf at built
      obtain ⟨lastPrice, last, built⟩ := (bind_ok_iff _ _ _).mp built
      obtain ⟨change, changed, built⟩ := (bind_ok_iff _ _ _).mp built
      obtain ⟨changePercent, percent, built⟩ := (bind_ok_iff _ _ _).mp built
      obtain ⟨volume, _, built⟩ := (bind_ok_iff _ _ _).mp built
      obtain ⟨_, _, built⟩ := (bind_ok_iff _ _ _).mp built
      cases built
      exact ⟨payload, rfl, last, changed, percent⟩
  · cases accepted

theorem mover_finite_iff (item : PyValue) (mover : MoverV1)
    (accepted : moverFromItem literals item = .ok (some mover)) :
    mover.Finite ↔ FiniteMover literals item := by
  obtain ⟨payload, rfl, last, changed, percent⟩ := mover_numbers literals item mover accepted
  have spellable : ∀ names value, firstNumber literals payload names = .ok value →
      (Spellable value ↔ ∀ price, firstNumber literals payload names = .ok (some price) → price.isfinite) := by
    intro names value read
    unfold Spellable
    rw [read]
    simp only [Except.ok.injEq]
  unfold FiniteMover moverNumbers
  simp only [PyValue.dict.injEq, forall_eq', List.forall_mem_cons, List.not_mem_nil, false_implies, implies_true,
    and_true, ← spellable _ _ last, ← spellable _ _ changed, ← spellable _ _ percent]
  constructor
  · rintro ⟨last, changed, percent⟩ _
    exact ⟨last, changed, percent⟩
  · intro finite
    obtain ⟨last, changed, percent⟩ := finite ⟨mover, accepted⟩
    exact ⟨last, changed, percent⟩

theorem collect_movers_mem (items : List PyValue) (movers : List MoverV1)
    (collected : collectMovers literals items = .ok movers) (mover : MoverV1) :
    mover ∈ movers ↔ ∃ item ∈ items, moverFromItem literals item = .ok (some mover) := by
  induction items generalizing movers with
  | nil =>
      cases collected
      simp
  | cons item rest ih =>
      rw [collectMovers] at collected
      obtain ⟨first, read, collected⟩ := (bind_ok_iff _ _ _).mp collected
      obtain ⟨others, later, collected⟩ := (bind_ok_iff _ _ _).mp collected
      cases collected
      rw [List.mem_append, ih others later, Option.mem_toList, List.exists_mem_cons_iff, read]
      simp only [Except.ok.injEq]

theorem movers_finite_iff (index : MoverIndex) (direction : Direction) (response : PyValue)
    (receivedAt : Datetime) (movers : MoversV1)
    (accepted : normalizeMovers literals index direction response receivedAt = .ok movers) :
    (∀ mover ∈ movers.movers, mover.Finite) ↔ FiniteMovers literals response := by
  unfold normalizeMovers at accepted
  split at accepted
  · rename_i items
    obtain ⟨found, collected, accepted⟩ := (bind_ok_iff _ _ _).mp accepted
    cases accepted
    have members := collect_movers_mem literals items found collected
    unfold FiniteMovers
    simp only [PyValue.list.injEq, forall_eq']
    constructor
    · intro finite item listed payload shape some_
      obtain ⟨mover, read⟩ := some_
      exact (mover_finite_iff literals item mover read).mp (finite mover ((members mover).mpr ⟨item, listed, read⟩))
        payload shape ⟨mover, read⟩
    · intro finite mover member
      obtain ⟨item, listed, read⟩ := (members mover).mp member
      exact (mover_finite_iff literals item mover read).mpr (finite item listed)
  · cases accepted

end Movers

end SchwabGateway.Upstream
