import SchwabGateway.Library.Dictionary
import SchwabGateway.OrderBook.Book
import SchwabGateway.Upstream.WireLoss

set_option autoImplicit false

namespace SchwabGateway.Upstream

open SchwabGateway.Library
open SchwabGateway.OrderBook (strip)

section Request

def maxSymbols : Nat := 100

def symbolCharacter (c : Char) : Bool :=
  ('A' ≤ c && c ≤ 'Z') || ('0' ≤ c && c ≤ '9') || ['$', '.', '_', '/', '-'].contains c

def symbolPattern (symbol : String) : Bool :=
  1 ≤ symbol.length && symbol.length ≤ 32 && symbol.toList.all symbolCharacter

def isQuoteSymbol (symbol : String) : Bool := symbolPattern symbol || isOptionSymbol symbol

def tooManySymbols : String := "at most " ++ toString maxSymbols ++ " symbols are allowed"

-- _parse_symbols of the quotes handler; an error is an _InvalidRequestError.
def parseSymbols (upper : String → String) (value : String) : Except String (List String) :=
  let symbols := ((value.splitOn ",").filter (fun part => strip part ≠ "")).map (fun part => upper (strip part))
  if symbols = [] then .error "at least one symbol is required"
  else if maxSymbols < symbols.length then .error tooManySymbols
  else if ¬ symbols.Nodup then .error "symbols must be unique"
  else if symbols.any (fun symbol => !isQuoteSymbol symbol) then .error "one or more symbols are invalid"
  else .ok symbols

theorem parse_symbols_ok (upper : String → String) (value : String) (symbols : List String)
    (parsed : parseSymbols upper value = .ok symbols) :
    symbols ≠ [] ∧ symbols.Nodup ∧ symbols.length ≤ maxSymbols ∧
      ∀ symbol ∈ symbols, isQuoteSymbol symbol = true := by
  unfold parseSymbols at parsed
  dsimp only at parsed
  generalize ((value.splitOn ",").filter (fun part => strip part ≠ "")).map
    (fun part => upper (strip part)) = parts at parsed
  by_cases empty : parts = []
  · rw [if_pos empty] at parsed
    cases parsed
  by_cases many : maxSymbols < parts.length
  · rw [if_neg empty, if_pos many] at parsed
    cases parsed
  by_cases twice : ¬ parts.Nodup
  · rw [if_neg empty, if_neg many, if_pos twice] at parsed
    cases parsed
  cases bad : parts.any (fun symbol => !isQuoteSymbol symbol) with
  | true =>
      rw [if_neg empty, if_neg many, if_neg twice, bad, if_pos rfl] at parsed
      cases parsed
  | false =>
      rw [if_neg empty, if_neg many, if_neg twice, bad, if_neg Bool.false_ne_true] at parsed
      cases parsed
      simp only [List.any_eq_false, Bool.not_eq_true', Bool.not_eq_false] at bad
      exact ⟨empty, not_not.mp twice, not_lt.mp many, bad⟩

end Request

-- What the quotes handler answers with: QuoteResponseV1, or the response to a
-- caller that allows missing symbols.
inductive QuotesResponse where
  | complete (quotes : List QuoteV1)
  | partly (response : PartialQuoteResponseV1)

namespace QuotesResponse

def quotes : QuotesResponse → List QuoteV1
  | complete quotes => quotes
  | partly response => response.quotes

def missingSymbols : QuotesResponse → List String
  | complete _ => []
  | partly response => response.missingSymbols

def quoted (response : QuotesResponse) : List String := response.quotes.map QuoteV1.symbol

def isPartly : QuotesResponse → Bool
  | complete _ => false
  | partly _ => true

end QuotesResponse

-- UpstreamMalformedError, and the two errors the rebuilding could raise.
inductive BatchError where
  | malformed (message : String)
  | keyError (symbol : String)
  | validation (error : Raised)
deriving DecidableEq

section Building

-- {quote.symbol: quote for quote in result}.
def bySymbol (result : List QuoteV1) : OrderedMap String QuoteV1 :=
  .ofPairs (result.map fun quote => (quote.symbol, quote))

def quoteOf (quotes : OrderedMap String QuoteV1) (symbol : String) : Except BatchError QuoteV1 :=
  match quotes.get symbol with
  | none => .error (.keyError symbol)
  | some quote => .ok quote

-- set(some) <= set(all).
def symbolSubset (some_ all : List String) : Bool := some_.all (fun symbol => all.contains symbol)

def partialResponse (quotes : List QuoteV1) (missingSymbols : List String) :
    Except BatchError QuotesResponse :=
  match PartialQuoteResponseV1.validated quotes missingSymbols with
  | .ok response => .ok (.partly response)
  | .error error => .error (.validation error)

def buildQuotes (symbols : List String) (allowPartial : Bool) (result : List QuoteV1) :
    Except BatchError QuotesResponse :=
  let quotes := bySymbol result
  if symbolSubset quotes.keys symbols && symbolSubset symbols quotes.keys then do
    let ordered ← symbols.mapM (quoteOf quotes)
    if allowPartial then partialResponse ordered [] else return .complete ordered
  else if allowPartial && (!quotes.keys.isEmpty || symbols.length = 1) &&
      symbolSubset quotes.keys symbols then do
    let ordered ← (symbols.filter fun symbol => quotes.keys.contains symbol).mapM (quoteOf quotes)
    partialResponse ordered (symbols.filter fun symbol => !quotes.keys.contains symbol)
  else .error (.malformed "upstream returned a partial symbol set")

end Building

def returnedSymbols (result : List QuoteV1) : List String := result.map QuoteV1.symbol

section Accounting

variable (symbols : List String) (result : List QuoteV1)

theorem symbol_subset_iff (some_ all : List String) : symbolSubset some_ all = true ↔ some_ ⊆ all := by
  simp [symbolSubset, List.subset_def]

theorem mem_by_symbol (symbol : String) : symbol ∈ (bySymbol result).keys ↔ symbol ∈ returnedSymbols result := by
  rw [bySymbol, OrderedMap.mem_of_pairs_keys, List.map_map]
  rfl

def lastQuote (symbol : String) : Option QuoteV1 := result.reverse.find? (fun quote => quote.symbol = symbol)

theorem by_symbol_get (symbol : String) : (bySymbol result).get symbol = lastQuote result symbol := by
  rw [bySymbol, OrderedMap.of_pairs_get, lastQuote, ← List.map_reverse]
  induction result.reverse with
  | nil => rfl
  | cons quote rest ih =>
      by_cases same : quote.symbol = symbol
      · simp only [List.map_cons, OrderedMap.lookup, List.find?_cons, same, decide_true, if_true]
      · simp only [List.map_cons, OrderedMap.lookup, ih, List.find?_cons, same, decide_false, if_false]

theorem last_quote_symbol (symbol : String) (quote : QuoteV1) (found : lastQuote result symbol = some quote) :
    quote.symbol = symbol := by
  have asked := List.find?_some (p := fun quote : QuoteV1 => decide (quote.symbol = symbol)) found
  exact of_decide_eq_true asked

theorem quotes_of_known (asked : List String) (known : ∀ symbol ∈ asked, symbol ∈ (bySymbol result).keys) :
    ∃ quotes, asked.mapM (quoteOf (bySymbol result)) = .ok quotes ∧ quotes.map QuoteV1.symbol = asked ∧
      ∀ quote ∈ quotes, lastQuote result quote.symbol = some quote := by
  induction asked with
  | nil => exact ⟨[], rfl, rfl, by simp⟩
  | cons symbol rest ih =>
      rw [List.forall_mem_cons] at known
      obtain ⟨quotes, read, order, last⟩ := ih known.2
      cases found : (bySymbol result).get symbol with
      | none => exact absurd known.1 (((bySymbol result).get_none_iff symbol).mp found)
      | some quote =>
          have kept : lastQuote result symbol = some quote := (by_symbol_get result symbol) ▸ found
          have named := last_quote_symbol result symbol quote kept
          refine ⟨quote :: quotes, ?_, ?_, ?_⟩
          · rw [List.mapM_cons, read, quoteOf, found]
            rfl
          · rw [List.map_cons, named, order]
          · rw [List.forall_mem_cons, named]
            exact ⟨kept, last⟩

def served : List String := symbols.filter fun symbol => (bySymbol result).keys.contains symbol

def omitted : List String := symbols.filter fun symbol => !(bySymbol result).keys.contains symbol

theorem mem_served (symbol : String) :
    symbol ∈ served symbols result ↔ symbol ∈ symbols ∧ symbol ∈ returnedSymbols result := by
  rw [served, List.mem_filter, List.contains_iff_mem, mem_by_symbol]

theorem mem_omitted (symbol : String) :
    symbol ∈ omitted symbols result ↔ symbol ∈ symbols ∧ symbol ∉ returnedSymbols result := by
  rw [omitted, List.mem_filter, Bool.not_eq_true', ← Bool.not_eq_true, List.contains_iff_mem, mem_by_symbol]

theorem served_omitted_perm : (served symbols result ++ omitted symbols result).Perm symbols :=
  List.filter_append_perm _ symbols

theorem served_all (covered : symbols ⊆ returnedSymbols result) :
    served symbols result = symbols ∧ omitted symbols result = [] := by
  constructor
  · apply List.filter_eq_self.mpr
    intro symbol member
    exact List.contains_iff_mem.mpr ((mem_by_symbol result symbol).mpr (covered member))
  · apply List.eq_nil_iff_forall_not_mem.mpr
    intro symbol member
    obtain ⟨asked, absent⟩ := (mem_omitted symbols result symbol).mp member
    exact absent (covered asked)

structure Accounted (response : QuotesResponse) : Prop where
  requestOrder : response.quoted.Sublist symbols
  missingOrder : response.missingSymbols.Sublist symbols
  onceEach : (response.quoted ++ response.missingSymbols).Perm symbols
  lastOnes : ∀ quote ∈ response.quotes, lastQuote result quote.symbol = some quote
  validated : ∃ accepted, PartialQuoteResponseV1.validated response.quotes response.missingSymbols = .ok accepted

structure BuiltFrom (allowPartial : Bool) (response : QuotesResponse) : Prop where
  quoted : response.quoted = served symbols result
  missing : response.missingSymbols = omitted symbols result
  lastOnes : ∀ quote ∈ response.quotes, lastQuote result quote.symbol = some quote
  partly : response.isPartly = allowPartial

-- The symbols that came back are those asked for, or the caller allows a part
-- of them and the part says which symbols are missing.
def SameSet : Prop := ∀ symbol, symbol ∈ returnedSymbols result ↔ symbol ∈ symbols

def ServesPart : Prop :=
  returnedSymbols result ⊆ symbols ∧ (returnedSymbols result ≠ [] ∨ symbols.length = 1)

def Answerable (allowPartial : Bool) : Prop :=
  SameSet symbols result ∨ (allowPartial = true ∧ ServesPart symbols result)

variable (allowPartial : Bool)

theorem same_set_iff :
    (symbolSubset (bySymbol result).keys symbols && symbolSubset symbols (bySymbol result).keys) = true ↔
      SameSet symbols result := by
  rw [Bool.and_eq_true, symbol_subset_iff, symbol_subset_iff]
  simp only [List.subset_def, mem_by_symbol, SameSet]
  exact ⟨fun both symbol => ⟨@both.1 symbol, @both.2 symbol⟩,
    fun same => ⟨fun back => (same _).mp back, fun asked => (same _).mpr asked⟩⟩

theorem keys_empty_iff : (bySymbol result).keys.isEmpty = true ↔ returnedSymbols result = [] := by
  rw [List.isEmpty_iff, List.eq_nil_iff_forall_not_mem, List.eq_nil_iff_forall_not_mem]
  simp only [mem_by_symbol]

theorem serves_part_iff :
    (allowPartial && (!(bySymbol result).keys.isEmpty || symbols.length = 1) &&
        symbolSubset (bySymbol result).keys symbols) = true ↔
      allowPartial = true ∧ ServesPart symbols result := by
  rw [Bool.and_eq_true, Bool.and_eq_true, Bool.or_eq_true, Bool.not_eq_true', ← Bool.not_eq_true,
    keys_empty_iff, decide_eq_true_iff, symbol_subset_iff, ServesPart]
  simp only [List.subset_def, mem_by_symbol]
  tauto

section Validating

variable (distinct : symbols.Nodup)

include distinct

theorem validated_split (quotes : List QuoteV1) (missing : List String)
    (split : (quotes.map QuoteV1.symbol ++ missing).Perm symbols) :
    ∃ response, PartialQuoteResponseV1.validated quotes missing = .ok response ∧
      response.quotes = quotes ∧ response.missingSymbols = missing := by
  have once := List.nodup_append.mp (split.nodup_iff.mpr distinct)
  have disjoint : ∀ symbol ∈ quotes.map QuoteV1.symbol, symbol ∉ missing :=
    fun symbol quoted absent => once.2.2 symbol quoted symbol absent rfl
  rw [PartialQuoteResponseV1.validated, dif_pos ⟨once.1, once.2.1⟩, dif_pos disjoint]
  exact ⟨_, rfl, rfl, rfl⟩

theorem built_accounted (response : QuotesResponse) (built : BuiltFrom symbols result allowPartial response) :
    Accounted symbols result response := by
  have split : (response.quoted ++ response.missingSymbols).Perm symbols := by
    rw [built.quoted, built.missing]
    exact served_omitted_perm symbols result
  obtain ⟨accepted, valid, _, _⟩ := validated_split symbols distinct response.quotes _ split
  exact ⟨built.quoted ▸ List.filter_sublist, built.missing ▸ List.filter_sublist, split, built.lastOnes,
    ⟨accepted, valid⟩⟩

theorem partial_response_built (quotes : List QuoteV1) (quoted : quotes.map QuoteV1.symbol = served symbols result)
    (last : ∀ quote ∈ quotes, lastQuote result quote.symbol = some quote) :
    ∃ response, partialResponse quotes (omitted symbols result) = .ok response ∧
      BuiltFrom symbols result true response := by
  have split : (quotes.map QuoteV1.symbol ++ omitted symbols result).Perm symbols := by
    rw [quoted]
    exact served_omitted_perm symbols result
  obtain ⟨response, valid, same, missing⟩ := validated_split symbols distinct quotes _ split
  refine ⟨.partly response, by rw [partialResponse, valid], ?_, missing, ?_, rfl⟩
  · rw [QuotesResponse.quoted, QuotesResponse.quotes, same, quoted]
  · rw [QuotesResponse.quotes, same]
    exact last

theorem build_quotes_whole (same : SameSet symbols result) :
    ∃ response, buildQuotes symbols allowPartial result = .ok response ∧
      BuiltFrom symbols result allowPartial response := by
  have known : ∀ symbol ∈ symbols, symbol ∈ (bySymbol result).keys :=
    fun symbol asked => (mem_by_symbol result symbol).mpr ((same symbol).mpr asked)
  obtain ⟨quotes, read, order, last⟩ := quotes_of_known result symbols known
  obtain ⟨whole, nothing⟩ := served_all symbols result (fun _ => (same _).mpr)
  rw [buildQuotes, if_pos ((same_set_iff symbols result).mpr same), read]
  cases allowPartial with
  | false => exact ⟨.complete quotes, rfl, order.trans whole.symm, nothing.symm, last, rfl⟩
  | true =>
      rw [← nothing]
      exact partial_response_built symbols result distinct quotes (order.trans whole.symm) last

theorem build_quotes_part (other : ¬ SameSet symbols result) (part : ServesPart symbols result) :
    ∃ response, buildQuotes symbols true result = .ok response ∧ BuiltFrom symbols result true response := by
  have known : ∀ symbol ∈ served symbols result, symbol ∈ (bySymbol result).keys :=
    fun symbol asked => (mem_by_symbol result symbol).mpr ((mem_served symbols result symbol).mp asked).2
  obtain ⟨quotes, read, order, last⟩ := quotes_of_known result (served symbols result) known
  rw [buildQuotes, if_neg (fun same => other ((same_set_iff symbols result).mp same)),
    if_pos ((serves_part_iff symbols result true).mpr ⟨rfl, part⟩)]
  rw [served] at read
  rw [read]
  exact partial_response_built symbols result distinct quotes order last

end Validating

theorem build_quotes_refused (refused : ¬ Answerable symbols result allowPartial) :
    buildQuotes symbols allowPartial result = .error (.malformed "upstream returned a partial symbol set") := by
  rw [Answerable, not_or] at refused
  rw [buildQuotes, if_neg (fun same => refused.1 ((same_set_iff symbols result).mp same)),
    if_neg (fun part => refused.2 ((serves_part_iff symbols result allowPartial).mp part))]

theorem build_quotes_answered (distinct : symbols.Nodup) (answerable : Answerable symbols result allowPartial) :
    ∃ response, buildQuotes symbols allowPartial result = .ok response ∧
      BuiltFrom symbols result allowPartial response := by
  by_cases same : SameSet symbols result
  · exact build_quotes_whole symbols result allowPartial distinct same
  · obtain whole | ⟨allowed, part⟩ := answerable
    · exact absurd whole same
    · rw [allowed]
      exact build_quotes_part symbols result distinct same part

theorem build_quotes_ok_iff (distinct : symbols.Nodup) :
    (∃ response, buildQuotes symbols allowPartial result = .ok response) ↔
      Answerable symbols result allowPartial := by
  constructor
  · rintro ⟨response, built⟩
    by_contra refused
    rw [build_quotes_refused symbols result allowPartial refused] at built
    cases built
  · intro answerable
    obtain ⟨response, built, _⟩ := build_quotes_answered symbols result allowPartial distinct answerable
    exact ⟨response, built⟩

theorem same_set_serves_part (nonempty : symbols ≠ []) (same : SameSet symbols result) :
    ServesPart symbols result := by
  refine ⟨fun _ => (same _).mp, .inl ?_⟩
  intro nothing
  obtain ⟨symbol, asked⟩ := List.exists_mem_of_ne_nil symbols nonempty
  have back := (same symbol).mpr asked
  rw [nothing] at back
  cases back

theorem quote_batch_accounted (nonempty : symbols ≠ []) (distinct : symbols.Nodup) :
    (∀ response, buildQuotes symbols allowPartial result = .ok response →
      Accounted symbols result response ∧ response.isPartly = allowPartial) ∧
    (allowPartial = false →
      ((∃ response, buildQuotes symbols allowPartial result = .ok response) ↔ SameSet symbols result)) ∧
    (allowPartial = true →
      ((∃ response, buildQuotes symbols allowPartial result = .ok response) ↔ ServesPart symbols result)) ∧
    ((∀ response, buildQuotes symbols allowPartial result ≠ .ok response) →
      buildQuotes symbols allowPartial result = .error (.malformed "upstream returned a partial symbol set")) := by
  have ok_iff := build_quotes_ok_iff symbols result allowPartial distinct
  refine ⟨?_, ?_, ?_, ?_⟩
  · intro response built
    obtain ⟨other, again, from_⟩ :=
      build_quotes_answered symbols result allowPartial distinct (ok_iff.mp ⟨response, built⟩)
    cases Except.ok.inj (built.symm.trans again)
    exact ⟨built_accounted symbols result allowPartial distinct response from_, from_.partly⟩
  · rintro rfl
    rw [ok_iff, Answerable]
    simp
  · rintro rfl
    rw [ok_iff, Answerable]
    constructor
    · rintro (same | ⟨_, part⟩)
      · exact same_set_serves_part symbols result nonempty same
      · exact part
    · exact fun part => .inr ⟨rfl, part⟩
  · intro failed
    apply build_quotes_refused
    intro answerable
    obtain ⟨response, built⟩ := ok_iff.mpr answerable
    exact failed response built

def quoteFor (symbol : String) (last : ℚ) : QuoteV1 where
  eventTimestamp := none
  ageSeconds := none
  stale := true
  dataQualityFlags := ["stale"]
  symbol := symbol
  gatewayReceivedAt := 1786543200000000
  source := "schwab_rest_quote"
  session := none
  bid := none
  ask := none
  bidSize := none
  askSize := none
  last := some (.finite last)
  lastSize := none
  mark := none
  volume := none
  close := none
  netPercentChange := none

def askedSymbols : List String := ["SPX", "VIX", "NDX"]

-- Two quotes of NDX around one of SPX, and none of VIX.
def returnedQuotes : List QuoteV1 := [quoteFor "NDX" 1, quoteFor "SPX" 2, quoteFor "NDX" 3]

-- VIX is reported missing to a caller that allows it; any other caller, and a
-- symbol that was not asked for, are refused.
theorem quote_batch_accounted_sample :
    (∃ response, buildQuotes askedSymbols true returnedQuotes = .ok response ∧
      Accounted askedSymbols returnedQuotes response ∧ response.isPartly = true ∧
      response.quotes = [quoteFor "SPX" 2, quoteFor "NDX" 3] ∧ response.missingSymbols = ["VIX"]) ∧
    buildQuotes askedSymbols false returnedQuotes = .error (.malformed "upstream returned a partial symbol set") ∧
    buildQuotes ["SPX", "VIX"] true returnedQuotes =
      .error (.malformed "upstream returned a partial symbol set") := by
  refine ⟨?_, ?_, ?_⟩
  · obtain ⟨accounted, _, part, _⟩ := quote_batch_accounted askedSymbols returnedQuotes true (by decide) (by decide)
    have served : ServesPart askedSymbols returnedQuotes := ⟨by decide, .inl (by decide)⟩
    obtain ⟨response, built⟩ := (part rfl).mpr served
    have made : (buildQuotes askedSymbols true returnedQuotes).toOption.map
        (fun response => (response.quotes, response.missingSymbols)) =
          some ([quoteFor "SPX" 2, quoteFor "NDX" 3], ["VIX"]) := by decide +kernel
    rw [built] at made
    have parts := Prod.mk.inj (Option.some.inj made)
    exact ⟨response, built, (accounted response built).1, (accounted response built).2, parts.1, parts.2⟩
  · obtain ⟨_, whole, _, refused⟩ :=
      quote_batch_accounted askedSymbols returnedQuotes false (by decide) (by decide)
    apply refused
    intro response built
    have same := (whole rfl).mp ⟨response, built⟩
    exact absurd ((same "VIX").mpr (by decide)) (by decide)
  · obtain ⟨_, _, part, refused⟩ :=
      quote_batch_accounted ["SPX", "VIX"] returnedQuotes true (by decide) (by decide)
    apply refused
    intro response built
    have served := (part rfl).mp ⟨response, built⟩
    exact absurd served.1 (by decide)

end Accounting

end SchwabGateway.Upstream
