import SchwabGateway.Client.Requests

set_option autoImplicit false

namespace SchwabGateway.Client

open SchwabGateway.Api SchwabGateway.Library SchwabGateway.Python SchwabGateway.Upstream
open SchwabGateway.OrderBook (strip Venue maxStreamSymbols)

variable (unicode : Unicode)

def ticker (symbol : String) : String := unicode.upper (strip symbol)

def tickers (symbols : List String) : List String :=
  ((symbols.flatMap fun symbol => symbol.splitOn ",").filter fun part => strip part ≠ "").map (ticker unicode)

structure Batch (valid : String → Bool) (symbols : List String) : Prop where
  some_ : symbols ≠ []
  bounded : symbols.length ≤ maxSymbols
  distinct : symbols.Nodup
  valid : ∀ symbol ∈ symbols, valid symbol = true

-- What a call asks for, if the gateway can be asked for it.
inductive Meant : Call → Asked → Prop where
  | quotes (symbols : List String) (batch : Batch isQuoteSymbol (tickers unicode symbols)) :
      Meant (.getQuotes symbols) (.quotes (tickers unicode symbols) false)
  | availableQuotes (symbols : List String) (batch : Batch isQuoteSymbol (tickers unicode symbols)) :
      Meant (.getAvailableQuotes symbols) (.quotes (tickers unicode symbols) true)
  | spot (symbol : String) (valid : symbolPattern (ticker unicode symbol) = true) :
      Meant (.getSpot symbol) (.spot (ticker unicode symbol))
  | chain (symbol : String) (expiration : DateArgument) (valid : symbolPattern (ticker unicode symbol) = true) :
      Meant (.getChainMetadata symbol expiration) (.chain (ticker unicode symbol) expiration.1)
  | optionChain (symbol : String) (expiration : DateArgument)
      (valid : symbolPattern (ticker unicode symbol) = true) :
      Meant (.getOptionChain symbol expiration) (.optionChain (ticker unicode symbol) expiration.1)
  | history (symbol : String) (frequency : Frequency) (daysBack : Option Int) (days : Int)
      (valid : symbolPattern (ticker unicode symbol) = true)
      (same : daysBack.getD (historyDaysBackBounds frequency).default = days)
      (within : (historyDaysBackBounds frequency).minimum ≤ days ∧ days ≤ (historyDaysBackBounds frequency).maximum) :
      Meant (.getHistory symbol frequency.text daysBack) (.history (ticker unicode symbol) frequency days)
  | movers (index : String) (listed : MoverIndex) (direction : Direction) (same : ticker unicode index = listed.text) :
      Meant (.getMovers index direction.text) (.movers listed direction)
  | sessionHistory (symbol : String) (date : DateArgument) (session : Session)
      (valid : symbolPattern (ticker unicode symbol) = true) :
      Meant (.getSessionHistory symbol date session.text) (.sessionHistory (ticker unicode symbol) date.1 session)
  | recentOrderBook (symbol venueText : String) (venue : Venue) (limit : Int)
      (valid : symbolPattern (ticker unicode symbol) = true) (same : ticker unicode venueText = venue.text)
      (within : 1 ≤ limit ∧ limit ≤ 1000) :
      Meant (.getRecentOrderBook symbol venueText limit) (.recentOrderBook (ticker unicode symbol) venue limit)
  | streamOrderBooks (symbols : List String) (venueText : String) (venue : Venue)
      (same : ticker unicode venueText = venue.text) :
      Meant (.streamOrderBooks symbols venueText) (.streamOrderBook (symbols.map (ticker unicode)) venue)

section Texts

def settled (change : Char → Char) (text : String) : Bool :=
  text.toList.all fun c => c.toNat < 128 && !isSpace c && change c = c

variable (text : String)

theorem settled_facts (change : Char → Char) (plain : settled change text = true) :
    isascii text = true ∧ strip text = text ∧ text.map change = text := by
  rw [settled, List.all_eq_true] at plain
  simp only [Bool.and_eq_true, decide_eq_true_eq, Bool.not_eq_true'] at plain
  refine ⟨?_, ?_, ?_⟩
  · rw [isascii, List.all_eq_true]
    intro c member
    rw [decide_eq_true_eq]
    exact (plain c member).1.1
  · exact strip_plain text fun c member => (plain c member).1.2
  · apply String.toList_injective
    rw [String.toList_map]
    exact (List.map_congr_left fun c member => (plain c member).2).trans (List.map_id _)

theorem strip_upper (plain : settled Char.toUpper text = true) : unicode.upper (strip text) = text := by
  obtain ⟨ascii, stripped, same⟩ := settled_facts text Char.toUpper plain
  rw [stripped, unicode.upperAscii text ascii, same]

theorem strip_lower (plain : settled Char.toLower text = true) : unicode.lower (strip text) = text := by
  obtain ⟨ascii, stripped, same⟩ := settled_facts text Char.toLower plain
  rw [stripped, unicode.lowerAscii text ascii, same]

theorem symbol_character_facts (c : Char) (symbol : symbolCharacter c = true) :
    (c.toNat < 128 && !isSpace c && c.toUpper = c) = true ∧ c ≠ ',' := by
  have small : c.toNat < 128 := by
    simp only [symbolCharacter, Bool.or_eq_true, Bool.and_eq_true, decide_eq_true_eq, List.contains_iff_mem,
      List.mem_cons, List.not_mem_nil, or_false] at symbol
    rcases symbol with (⟨-, high⟩ | ⟨-, high⟩) | rfl | rfl | rfl | rfl | rfl
    · have bound : c.toNat ≤ 90 := high
      omega
    · have bound : c.toNat ≤ 57 := high
      omega
    · decide
    · decide
    · decide
    · decide
    · decide
  have each : ∀ code : Fin 128, symbolCharacter (Char.ofNat code) = true →
      ((Char.ofNat code).toNat < 128 && !isSpace (Char.ofNat code) && (Char.ofNat code).toUpper = Char.ofNat code) =
        true ∧ Char.ofNat code ≠ ',' := by decide
  have here := each ⟨c.toNat, small⟩
  rw [Char.ofNat_toNat] at here
  exact here symbol

theorem symbol_settled (valid : symbolPattern text = true) :
    settled Char.toUpper text = true ∧ ',' ∉ text.toList ∧ text ≠ "" := by
  rw [symbolPattern, Bool.and_eq_true, Bool.and_eq_true, decide_eq_true_eq, List.all_eq_true] at valid
  refine ⟨?_, ?_, ?_⟩
  · rw [settled, List.all_eq_true]
    exact fun c member => (symbol_character_facts c (valid.2 c member)).1
  · exact fun comma => (symbol_character_facts ',' (valid.2 ',' comma)).2 rfl
  · intro empty
    rw [empty] at valid
    exact absurd valid.1.1 (by decide)

theorem tickers_plain (symbols : List String)
    (plain : ∀ symbol ∈ symbols, ',' ∉ symbol.toList ∧ strip symbol ≠ "") :
    tickers unicode symbols = symbols.map (ticker unicode) := by
  rw [tickers]
  congr 1
  induction symbols with
  | nil => rfl
  | cons symbol rest ih =>
      obtain ⟨comma, named⟩ := plain symbol List.mem_cons_self
      rw [List.flatMap_cons, List.filter_append, Commas.split_plain symbol comma,
        ih fun other member => plain other (List.mem_cons_of_mem _ member)]
      simp [named]

end Texts

section Parsed

variable (query : Query)

theorem parse_symbols_iff (valid : String → Bool) (symbols asked : List String) (some_ : symbols ≠ [])
    (found : query.lookup "symbols" = some (",".intercalate symbols)) :
    parseSymbols unicode query valid = .ok asked ↔
      Batch valid (tickers unicode symbols) ∧ tickers unicode symbols = asked := by
  have parts : (((query.get "symbols" "").splitOn ",").filter fun part => strip part ≠ "").map
      (fun part => unicode.upper (strip part)) = tickers unicode symbols := by
    rw [Query.get, found, Option.getD_some, Commas.split_joined symbols some_]
    rfl
  rw [Api.parseSymbols, parts]
  by_cases empty : tickers unicode symbols = []
  · rw [if_pos empty]
    exact ⟨nofun, fun both => absurd empty both.1.some_⟩
  by_cases many : maxSymbols < (tickers unicode symbols).length
  · rw [if_neg empty, if_pos many]
    exact ⟨nofun, fun both => absurd both.1.bounded (not_le.mpr many)⟩
  by_cases twice : ¬ (tickers unicode symbols).Nodup
  · rw [if_neg empty, if_neg many, if_pos twice]
    exact ⟨nofun, fun both => absurd both.1.distinct twice⟩
  cases bad : (tickers unicode symbols).any fun symbol => !valid symbol with
  | true =>
      rw [if_neg empty, if_neg many, if_neg twice, if_pos rfl]
      obtain ⟨symbol, member, wrong⟩ := List.any_eq_true.mp bad
      refine ⟨nofun, fun both => ?_⟩
      rw [both.1.valid symbol member] at wrong
      cases wrong
  | false =>
      rw [if_neg empty, if_neg many, if_neg twice, if_neg Bool.false_ne_true]
      simp only [List.any_eq_false, Bool.not_eq_true', Bool.not_eq_false] at bad
      exact ⟨fun same => ⟨⟨empty, not_lt.mp many, not_not.mp twice, bad⟩, Except.ok.inj same⟩,
        fun both => congrArg Except.ok both.2⟩

theorem parse_symbol_iff (symbol asked : String) (found : query.lookup "symbol" = some (strip symbol)) :
    parseSymbol unicode query = .ok asked ↔
      symbolPattern (ticker unicode symbol) = true ∧ ticker unicode symbol = asked := by
  rw [parseSymbol, Query.get, found, Option.getD_some, strip_strip]
  change
    (if ticker unicode symbol = "" then _ else if symbolPattern (ticker unicode symbol) = true then _ else _) = _ ↔ _
  by_cases valid : symbolPattern (ticker unicode symbol) = true
  · rw [if_neg (symbol_settled _ valid).2.2, if_pos valid]
    exact ⟨fun same => ⟨valid, Except.ok.inj same⟩, fun both => congrArg Except.ok both.2⟩
  · rw [if_neg valid]
    refine ⟨fun same => ?_, fun both => absurd both.1 valid⟩
    by_cases empty : ticker unicode symbol = ""
    · rw [if_pos empty] at same
      cases same
    · rw [if_neg empty] at same
      cases same

theorem parse_iso_date (name requiredMessage formatMessage : String) (date : DateArgument)
    (found : query.lookup name = some date.1.isoformat) :
    parseIsoDate query name requiredMessage formatMessage = .ok date.1 := by
  have length := Date.isoformat_length date.1 date.2
  have stripped := strip_plain _ (plain_ascii _ (Date.isoformat_characters date.1 date.2)).2
  have some_ : date.1.isoformat ≠ "" := by
    intro empty
    rw [empty] at length
    cases length
  rw [parseIsoDate, Query.get, found, Option.getD_some, stripped]
  rw [if_neg some_, if_neg (not_not.mpr length), Date.from_isoformat date.1 date.2]

theorem parse_session (session : Session) (found : query.lookup "session" = some session.text) :
    parseSession unicode query = .ok session := by
  rw [parseSession, Query.get, found, Option.getD_some]
  cases session with
  | regular => rw [strip_lower unicode _ (by decide)]; rfl
  | extended => rw [strip_lower unicode _ (by decide)]; rfl

theorem parse_frequency (frequency : Frequency) (found : query.lookup "frequency" = some frequency.text) :
    parseFrequency unicode query = .ok frequency := by
  rw [parseFrequency, Query.get, found, Option.getD_some]
  cases frequency with
  | daily => rw [strip_lower unicode _ (by decide)]; rfl
  | minute => rw [strip_lower unicode _ (by decide)]; rfl

theorem parse_direction (direction : Direction) (found : query.lookup "direction" = some direction.text) :
    parseDirection unicode query = .ok direction := by
  rw [parseDirection, Query.get, found, Option.getD_some]
  cases direction with
  | up => rw [strip_lower unicode _ (by decide)]; rfl
  | down => rw [strip_lower unicode _ (by decide)]; rfl

theorem parse_partial_choice (query : Query) :
    (query.lookup "allow_partial" = none → parseAllowPartial unicode query = .ok false) ∧
      (query.lookup "allow_partial" = some "true" → parseAllowPartial unicode query = .ok true) := by
  constructor
  · intro missing
    rw [parseAllowPartial, Query.get, missing, Option.getD_none, strip_lower unicode _ (by decide)]
    rfl
  · intro found
    rw [parseAllowPartial, Query.get, found, Option.getD_some, strip_lower unicode _ (by decide)]
    rfl

theorem parse_index_iff (index : String) (listed : MoverIndex)
    (found : query.lookup "index" = some (strip index)) :
    parseIndex unicode query = .ok listed ↔ ticker unicode index = listed.text := by
  rw [parseIndex, Query.get, found, Option.getD_some, strip_strip]
  change choice moverIndexes _ (ticker unicode index) = _ ↔ _
  constructor
  · intro read
    rw [choice] at read
    cases known : moverIndexes.lookup (ticker unicode index) with
    | none =>
        rw [known] at read
        cases read
    | some option =>
        rw [known] at read
        cases read
        have each : ∀ entry ∈ moverIndexes, entry.1 = entry.2.text := by decide
        obtain ⟨before, after, split, -⟩ := List.lookup_eq_some_iff.mp known
        exact each (ticker unicode index, listed) (by simp [split])
  · intro same
    rw [same]
    cases listed <;> rfl

theorem venue_plain (venue : Venue) : unicode.upper (strip venue.text) = venue.text := by
  cases venue with
  | nasdaq => exact strip_upper unicode _ (by decide)
  | nyse => exact strip_upper unicode _ (by decide)

theorem parse_order_book_venue (venue : Venue) (found : query.lookup "venue" = some venue.text) :
    parseOrderBookVenue unicode query = .ok venue := by
  rw [parseOrderBookVenue, Query.get, found, Option.getD_some, venue_plain unicode venue]
  cases venue <;> rfl

theorem parse_order_book_limit (limit : Int) (text : String) (within : 1 ≤ limit ∧ limit ≤ 1000)
    (written : str limit = some text) (found : query.lookup "limit" = some text) :
    parseOrderBookLimit unicode query = .ok limit := by
  obtain ⟨stripped, read⟩ := int_str limit unicode text written
  rw [parseOrderBookLimit, Query.get, found, Option.getD_some, stripped, read]
  exact if_pos within

theorem default_within (frequency : Frequency) :
    (historyDaysBackBounds frequency).minimum ≤ (historyDaysBackBounds frequency).default ∧
      (historyDaysBackBounds frequency).default ≤ (historyDaysBackBounds frequency).maximum := by
  cases frequency with
  | daily => decide
  | minute => decide

theorem str_nonempty (number : Int) (text : String) (written : str number = some text) : text ≠ "" := by
  intro empty
  rw [str] at written
  split at written
  · cases written
    have none : (toString number).toList = [] := by rw [empty]; rfl
    rw [to_string_list] at none
    exact absurd (List.append_eq_nil_iff.mp none).2 Nat.toDigits_ne_nil
  · cases written

theorem parse_days_back_iff (frequency : Frequency) (daysBack : Option Int) (params : Query) (days : Int)
    (written : daysBackParams daysBack = .ok params)
    (found : query.lookup "days_back" = params.lookup "days_back") :
    parseDaysBack unicode query frequency = .ok days ↔
      daysBack.getD (historyDaysBackBounds frequency).default = days ∧
        ((historyDaysBackBounds frequency).minimum ≤ days ∧ days ≤ (historyDaysBackBounds frequency).maximum) := by
  cases daysBack with
  | none =>
      cases written
      have missing : strip (query.get "days_back" "") = "" := by
        rw [Query.get, found]
        rfl
      rw [parseDaysBack, if_pos missing, Option.getD_none]
      constructor
      · intro same
        cases same
        exact ⟨rfl, default_within frequency⟩
      · intro both
        exact congrArg Except.ok both.1
  | some number =>
      rw [daysBackParams] at written
      cases text : str number with
      | none =>
          rw [text] at written
          cases written
      | some text_ =>
          rw [text] at written
          cases written
          obtain ⟨stripped, read⟩ := int_str number unicode text_ text
          have given : strip (query.get "days_back" "") = text_ := by
            rw [Query.get, found]
            exact stripped
          rw [parseDaysBack, given, if_neg (str_nonempty number text_ text), read, Option.getD_some]
          dsimp only
          by_cases within : (historyDaysBackBounds frequency).minimum ≤ number ∧
              number ≤ (historyDaysBackBounds frequency).maximum
          · rw [if_pos within]
            constructor
            · intro same
              cases same
              exact ⟨rfl, within⟩
            · intro both
              exact congrArg Except.ok both.1
          · rw [if_neg within]
            refine ⟨nofun, fun both => absurd ?_ within⟩
            rw [both.1]
            exact both.2

end Parsed

section Calls

variable (symbol message requested : String)

theorem required_symbol_ok (checked : requiredSymbol symbol message = .ok requested) : requested = strip symbol := by
  rw [requiredSymbol] at checked
  by_cases empty : strip symbol = ""
  · rw [if_pos empty] at checked
    cases checked
  · rw [if_neg empty] at checked
    exact (Except.ok.inj checked).symm

theorem one_of_ok (options : List String) (value : String) (checked : oneOf options message value = .ok requested) :
    requested = value ∧ value ∈ options := by
  rw [oneOf] at checked
  cases member : options.contains value with
  | true =>
      rw [member, if_pos rfl] at checked
      exact ⟨(Except.ok.inj checked).symm, List.contains_iff_mem.mp member⟩
  | false =>
      rw [member, if_neg Bool.false_ne_true] at checked
      cases checked

end Calls

section Routes

variable (request : Request) (asked : Asked)

theorem quotes_request_ok (symbols : List String) (allowPartial : Query)
    (sent : quotesRequest symbols allowPartial = .ok request) :
    symbols ≠ [] ∧ request = ⟨"/v1/quotes", ("symbols", ",".intercalate symbols) :: allowPartial⟩ := by
  rw [quotesRequest] at sent
  by_cases empty : symbols = []
  · rw [if_pos empty] at sent
    cases sent
  · rw [if_neg empty] at sent
    exact ⟨empty, (Except.ok.inj sent).symm⟩

theorem quotes_iff (query : Query) (symbols : List String) (some_ : symbols ≠ []) (allowPartial : Bool)
    (found : query.lookup "symbols" = some (",".intercalate symbols))
    (flag : parseAllowPartial unicode query = .ok allowPartial) :
    Route.quotes.parameters unicode query = .ok asked ↔
      Batch isQuoteSymbol (tickers unicode symbols) ∧ asked = .quotes (tickers unicode symbols) allowPartial := by
  have parsed := fun result => parse_symbols_iff unicode query isQuoteSymbol symbols result some_ found
  rw [Route.parameters, bind_ok_iff, flag]
  constructor
  · intro read
    obtain ⟨result, found, same⟩ := read
    obtain ⟨batch, rfl⟩ := (parsed result).mp found
    cases same
    exact ⟨batch, rfl⟩
  · intro both
    obtain ⟨batch, rfl⟩ := both
    exact ⟨_, (parsed _).mpr ⟨batch, rfl⟩, rfl⟩

theorem chain_request_ok (path symbol : String) (expiration : DateArgument)
    (sent : chainRequest path symbol expiration = .ok request) :
    request = ⟨path, [("symbol", strip symbol), ("expiration", expiration.1.isoformat)]⟩ := by
  obtain ⟨requested, checked, same⟩ := (bind_ok_iff _ _ _).mp sent
  cases same
  rw [required_symbol_ok symbol _ requested checked]

def Understood (call : Call) (request : Request) : Prop :=
  ∃ route : Route, request.path = route.path ∧
    ∀ asked, route.parameters unicode request.params = .ok asked ↔ Meant unicode call asked

theorem quotes_understood (symbols : List String) (sent : Call.request unicode (.getQuotes symbols) = .ok request) :
    Understood unicode (.getQuotes symbols) request := by
  obtain ⟨some_, rfl⟩ := quotes_request_ok request symbols [] sent
  refine ⟨.quotes, rfl, fun asked => ?_⟩
  rw [quotes_iff unicode asked _ symbols some_ false rfl ((parse_partial_choice unicode _).1 rfl)]
  constructor
  · intro both
    obtain ⟨batch, rfl⟩ := both
    exact .quotes symbols batch
  · intro meant
    cases meant with
    | quotes _ batch => exact ⟨batch, rfl⟩

theorem available_quotes_understood (symbols : List String)
    (sent : Call.request unicode (.getAvailableQuotes symbols) = .ok request) :
    Understood unicode (.getAvailableQuotes symbols) request := by
  obtain ⟨some_, rfl⟩ := quotes_request_ok request symbols [("allow_partial", "true")] sent
  refine ⟨.quotes, rfl, fun asked => ?_⟩
  rw [quotes_iff unicode asked _ symbols some_ true rfl ((parse_partial_choice unicode _).2 rfl)]
  constructor
  · intro both
    obtain ⟨batch, rfl⟩ := both
    exact .availableQuotes symbols batch
  · intro meant
    cases meant with
    | availableQuotes _ batch => exact ⟨batch, rfl⟩

theorem spot_understood (symbol : String) (sent : Call.request unicode (.getSpot symbol) = .ok request) :
    Understood unicode (.getSpot symbol) request := by
  obtain ⟨requested, checked, same⟩ := (bind_ok_iff _ _ _).mp sent
  cases same
  rw [required_symbol_ok symbol _ requested checked]
  refine ⟨.spot, rfl, fun asked => ?_⟩
  have parsed := fun result => parse_symbol_iff unicode [("symbol", strip symbol)] symbol result rfl
  rw [Route.parameters, bind_ok_iff]
  constructor
  · intro read
    obtain ⟨result, found, same⟩ := read
    obtain ⟨valid, rfl⟩ := (parsed result).mp found
    cases same
    exact .spot symbol valid
  · intro meant
    cases meant with
    | spot _ valid => exact ⟨_, (parsed _).mpr ⟨valid, rfl⟩, rfl⟩

theorem chain_understood (symbol : String) (expiration : DateArgument)
    (sent : Call.request unicode (.getChainMetadata symbol expiration) = .ok request) :
    Understood unicode (.getChainMetadata symbol expiration) request := by
  rw [chain_request_ok request _ symbol expiration sent]
  refine ⟨.chain, rfl, fun asked => ?_⟩
  have parsed := fun result => parse_symbol_iff unicode
    [("symbol", strip symbol), ("expiration", expiration.1.isoformat)] symbol result rfl
  rw [Route.parameters, bind_ok_iff, parseExpiration, parse_iso_date _ _ _ _ expiration rfl]
  constructor
  · intro read
    obtain ⟨result, found, same⟩ := read
    obtain ⟨valid, rfl⟩ := (parsed result).mp found
    cases same
    exact .chain symbol expiration valid
  · intro meant
    cases meant with
    | chain _ _ valid => exact ⟨_, (parsed _).mpr ⟨valid, rfl⟩, rfl⟩

theorem option_chain_understood (symbol : String) (expiration : DateArgument)
    (sent : Call.request unicode (.getOptionChain symbol expiration) = .ok request) :
    Understood unicode (.getOptionChain symbol expiration) request := by
  rw [chain_request_ok request _ symbol expiration sent]
  refine ⟨.optionChain, rfl, fun asked => ?_⟩
  have parsed := fun result => parse_symbol_iff unicode
    [("symbol", strip symbol), ("expiration", expiration.1.isoformat)] symbol result rfl
  rw [Route.parameters, bind_ok_iff, parseExpiration, parse_iso_date _ _ _ _ expiration rfl]
  constructor
  · intro read
    obtain ⟨result, found, same⟩ := read
    obtain ⟨valid, rfl⟩ := (parsed result).mp found
    cases same
    exact .optionChain symbol expiration valid
  · intro meant
    cases meant with
    | optionChain _ _ valid => exact ⟨_, (parsed _).mpr ⟨valid, rfl⟩, rfl⟩

theorem history_understood (symbol text : String) (daysBack : Option Int)
    (sent : Call.request unicode (.getHistory symbol text daysBack) = .ok request) :
    Understood unicode (.getHistory symbol text daysBack) request := by
  obtain ⟨requested, checked, sent⟩ := (bind_ok_iff _ _ _).mp sent
  obtain ⟨chosen, listed, sent⟩ := (bind_ok_iff _ _ _).mp sent
  obtain ⟨params, written, same⟩ := (bind_ok_iff _ _ _).mp sent
  cases same
  rw [required_symbol_ok symbol _ requested checked]
  obtain ⟨rfl, member⟩ := one_of_ok _ chosen _ text listed
  have known : ∃ frequency : Frequency, chosen = frequency.text := by
    simp only [List.mem_cons, List.not_mem_nil, or_false] at member
    cases member with
    | inl daily => exact ⟨.daily, daily⟩
    | inr minute => exact ⟨.minute, minute⟩
  obtain ⟨frequency, spelled⟩ := known
  refine ⟨.history, rfl, fun asked => ?_⟩
  generalize whole : [("symbol", strip symbol), ("frequency", chosen)] ++ params = query
  have named : query.lookup "frequency" = some chosen := by rw [← whole]; rfl
  have parsed := fun result => parse_symbol_iff unicode query symbol result (by rw [← whole]; rfl)
  have frequencies := fun other => parse_frequency unicode query other
  have days := fun result => parse_days_back_iff unicode query frequency daysBack params result written
    (by rw [← whole]; rfl)
  have read := frequencies frequency (spelled ▸ named)
  dsimp only
  rw [Route.parameters, bind_ok_iff, read]
  constructor
  · intro read
    obtain ⟨result, found, read⟩ := read
    obtain ⟨valid, rfl⟩ := (parsed result).mp found
    obtain ⟨_, same, read⟩ := (bind_ok_iff _ _ _).mp read
    cases same
    obtain ⟨number, found, same⟩ := (bind_ok_iff _ _ _).mp read
    obtain ⟨meant, within⟩ := (days number).mp found
    cases same
    rw [spelled]
    exact .history symbol frequency daysBack number valid meant within
  · intro meant
    cases meant with
    | history _ other _ number valid meant within =>
        cases read.symm.trans (frequencies other named)
        exact ⟨_, (parsed _).mpr ⟨valid, rfl⟩, (bind_ok_iff _ _ _).mpr ⟨frequency, rfl,
          (bind_ok_iff _ _ _).mpr ⟨number, (days number).mpr ⟨meant, within⟩, rfl⟩⟩⟩

theorem movers_understood (index text : String)
    (sent : Call.request unicode (.getMovers index text) = .ok request) :
    Understood unicode (.getMovers index text) request := by
  obtain ⟨requested, checked, sent⟩ := (bind_ok_iff _ _ _).mp sent
  obtain ⟨chosen, listed, same⟩ := (bind_ok_iff _ _ _).mp sent
  cases same
  rw [required_symbol_ok index _ requested checked]
  obtain ⟨rfl, member⟩ := one_of_ok _ chosen _ text listed
  have known : ∃ direction : Direction, chosen = direction.text := by
    simp only [List.mem_cons, List.not_mem_nil, or_false] at member
    cases member with
    | inl up => exact ⟨.up, up⟩
    | inr down => exact ⟨.down, down⟩
  obtain ⟨direction, spelled⟩ := known
  refine ⟨.movers, rfl, fun asked => ?_⟩
  have parsed := fun result => parse_index_iff unicode [("index", strip index), ("direction", chosen)] index result rfl
  have directions := fun other => parse_direction unicode [("index", strip index), ("direction", chosen)] other
  have read := directions direction (congrArg some spelled)
  dsimp only
  rw [Route.parameters, bind_ok_iff, read]
  constructor
  · intro read
    obtain ⟨found, same, answer⟩ := read
    cases answer
    rw [spelled]
    exact .movers index found direction ((parsed found).mp same)
  · intro meant
    cases meant with
    | movers _ found other same =>
        cases read.symm.trans (directions other rfl)
        exact ⟨found, (parsed found).mpr same, rfl⟩

theorem session_history_understood (symbol text : String) (date : DateArgument)
    (sent : Call.request unicode (.getSessionHistory symbol date text) = .ok request) :
    Understood unicode (.getSessionHistory symbol date text) request := by
  obtain ⟨requested, checked, sent⟩ := (bind_ok_iff _ _ _).mp sent
  obtain ⟨chosen, listed, same⟩ := (bind_ok_iff _ _ _).mp sent
  cases same
  rw [required_symbol_ok symbol _ requested checked]
  obtain ⟨rfl, member⟩ := one_of_ok _ chosen _ text listed
  have known : ∃ session : Session, chosen = session.text := by
    simp only [List.mem_cons, List.not_mem_nil, or_false] at member
    cases member with
    | inl regular => exact ⟨.regular, regular⟩
    | inr extended => exact ⟨.extended, extended⟩
  obtain ⟨session, spelled⟩ := known
  refine ⟨.sessionHistory, rfl, fun asked => ?_⟩
  generalize whole : [("symbol", strip symbol), ("date", date.1.isoformat), ("session", chosen)] = query
  have named : query.lookup "session" = some chosen := by rw [← whole]; rfl
  have parsed := fun result => parse_symbol_iff unicode query symbol result (by rw [← whole]; rfl)
  have dated : query.lookup "date" = some date.1.isoformat := by rw [← whole]; rfl
  have sessions := fun other => parse_session unicode query other
  have read := sessions session (spelled ▸ named)
  dsimp only
  rw [Route.parameters, bind_ok_iff, parseSessionDate, parse_iso_date query _ _ _ date dated, read]
  constructor
  · intro read
    obtain ⟨result, found, same⟩ := read
    obtain ⟨valid, rfl⟩ := (parsed result).mp found
    cases same
    rw [spelled]
    exact .sessionHistory symbol date session valid
  · intro meant
    cases meant with
    | sessionHistory _ _ other valid =>
        cases read.symm.trans (sessions other named)
        exact ⟨_, (parsed _).mpr ⟨valid, rfl⟩, rfl⟩

theorem normalize_venue_ok (venueText requested : String)
    (checked : normalizeOrderBookVenue unicode venueText = .ok requested) :
    ∃ venue : Venue, requested = venue.text ∧ ticker unicode venueText = venue.text := by
  obtain ⟨rfl, member⟩ := one_of_ok _ requested _ _ checked
  simp only [List.mem_cons, List.not_mem_nil, or_false] at member
  cases member with
  | inl nasdaq => exact ⟨.nasdaq, nasdaq, nasdaq⟩
  | inr nyse => exact ⟨.nyse, nyse, nyse⟩

theorem recent_order_book_understood (symbol venueText : String) (limit : Int)
    (sent : Call.request unicode (.getRecentOrderBook symbol venueText limit) = .ok request) :
    Understood unicode (.getRecentOrderBook symbol venueText limit) request := by
  obtain ⟨requested, checked, sent⟩ := (bind_ok_iff _ _ _).mp sent
  obtain ⟨chosen, listed, sent⟩ := (bind_ok_iff _ _ _).mp sent
  obtain ⟨venue, rfl, meantVenue⟩ := normalize_venue_ok unicode venueText chosen listed
  by_cases within : 1 ≤ limit ∧ limit ≤ 1000
  · rw [if_pos within] at sent
    obtain ⟨text, written, same⟩ := (bind_ok_iff _ _ _).mp sent
    cases same
    rw [required_symbol_ok symbol _ requested checked]
    have spelled : str limit = some text := by
      rw [limitText] at written
      cases found : str limit with
      | none =>
          rw [found] at written
          cases written
      | some other =>
          rw [found] at written
          cases written
          rfl
    refine ⟨.recentOrderBook, rfl, fun asked => ?_⟩
    generalize whole : [("symbol", strip symbol), ("venue", venue.text), ("limit", text)] = query
    have parsed := fun result => parse_symbol_iff unicode query symbol result (by rw [← whole]; rfl)
    have venues := fun other => parse_order_book_venue unicode query other
    have read := venues venue (by rw [← whole]; rfl)
    have limited := parse_order_book_limit unicode query limit text within spelled (by rw [← whole]; rfl)
    dsimp only
    rw [Route.parameters, bind_ok_iff, read, limited]
    constructor
    · intro read
      obtain ⟨result, found, same⟩ := read
      obtain ⟨valid, rfl⟩ := (parsed result).mp found
      cases same
      exact .recentOrderBook symbol venueText venue limit valid meantVenue within
    · intro meant
      cases meant with
      | recentOrderBook _ _ other _ valid same _ =>
          have one := read.symm.trans (venues other (by rw [← whole, ← same, meantVenue]; rfl))
          cases one
          exact ⟨_, (parsed _).mpr ⟨valid, rfl⟩, rfl⟩
  · rw [if_neg within] at sent
    cases sent

theorem normalize_symbols_ok (symbols requested : List String)
    (checked : normalizeOrderBookSymbols unicode symbols = .ok requested) :
    requested = symbols.map (ticker unicode) ∧ requested ≠ [] ∧ requested.length ≤ maxStreamSymbols ∧
      requested.Nodup ∧ ∀ symbol ∈ requested, symbolPattern symbol = true := by
  rw [normalizeOrderBookSymbols] at checked
  generalize same : symbols.map (fun symbol => unicode.upper (strip symbol)) = normalized at checked
  by_cases empty : normalized = [] ∨ normalized.any (fun symbol => symbol = "") = true
  · rw [if_pos empty] at checked
    cases checked
  by_cases many : maxStreamSymbols < normalized.length
  · rw [if_neg empty, if_pos many] at checked
    cases checked
  by_cases twice : ¬ normalized.Nodup
  · rw [if_neg empty, if_neg many, if_pos twice] at checked
    cases checked
  cases bad : normalized.any fun symbol => !symbolPattern symbol with
  | true =>
      rw [if_neg empty, if_neg many, if_neg twice, bad, if_pos rfl] at checked
      cases checked
  | false =>
      rw [if_neg empty, if_neg many, if_neg twice, bad, if_neg Bool.false_ne_true] at checked
      cases checked
      simp only [List.any_eq_false, Bool.not_eq_true', Bool.not_eq_false] at bad
      exact ⟨same.symm, fun none => empty (.inl none), not_lt.mp many, not_not.mp twice, bad⟩

theorem tickers_normal (symbols : List String) (valid : ∀ symbol ∈ symbols, symbolPattern symbol = true) :
    tickers unicode symbols = symbols := by
  have each : ∀ symbol ∈ symbols, strip symbol = symbol ∧ ticker unicode symbol = symbol := by
    intro symbol member
    have plain := (symbol_settled symbol (valid symbol member)).1
    exact ⟨(settled_facts symbol _ plain).2.1, strip_upper unicode symbol plain⟩
  rw [tickers_plain unicode symbols]
  · exact (List.map_congr_left fun symbol member => (each symbol member).2).trans (List.map_id _)
  · intro symbol member
    have facts := symbol_settled symbol (valid symbol member)
    exact ⟨facts.2.1, by rw [(each symbol member).1]; exact facts.2.2⟩

theorem stream_parsed (requested : List String) (venue : Venue) (some_ : requested ≠ [])
    (bounded : requested.length ≤ maxStreamSymbols) (distinct : requested.Nodup)
    (valid : ∀ symbol ∈ requested, symbolPattern symbol = true) :
    Route.streamOrderBook.parameters unicode [("symbols", ",".intercalate requested), ("venue", venue.text)] =
      .ok (.streamOrderBook requested venue) := by
  have normal := tickers_normal unicode requested valid
  have symbols := (parse_symbols_iff unicode [("symbols", ",".intercalate requested), ("venue", venue.text)]
    symbolPattern requested requested some_ rfl).mpr ⟨by
      rw [normal]
      exact ⟨some_, bounded.trans (by decide), distinct, valid⟩, normal⟩
  rw [Route.parameters, symbols, parse_order_book_venue unicode _ venue rfl]
  exact if_neg (not_lt.mpr bounded)

theorem stream_order_books_understood (symbols : List String) (venueText : String)
    (sent : Call.request unicode (.streamOrderBooks symbols venueText) = .ok request) :
    Understood unicode (.streamOrderBooks symbols venueText) request ∧
      ∃ asked, Meant unicode (.streamOrderBooks symbols venueText) asked := by
  obtain ⟨requested, checked, sent⟩ := (bind_ok_iff _ _ _).mp sent
  obtain ⟨chosen, listed, same⟩ := (bind_ok_iff _ _ _).mp sent
  cases same
  obtain ⟨venue, rfl, meantVenue⟩ := normalize_venue_ok unicode venueText chosen listed
  obtain ⟨rfl, some_, bounded, distinct, valid⟩ := normalize_symbols_ok unicode symbols requested checked
  have parsed := stream_parsed unicode _ venue some_ bounded distinct valid
  refine ⟨⟨.streamOrderBook, rfl, fun asked => ?_⟩, _, .streamOrderBooks symbols venueText venue meantVenue⟩
  dsimp only
  rw [parsed]
  constructor
  · intro same
    cases same
    exact .streamOrderBooks symbols venueText venue meantVenue
  · intro meant
    cases meant with
    | streamOrderBooks _ _ other same =>
        have read := fun found => parse_order_book_venue unicode [("venue", venue.text)] found
        cases (read venue rfl).symm.trans (read other (congrArg some (meantVenue.symm.trans same)))
        rfl

theorem call_understood (call : Call) (sent : call.request unicode = .ok request) :
    Understood unicode call request := by
  cases call with
  | getQuotes symbols => exact quotes_understood unicode request symbols sent
  | getAvailableQuotes symbols => exact available_quotes_understood unicode request symbols sent
  | getSpot symbol => exact spot_understood unicode request symbol sent
  | getChainMetadata symbol expiration => exact chain_understood unicode request symbol expiration sent
  | getOptionChain symbol expiration => exact option_chain_understood unicode request symbol expiration sent
  | getHistory symbol frequency daysBack => exact history_understood unicode request symbol frequency daysBack sent
  | getMovers index direction => exact movers_understood unicode request index direction sent
  | getSessionHistory symbol date session =>
      exact session_history_understood unicode request symbol session date sent
  | getRecentOrderBook symbol venue limit =>
      exact recent_order_book_understood unicode request symbol venue limit sent
  | streamOrderBooks symbols venue => exact (stream_order_books_understood unicode request symbols venue sent).1

end Routes

-- A request of the SDK is answered for what the caller meant or refused; a
-- stream is never refused for its parameters, and a batch of symbols without
-- commas is asked for as it was given.
theorem request_means_call (call : Call) (request : Request) (sent : call.request unicode = .ok request) :
    (∃ route : Route, request.path = route.path ∧
      ∀ asked, route.parameters unicode request.params = .ok asked ↔ Meant unicode call asked) ∧
    (∀ symbols venue, call = .streamOrderBooks symbols venue → ∃ asked, Meant unicode call asked) ∧
    (∀ symbols, call = .getQuotes symbols ∨ call = .getAvailableQuotes symbols →
      (∀ symbol ∈ symbols, ',' ∉ symbol.toList ∧ strip symbol ≠ "") →
      ∀ asked, Meant unicode call asked → ∃ allowPartial,
        asked = .quotes (symbols.map (ticker unicode)) allowPartial) := by
  refine ⟨call_understood unicode request call sent, ?_, ?_⟩
  · intro symbols venue same
    cases same
    exact (stream_order_books_understood unicode request symbols venue sent).2
  · intro symbols either plain asked meant
    rw [← tickers_plain unicode symbols plain]
    rcases either with rfl | rfl
    · cases meant with
      | quotes _ batch => exact ⟨false, rfl⟩
    · cases meant with
      | availableQuotes _ batch => exact ⟨true, rfl⟩

theorem request_means_call_history :
    Route.history.parameters asciiUnicode [("symbol", "spy"), ("frequency", "daily"), ("days_back", "30")] =
      .ok (.history "SPY" .daily 30) := by
  have sent : (Call.getHistory " spy " "daily" (some 30)).request asciiUnicode =
      .ok ⟨"/v1/history", [("symbol", "spy"), ("frequency", "daily"), ("days_back", "30")]⟩ := by decide +kernel
  obtain ⟨route, path, means⟩ := (request_means_call asciiUnicode _ _ sent).1
  cases route_of_path .history route path
  have same : ticker asciiUnicode " spy " = "SPY" := by decide +kernel
  rw [← same]
  exact (means _).mpr (.history " spy " .daily (some 30) 30 (by decide +kernel) rfl (by decide))

end SchwabGateway.Client
