import SchwabGateway.Upstream.ChainWire

set_option autoImplicit false

namespace SchwabGateway.Upstream

open SchwabGateway.Library SchwabGateway.Python

-- What is read back of an optional float: a value that JSON has no spelling
-- for has become a missing one.
def spelled (value : Option PyFloat) : Option PyFloat := value.filter PyFloat.isfinite

def Spellable (value : Option PyFloat) : Prop := ∀ price, value = some price → price.isfinite

theorem spelled_iff (value : Option PyFloat) : spelled value = value ↔ Spellable value := by
  cases value with
  | none => simp [spelled, Spellable]
  | some price => simp [spelled, Spellable]

section Readers

variable (field : String)

theorem read_float_or_null (value : Option PyFloat) :
    Json.readNullable Json.readFloat field (floatOrNull value) = .ok (spelled value) := by
  cases value with
  | none => rfl
  | some price =>
      cases price with
      | finite number => rfl
      | infinity => rfl
      | negInfinity => rfl
      | nan => rfl

theorem read_int_or_null (value : Option Int) :
    Json.readNullable Json.readInt field (intOrNull value) = .ok value := by
  cases value with
  | none => rfl
  | some number => rfl

theorem read_text_or_null (value : Option String) :
    Json.readNullable Json.readText field (.ofOption .text value) = .ok value := by
  cases value with
  | none => rfl
  | some text => rfl

theorem read_frequency (frequency : Frequency) :
    Frequency.read field (.text frequency.text) = .ok frequency := by
  cases frequency with
  | daily => rfl
  | minute => rfl

theorem read_mover_index (index : MoverIndex) : MoverIndex.read field (.text index.text) = .ok index := by
  have listed : MoverIndex.all.find? (fun other => other.text = index.text) = some index := by
    cases index <;> decide +kernel
  rw [MoverIndex.read, listed]

theorem read_direction (direction : Direction) :
    Direction.read field (.text direction.text) = .ok direction := by
  cases direction with
  | up => rfl
  | down => rfl

theorem unchanged_iff {α : Type} (change : α → α) (values : List α) :
    values.map change = values ↔ ∀ value ∈ values, change value = value := by
  have law := List.map_inj_left (l := values) (f := change) (g := id)
  rwa [List.map_id] at law

end Readers

namespace QuoteV1

def spelled (quote : QuoteV1) : QuoteV1 :=
  { quote with
    bid := Upstream.spelled quote.bid
    ask := Upstream.spelled quote.ask
    last := Upstream.spelled quote.last
    mark := Upstream.spelled quote.mark
    close := Upstream.spelled quote.close
    netPercentChange := Upstream.spelled quote.netPercentChange }

structure Finite (quote : QuoteV1) : Prop where
  bid : Spellable quote.bid
  ask : Spellable quote.ask
  last : Spellable quote.last
  mark : Spellable quote.mark
  close : Spellable quote.close
  netPercentChange : Spellable quote.netPercentChange

theorem validate_dump (field : String) (quote : QuoteV1) :
    modelValidate field quote.modelDump = .ok quote.spelled := by
  obtain ⟨fields, whole⟩ : ∃ fields, quote.entries = fields := ⟨_, rfl⟩
  obtain ⟨found, known⟩ := Json.whole_object fieldNames (by decide +kernel) quote.entries fields whole rfl
  simp only [entries, List.forall_mem_cons] at found
  unfold modelValidate modelDump
  rw [whole]
  simp only [Json.required, Json.defaulted, optionalFloat, optionalInt, optionalTime, optionalAge,
    qualityFlags, found, known, Json.readText, Json.readDatetime, Json.readBool, read_text_or_null,
    read_float_or_null, read_int_or_null, read_time, read_optional_age, read_flags, bind, Except.bind]
  rfl

theorem spelled_iff (quote : QuoteV1) : quote.spelled = quote ↔ quote.Finite := by
  constructor
  · intro same
    exact ⟨(Upstream.spelled_iff _).mp (congrArg bid same), (Upstream.spelled_iff _).mp (congrArg ask same),
      (Upstream.spelled_iff _).mp (congrArg last same), (Upstream.spelled_iff _).mp (congrArg mark same),
      (Upstream.spelled_iff _).mp (congrArg close same),
      (Upstream.spelled_iff _).mp (congrArg netPercentChange same)⟩
  · rintro ⟨bid, ask, last, mark, close, netPercentChange⟩
    unfold spelled
    rw [(Upstream.spelled_iff _).mpr bid, (Upstream.spelled_iff _).mpr ask, (Upstream.spelled_iff _).mpr last,
      (Upstream.spelled_iff _).mpr mark, (Upstream.spelled_iff _).mpr close,
      (Upstream.spelled_iff _).mpr netPercentChange]

end QuoteV1

structure PartialQuoteResponseV1 where
  quotes : List QuoteV1
  missingSymbols : List String
  quotedOnce : (quotes.map QuoteV1.symbol).Nodup
  missingOnce : missingSymbols.Nodup
  disjoint : ∀ symbol ∈ quotes.map QuoteV1.symbol, symbol ∉ missingSymbols

namespace PartialQuoteResponseV1

def validated (quotes : List QuoteV1) (missingSymbols : List String) : Result PartialQuoteResponseV1 :=
  if once : (quotes.map QuoteV1.symbol).Nodup ∧ missingSymbols.Nodup then
    if disjoint : ∀ symbol ∈ quotes.map QuoteV1.symbol, symbol ∉ missingSymbols then
      .ok ⟨quotes, missingSymbols, once.1, once.2, disjoint⟩
    else .error (.validation "" "a symbol cannot be both quoted and missing")
  else .error (.validation "" "quote symbols and missing symbols must be unique")

def modelDump (response : PartialQuoteResponseV1) : Json :=
  .object [
    ("schema_version", .text "1.0"),
    ("quotes", .array (response.quotes.map QuoteV1.modelDump)),
    ("missing_symbols", flagsArray response.missingSymbols)]

def modelValidate : Json → Result PartialQuoteResponseV1
  | .object fields => do
      let _ ← Json.defaulted fields "schema_version" "1.0" readVersion
      let quotes ← Json.required fields "quotes" (Json.readArray QuoteV1.modelValidate)
      let missingSymbols ← Json.required fields "missing_symbols" (Json.readArray Json.readText)
      Json.onlyFields ["schema_version", "quotes", "missing_symbols"] fields
      validated quotes missingSymbols
  | _ => .error (notObject "")

theorem validate_dump (response : PartialQuoteResponseV1) :
    modelValidate response.modelDump =
      validated (response.quotes.map QuoteV1.spelled) response.missingSymbols := by
  have quotes : Json.readArray QuoteV1.modelValidate "quotes" (.array (response.quotes.map QuoteV1.modelDump)) =
      .ok (response.quotes.map QuoteV1.spelled) :=
    Json.read_items_changed _ _ _ _ _ (fun quote _ => QuoteV1.validate_dump "quotes" quote)
  unfold modelValidate modelDump
  simp [Json.required, Json.defaulted, List.lookup_cons, readVersion, quotes, read_flags, Json.onlyFields, bind,
    Except.bind, pure, Except.pure]

-- The symbols are what they were, so the validators pass again.
theorem round_trip_iff (response : PartialQuoteResponseV1) :
    modelValidate response.modelDump = .ok response ↔ ∀ quote ∈ response.quotes, quote.Finite := by
  have symbols : (response.quotes.map QuoteV1.spelled).map QuoteV1.symbol =
      response.quotes.map QuoteV1.symbol := List.map_map ..
  have once : ((response.quotes.map QuoteV1.spelled).map QuoteV1.symbol).Nodup ∧
      response.missingSymbols.Nodup := ⟨symbols ▸ response.quotedOnce, response.missingOnce⟩
  have disjoint : ∀ symbol ∈ (response.quotes.map QuoteV1.spelled).map QuoteV1.symbol,
      symbol ∉ response.missingSymbols := symbols ▸ response.disjoint
  rw [validate_dump, validated, dif_pos once, dif_pos disjoint]
  simp only [← QuoteV1.spelled_iff, ← unchanged_iff]
  constructor
  · intro same
    exact congrArg quotes (Except.ok.inj same)
  · intro same
    simp only [same]

end PartialQuoteResponseV1

namespace SpotV1

def spelled (spot : SpotV1) : SpotV1 := { spot with price := Upstream.spelled spot.price }

theorem validate_dump (field : String) (spot : SpotV1) :
    modelValidate field spot.modelDump = .ok spot.spelled := by
  obtain ⟨fields, whole⟩ : ∃ fields, spot.entries = fields := ⟨_, rfl⟩
  obtain ⟨found, known⟩ := Json.whole_object fieldNames (by decide +kernel) spot.entries fields whole rfl
  simp only [entries, List.forall_mem_cons] at found
  unfold modelValidate modelDump
  rw [whole]
  simp only [Json.required, Json.defaulted, optionalFloat, optionalTime, optionalAge, qualityFlags, found,
    known, Json.readText, Json.readDatetime, Json.readBool, read_float_or_null, read_time, read_optional_age,
    read_flags, bind, Except.bind]
  rfl

theorem spelled_iff (spot : SpotV1) : spot.spelled = spot ↔ Spellable spot.price := by
  rw [← Upstream.spelled_iff]
  constructor
  · exact congrArg price
  · intro same
    rw [spelled, same]

end SpotV1

namespace ChainMetadataV1

def spelled (chain : ChainMetadataV1) : ChainMetadataV1 :=
  { chain with underlyingPrice := Upstream.spelled chain.underlyingPrice }

theorem validate_dump (field : String) (chain : ChainMetadataV1) :
    modelValidate field chain.modelDump = .ok chain.spelled := by
  obtain ⟨fields, whole⟩ : ∃ fields, chain.entries = fields := ⟨_, rfl⟩
  obtain ⟨found, known⟩ := Json.whole_object fieldNames (by decide +kernel) chain.entries fields whole rfl
  simp only [entries, List.forall_mem_cons] at found
  unfold modelValidate modelDump
  rw [whole]
  simp only [Json.required, Json.defaulted, optionalFloat, requiredCount, optionalTime, optionalAge,
    qualityFlags, found, known, Json.readText, Json.readDate, Json.readInt, Json.readDatetime, Json.readBool,
    count_written, read_float_or_null, read_time, read_optional_age, read_flags, bind, Except.bind]
  rfl

theorem spelled_iff (chain : ChainMetadataV1) : chain.spelled = chain ↔ Spellable chain.underlyingPrice := by
  rw [← Upstream.spelled_iff]
  constructor
  · exact congrArg underlyingPrice
  · intro same
    rw [spelled, same]

end ChainMetadataV1

namespace HistoryV1

theorem validate_dump (field : String) (history : HistoryV1) :
    modelValidate field history.modelDump =
      (Json.readItems PriceBarV1.modelValidate "bars" (history.bars.map PriceBarV1.modelDump)).map
        (fun bars => { history with bars := bars }) := by
  obtain ⟨fields, whole⟩ : ∃ fields, history.entries = fields := ⟨_, rfl⟩
  obtain ⟨found, known⟩ := Json.whole_object fieldNames (by decide +kernel) history.entries fields whole rfl
  simp only [entries, List.forall_mem_cons] at found
  unfold modelValidate modelDump
  rw [whole]
  simp only [Json.required, Json.defaulted, optionalTime, optionalAge, qualityFlags, found, known,
    Json.readText, Json.readDatetime, Json.readBool, read_frequency, read_time, read_optional_age, read_flags,
    bind, Except.bind]
  dsimp only [Json.readArray]
  cases Json.readItems PriceBarV1.modelValidate "bars" (history.bars.map PriceBarV1.modelDump) with
  | error error => rfl
  | ok bars => rfl

theorem round_trip_iff (field : String) (history : HistoryV1) :
    modelValidate field history.modelDump = .ok history ↔ ∀ bar ∈ history.bars, bar.Finite := by
  rw [validate_dump]
  exact bars_read_iff "bars" history.bars (fun bars => { history with bars := bars })

end HistoryV1

namespace MoverV1

def spelled (mover : MoverV1) : MoverV1 :=
  { mover with
    lastPrice := Upstream.spelled mover.lastPrice
    change := Upstream.spelled mover.change
    changePercent := Upstream.spelled mover.changePercent }

structure Finite (mover : MoverV1) : Prop where
  lastPrice : Spellable mover.lastPrice
  change : Spellable mover.change
  changePercent : Spellable mover.changePercent

theorem validate_dump (field : String) (mover : MoverV1) :
    modelValidate field mover.modelDump = .ok mover.spelled := by
  obtain ⟨fields, whole⟩ : ∃ fields, mover.entries = fields := ⟨_, rfl⟩
  obtain ⟨found, known⟩ := Json.whole_object fieldNames (by decide +kernel) mover.entries fields whole rfl
  simp only [entries, List.forall_mem_cons] at found
  unfold modelValidate modelDump
  rw [whole]
  simp only [Json.required, Json.defaulted, optionalFloat, optionalInt, found, known, Json.readText,
    read_float_or_null, read_int_or_null, nullable_count, bind, Except.bind]
  rfl

theorem spelled_iff (mover : MoverV1) : mover.spelled = mover ↔ mover.Finite := by
  constructor
  · intro same
    exact ⟨(Upstream.spelled_iff _).mp (congrArg lastPrice same), (Upstream.spelled_iff _).mp (congrArg change same),
      (Upstream.spelled_iff _).mp (congrArg changePercent same)⟩
  · rintro ⟨lastPrice, change, changePercent⟩
    unfold spelled
    rw [(Upstream.spelled_iff _).mpr lastPrice, (Upstream.spelled_iff _).mpr change,
      (Upstream.spelled_iff _).mpr changePercent]

end MoverV1

namespace MoversV1

def spelled (movers : MoversV1) : MoversV1 := { movers with movers := movers.movers.map MoverV1.spelled }

theorem validate_dump (field : String) (movers : MoversV1) :
    modelValidate field movers.modelDump = .ok movers.spelled := by
  obtain ⟨fields, whole⟩ : ∃ fields, movers.entries = fields := ⟨_, rfl⟩
  obtain ⟨found, known⟩ := Json.whole_object fieldNames (by decide +kernel) movers.entries fields whole rfl
  have items : Json.readArray MoverV1.modelValidate "movers" (.array (movers.movers.map MoverV1.modelDump)) =
      .ok (movers.movers.map MoverV1.spelled) :=
    Json.read_items_changed _ _ _ _ _ (fun mover _ => MoverV1.validate_dump "movers" mover)
  simp only [entries, List.forall_mem_cons] at found
  unfold modelValidate modelDump
  rw [whole]
  simp only [Json.required, Json.defaulted, optionalTime, optionalAge, qualityFlags, found, known,
    Json.readText, Json.readDatetime, Json.readBool, read_mover_index, read_direction, items, read_time,
    read_optional_age, read_flags, bind, Except.bind]
  rfl

theorem spelled_iff (movers : MoversV1) :
    movers.spelled = movers ↔ ∀ mover ∈ movers.movers, mover.Finite := by
  simp only [← MoverV1.spelled_iff, ← unchanged_iff]
  constructor
  · exact congrArg MoversV1.movers
  · intro same
    rw [spelled, same]

end MoversV1

end SchwabGateway.Upstream
