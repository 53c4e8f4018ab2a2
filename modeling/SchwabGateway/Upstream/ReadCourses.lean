import SchwabGateway.Upstream.DirectReads

set_option autoImplicit false

namespace SchwabGateway.Upstream

open SchwabGateway.Library SchwabGateway.Python

abbrev Takes {α : Type} (fault refused : Bool) (outcome : Result α) : Prop :=
  Courses Raised.isValueError fault refused outcome

def unnamed (millis : Int) : Bool := decide (datetimeMillis ≤ millis) && !late millis

theorem timestamp_takes (millis : Int) : Takes (late millis) (unnamed millis) (timestamp millis) := by
  refine ⟨timestamp_escapes_iff millis, ?_⟩
  have early : datetimeMillis < gmtimeMillis := by decide
  unfold timestamp unnamed late
  by_cases dated : millis < datetimeMillis
  · simp [from_millis_dated millis dated, not_le.mpr dated, lt_trans dated early]
  · by_cases named : millis < gmtimeMillis
    · simp [from_millis_named millis dated named, named, not_lt.mp dated]
    · rcases from_millis_unnamed millis named with error | error
      · simp [error, named]
      · simp [error, named]

variable (literals : Literals)

theorem read_integer_of_ok (payload : Payload) (name : String) (value : Option Int)
    (read : integer literals payload name = .ok value) : readInteger literals payload name = value := by
  rw [readInteger, read]
  rfl

theorem read_number_of_ok (payload : Payload) (name : String) (value : Option PyFloat)
    (read : number literals payload name = .ok value) : readNumber literals payload name = value := by
  rw [readNumber, read]
  rfl

theorem integers_read (payload : Payload) (names : List String) (values : List (Option Int))
    (read : names.mapM (integer literals payload) = .ok values) :
    values = names.map (readInteger literals payload) := by
  induction names generalizing values with
  | nil =>
      cases read
      rfl
  | cons name rest ih =>
      rw [List.mapM_cons] at read
      obtain ⟨value, first, read⟩ := (bind_ok_iff _ _ _).mp read
      obtain ⟨later, others, read⟩ := (bind_ok_iff _ _ _).mp read
      cases read
      rw [ih later others, List.map_cons, read_integer_of_ok literals payload name value first]

section Times

def newestMillis (payload : Payload) : Option Int :=
  ((eventNames.map (readInteger literals payload)).filterMap (Option.filter (0 < ·))).max?

def extremeTimes (payload : Payload) : Bool :=
  eventNames.any (fun name => infinite (PyValue.get payload name)) || (newestMillis literals payload).any late

def unnamedTimes (payload : Payload) : Bool := (newestMillis literals payload).any unnamed

theorem event_time_takes (payload : Payload) :
    Takes (extremeTimes literals payload) (unnamedTimes literals payload) (eventTime literals payload) := by
  unfold eventTime extremeTimes unnamedTimes
  apply courses_after_settles _ _ _ _ _
    (settles_map_m _ (integer literals payload) (integer_reads literals payload) eventNames)
  intro values read
  rw [integers_read literals payload eventNames values read, ← newestMillis]
  cases newestMillis literals payload with
  | none => exact courses_ok none
  | some millis =>
      apply courses_then_ok _ _ _ _ (timestamp_takes millis)
      exact fun at_ => ⟨some at_, rfl⟩

end Times

section Quotes

variable (symbol : String) (payload : Payload)

def regularTimes : Payload :=
  if isOptionSymbol symbol then quoteTimes (block payload "quote") else block payload "quote"

def eventOf (payload : Payload) : Option Datetime := (eventTime literals payload).toOption.join

def currentBlock : Payload :=
  if !isOptionSymbol symbol &&
      newer (eventOf literals (block payload "extended")) (eventOf literals (regularTimes symbol payload)) then
    block payload "extended"
  else block payload "quote"

def extremeQuoteFields (current regular : Payload) : Bool :=
  huge (PyValue.get current "bidPrice") || huge (PyValue.get current "askPrice") ||
    infinite (PyValue.get current "bidSize") || infinite (PyValue.get current "askSize") ||
    huge (PyValue.get current "lastPrice") || infinite (PyValue.get current "lastSize") ||
    huge (PyValue.get current "mark") || infinite (PyValue.get current "totalVolume") ||
    huge (PyValue.get regular "closePrice") || huge (PyValue.get regular "netPercentChange")

-- An extreme number in the times, or, if the times can be told, in the fields.
def extremeQuote : Bool :=
  extremeTimes literals (regularTimes symbol payload) ||
    (!unnamedTimes literals (regularTimes symbol payload) &&
      (extremeTimes literals (block payload "extended") ||
        (!unnamedTimes literals (block payload "extended") &&
          extremeQuoteFields (currentBlock literals symbol payload) (block payload "quote"))))

def unnamedQuote : Bool :=
  unnamedTimes literals (regularTimes symbol payload) || unnamedTimes literals (block payload "extended")

theorem event_of_ok (payload : Payload) (event : Option Datetime)
    (read : eventTime literals payload = .ok event) : eventOf literals payload = event := by
  rw [eventOf, read]
  rfl

theorem regular_event_time (payload : Payload) :
    regularEventTime literals symbol (block payload "quote") =
      eventTime literals (regularTimes symbol payload) := by
  unfold regularEventTime regularTimes
  split
  · rfl
  · rfl

theorem quote_takes (receivedAt : Datetime) (threshold : PyFloat) :
    Takes (extremeQuote literals symbol payload) (unnamedQuote literals symbol payload)
      (normalizeQuote literals symbol payload receivedAt threshold) := by
  unfold normalizeQuote extremeQuote unnamedQuote
  dsimp only
  rw [regular_event_time]
  apply courses_bind _ _ _ _ _ _ (event_time_takes literals _)
  intro regularTime regularRead
  apply courses_then_settles _ _ _ _ _ (event_time_takes literals _)
  intro extendedTime extendedRead
  rw [currentBlock, event_of_ok literals _ _ regularRead, event_of_ok literals _ _ extendedRead]
  simp only [extremeQuoteFields, Bool.or_assoc]
  apply settles_bind _ _ _ _ (number_reads literals _ "bidPrice")
  intro bid _
  apply settles_bind _ _ _ _ (number_reads literals _ "askPrice")
  intro ask _
  apply settles_bind _ _ _ _ (integer_reads literals _ "bidSize")
  intro bidSize _
  apply settles_bind _ _ _ _ (integer_reads literals _ "askSize")
  intro askSize _
  apply settles_bind _ _ _ _ (number_reads literals _ "lastPrice")
  intro last _
  apply settles_bind _ _ _ _ (integer_reads literals _ "lastSize")
  intro lastSize _
  apply settles_bind _ _ _ _ (number_reads literals _ "mark")
  intro mark _
  apply settles_bind _ _ _ _ (integer_reads literals _ "totalVolume")
  intro volume _
  apply settles_bind _ _ _ _ (number_reads literals _ "closePrice")
  intro close _
  apply settles_then_ok _ _ _ (number_reads literals _ "netPercentChange")
  exact fun netPercentChange => ⟨_, rfl⟩

-- The quotes are read in the order of the symbols, up to the first refusal.
def extremeQuotes : List (String × Payload) → Bool
  | [] => false
  | (symbol, payload) :: rest =>
      extremeQuote literals symbol payload || (!unnamedQuote literals symbol payload && extremeQuotes rest)

theorem quotes_take (receivedAt : Datetime) (threshold : PyFloat) (rows : List (String × Payload)) :
    Takes (extremeQuotes literals rows) (rows.any fun row => unnamedQuote literals row.1 row.2)
      (normalizeQuotes literals receivedAt threshold rows) := by
  induction rows with
  | nil => exact courses_ok []
  | cons row rest ih =>
      obtain ⟨symbol, payload⟩ := row
      rw [List.any_cons, extremeQuotes, normalizeQuotes]
      apply courses_bind _ _ _ _ _ _ (quote_takes literals symbol payload receivedAt _)
      intro quote _
      apply courses_then_ok _ _ _ _ ih
      exact fun quotes => ⟨quote :: quotes, rfl⟩

end Quotes

section Movers

def extremeFirst (fault : PyValue → Bool) (found : String → Bool) (payload : Payload) : List String → Bool
  | [] => false
  | name :: rest =>
      fault (PyValue.get payload name) || (!found name && extremeFirst fault found payload rest)

def extremeFirstNumber (payload : Payload) : List String → Bool :=
  extremeFirst huge (fun name => (readNumber literals payload name).isSome) payload

def extremeFirstInteger (payload : Payload) : List String → Bool :=
  extremeFirst infinite (fun name => (readInteger literals payload name).isSome) payload

theorem first_reads {α : Type} (fault : PyValue → Bool) (found : String → Bool) (payload : Payload)
    (read : String → Result (Option α)) (first : List String → Result (Option α))
    (each : ∀ name, Reads (fault (PyValue.get payload name)) (read name))
    (present : ∀ name value, read name = .ok value → found name = value.isSome)
    (empty : first [] = .ok none)
    (next : ∀ name rest, first (name :: rest) =
      read name >>= fun value => value.elim (first rest) (fun value => .ok (some value)))
    (names : List String) : Reads (extremeFirst fault found payload names) (first names) := by
  induction names with
  | nil =>
      rw [empty]
      exact settles_ok none
  | cons name rest ih =>
      rw [extremeFirst, next]
      apply settles_bind _ _ _ _ (each name)
      intro value done
      rw [present name value done]
      cases value with
      | none => exact ih
      | some value => exact settles_ok (some value)

theorem first_number_reads (payload : Payload) (names : List String) :
    Reads (extremeFirstNumber literals payload names) (firstNumber literals payload names) := by
  apply first_reads huge _ payload (number literals payload) _ (number_reads literals payload)
  · intro name value read
    rw [read_number_of_ok literals payload name value read]
  · rfl
  · intro name rest
    refine congrArg (number literals payload name >>= ·) (funext fun value => ?_)
    cases value <;> rfl

theorem first_integer_reads (payload : Payload) (names : List String) :
    Reads (extremeFirstInteger literals payload names) (firstInteger literals payload names) := by
  apply first_reads infinite _ payload (integer literals payload) _ (integer_reads literals payload)
  · intro name value read
    rw [read_integer_of_ok literals payload name value read]
  · rfl
  · intro name rest
    refine congrArg (integer literals payload name >>= ·) (funext fun value => ?_)
    cases value <;> rfl

def extremeMover : PyValue → Bool
  | .dict item =>
      (moverSymbol item).isSome &&
        (extremeFirstNumber literals item ["lastPrice", "last"] ||
          extremeFirstNumber literals item ["change", "netChange"] ||
          extremeFirstNumber literals item ["changePercent", "netPercentChange"] ||
          extremeFirstInteger literals item ["totalVolume", "volume"])
  | _ => false

theorem count_stays (field message : String) (value : Option Int) :
    ¬ Escapes (nullable (count field message) value) := by
  cases value with
  | none => exact ok_not_uncaught _ none
  | some number =>
      rw [nullable, count]
      split
      · exact ok_not_uncaught _ _
      · simp [Escapes, Uncaught, Except.map, Raised.isValueError]

theorem mover_of_escapes_iff (symbol : String) (item : Payload) :
    Escapes (moverOf literals symbol item) ↔
      (extremeFirstNumber literals item ["lastPrice", "last"] ||
        extremeFirstNumber literals item ["change", "netChange"] ||
        extremeFirstNumber literals item ["changePercent", "netPercentChange"] ||
        extremeFirstInteger literals item ["totalVolume", "volume"]) = true := by
  unfold moverOf
  simp only [Bool.or_assoc]
  apply uncaught_after_settles _ _ _ _ (first_number_reads literals item _)
  intro lastPrice _
  apply uncaught_after_settles _ _ _ _ (first_number_reads literals item _)
  intro change _
  apply uncaught_after_settles _ _ _ _ (first_number_reads literals item _)
  intro changePercent _
  rw [← Bool.or_false (extremeFirstInteger literals item _)]
  apply uncaught_after_settles _ _ _ _ (first_integer_reads literals item _)
  intro volume _
  have stays := caught_bind _ _ (fun volume => (.ok { symbol, lastPrice, change, changePercent, volume } :
    Result MoverV1)) (count_stays "volume" moverVolumeMessage volume) (fun _ => ok_not_uncaught _ _)
  exact iff_of_false stays Bool.false_ne_true

theorem mover_reads (item : PyValue) : Reads (extremeMover literals item) (moverFromItem literals item) := by
  cases item with
  | dict item =>
      unfold extremeMover moverFromItem
      dsimp only
      cases moverSymbol item with
      | none => exact settles_ok none
      | some symbol =>
          rw [Option.isSome_some, Bool.true_and]
          exact drop_invalid_reads _ _ (mover_of_escapes_iff literals symbol item)
  | _ => exact settles_ok none

theorem collect_movers_reads (items : List PyValue) :
    Reads (items.any (extremeMover literals)) (collectMovers literals items) := by
  induction items with
  | nil => exact settles_ok []
  | cons item rest ih =>
      rw [List.any_cons, collectMovers]
      apply settles_bind _ _ _ _ (mover_reads literals item)
      intro mover _
      apply settles_then_ok _ _ _ ih
      exact fun movers => ⟨_, rfl⟩

end Movers

section Metadata

def extremeMillis (payload : Payload) (name : String) : Bool :=
  infinite (PyValue.get payload name) || (readInteger literals payload name).any late

def unnamedMillis (payload : Payload) (name : String) : Bool :=
  (readInteger literals payload name).any unnamed

def extremeUnderlying (payload : Payload) : Bool :=
  match PyValue.get payload "underlying" with
  | .dict underlying =>
      extremeMillis literals underlying "quoteTime" ||
        (!unnamedMillis literals underlying "quoteTime" && extremeMillis literals underlying "tradeTime")
  | _ => false

def unnamedUnderlying (payload : Payload) : Bool :=
  match PyValue.get payload "underlying" with
  | .dict underlying =>
      unnamedMillis literals underlying "quoteTime" || unnamedMillis literals underlying "tradeTime"
  | _ => false

def extremeMetadata (payload : Payload) : Bool :=
  huge (PyValue.get payload "underlyingPrice") || extremeUnderlying literals payload

theorem optional_integer (payload : Payload) (name : String) :
    optional (toInt literals (PyValue.get payload name)) = integer literals payload name := by
  unfold integer
  cases PyValue.get payload name with
  | none => rfl
  | _ => rfl

theorem epoch_millis_takes (payload : Payload) (name : String) :
    Takes (extremeMillis literals payload name) (unnamedMillis literals payload name)
      (epochMillis literals payload name) := by
  unfold epochMillis extremeMillis unnamedMillis
  rw [optional_integer]
  apply courses_after_settles _ _ _ _ _ (integer_reads literals payload name)
  intro value read
  rw [read_integer_of_ok literals payload name value read]
  cases value with
  | none => exact courses_ok none
  | some millis =>
      dsimp only [Option.any_some]
      by_cases early : millis ≤ 0
      · rw [if_pos early]
        have inTime := late_positive millis (not_lt.mpr early)
        have named : unnamed millis = false := by
          have limit : 0 < datetimeMillis := by decide
          simp [unnamed, not_le.mpr (lt_of_le_of_lt early limit)]
        rw [inTime, named]
        exact courses_ok none
      · rw [if_neg early]
        apply courses_then_ok _ _ _ _ (timestamp_takes millis)
        exact fun at_ => ⟨some at_, rfl⟩

theorem underlying_takes (payload : Payload) :
    Takes (extremeUnderlying literals payload) (unnamedUnderlying literals payload)
      (underlyingEventTime literals payload) := by
  unfold underlyingEventTime extremeUnderlying unnamedUnderlying
  cases PyValue.get payload "underlying" with
  | dict underlying =>
      apply courses_bind _ _ _ _ _ _ (epoch_millis_takes literals _ "quoteTime")
      intro quote _
      apply courses_then_ok _ _ _ _ (epoch_millis_takes literals _ "tradeTime")
      intro trade
      cases quote with
      | none => exact ⟨trade, rfl⟩
      | some quote =>
          cases trade with
          | none => exact ⟨some quote, rfl⟩
          | some trade => exact ⟨some (max quote trade), rfl⟩
  | _ => exact courses_ok none

-- What json.loads can return: the keys of an object are strings.
inductive Decoded : PyValue → Prop where
  | none : Decoded .none
  | bool (flag : Bool) : Decoded (.bool flag)
  | int (number : Int) : Decoded (.int number)
  | float (number : PyFloat) : Decoded (.float number)
  | str (text : String) : Decoded (.str text)
  | list (items : List PyValue) (each : ∀ item ∈ items, Decoded item) : Decoded (.list items)
  | dict (entries : Payload) (keys : ∀ row ∈ entries, ∃ key, row.1 = .str key)
      (values : ∀ row ∈ entries, Decoded row.2) : Decoded (.dict entries)

theorem decoded_get (payload : Payload) (name : String) (values : ∀ row ∈ payload, Decoded row.2) :
    Decoded (PyValue.get payload name) := by
  induction payload with
  | nil => exact .none
  | cons row rest ih =>
      have later := ih (fun other member => values other (List.mem_cons_of_mem _ member))
      unfold PyValue.get
      split
      · rename_i empty
        cases empty
      · rename_i key value others _ same
        cases same
        split
        · exact values _ (List.mem_cons_self ..)
        · exact later
      · rename_i same
        cases same
        exact later

theorem text_key_reads (text : String) :
    ∃ strike, optional (toFloat literals (.str text)) = .ok strike := by
  dsimp only [toFloat]
  cases literals.float text with
  | none => exact ⟨none, rfl⟩
  | some strike => exact ⟨some strike, rfl⟩

theorem count_strikes_reads (strikes : Payload) (keys : ∀ row ∈ strikes, ∃ key, row.1 = .str key) :
    ∃ result, countStrikes literals strikes = .ok result := by
  induction strikes with
  | nil => exact ⟨(0, []), rfl⟩
  | cons row rest ih =>
      obtain ⟨strikeText, options⟩ := row
      obtain ⟨text, rfl⟩ := keys _ (List.mem_cons_self ..)
      obtain ⟨later, counted⟩ := ih (fun other member => keys other (List.mem_cons_of_mem _ member))
      obtain ⟨strike, read⟩ := text_key_reads literals text
      have first : ∃ here, countStrike literals (.str text) options = .ok here := by
        unfold countStrike
        split
        · rw [read]
          cases strike with
          | none => exact ⟨none, rfl⟩
          | some strike =>
              dsimp only [bind, Except.bind]
              split
              · exact ⟨none, rfl⟩
              · exact ⟨_, rfl⟩
        · exact ⟨none, rfl⟩
      obtain ⟨here, same⟩ := first
      rw [countStrikes, same, counted]
      cases here with
      | none => exact ⟨_, rfl⟩
      | some here => exact ⟨_, rfl⟩

theorem count_expirations_reads (expirationText : String) (expirations : Payload)
    (values : ∀ row ∈ expirations, Decoded row.2) :
    ∃ result, countExpirations literals expirationText expirations = .ok result := by
  induction expirations with
  | nil => exact ⟨(0, []), rfl⟩
  | cons row rest ih =>
      obtain ⟨key, strikeMap⟩ := row
      have decoded := values _ (List.mem_cons_self ..)
      obtain ⟨later, counted⟩ := ih (fun other member => values other (List.mem_cons_of_mem _ member))
      unfold countExpirations
      split
      · rename_i empty
        cases empty
      · rename_i text strikes others same
        cases same
        have here : ∃ first, (if mentions text expirationText then countStrikes literals strikes
            else .ok (0, [])) = .ok first := by
          split
          · cases decoded with
            | dict _ keys _ => exact count_strikes_reads literals strikes keys
          · exact ⟨(0, []), rfl⟩
        obtain ⟨first, same⟩ := here
        rw [same, counted]
        exact ⟨_, rfl⟩
      · rename_i same
        cases same
        exact ⟨later, counted⟩

theorem count_expiration_reads (expirationMap : PyValue) (expiration : Date)
    (decoded : Decoded expirationMap) : ∃ result, countExpiration literals expirationMap expiration = .ok result := by
  cases decoded with
  | dict entries _ values => exact count_expirations_reads literals _ entries values
  | _ => exact ⟨(0, []), rfl⟩

theorem metadata_takes (payload : Payload) (expiration : Date) (decoded : Decoded (.dict payload)) :
    Takes (extremeMetadata literals payload) (unnamedUnderlying literals payload)
      (extractChainMetadata literals (.dict payload) expiration) := by
  have inside : ∀ name, Decoded (PyValue.get payload name) := by
    cases decoded with
    | dict _ _ values => exact fun name => decoded_get payload name values
  obtain ⟨calls, callsRead⟩ := count_expiration_reads literals _ expiration (inside "callExpDateMap")
  obtain ⟨puts, putsRead⟩ := count_expiration_reads literals _ expiration (inside "putExpDateMap")
  unfold extractChainMetadata extremeMetadata
  dsimp only
  rw [callsRead, putsRead]
  apply courses_after_settles _ _ _ _ _ (number_reads literals payload "underlyingPrice")
  intro underlyingPrice _
  apply courses_then_ok _ _ _ _ (underlying_takes literals payload)
  exact fun eventTimestamp => ⟨_, rfl⟩

end Metadata

end SchwabGateway.Upstream
