import SchwabGateway.Library.Cleanup
import SchwabGateway.Upstream.QuoteBatch

set_option autoImplicit false

namespace SchwabGateway.Provider

open SchwabGateway.Library SchwabGateway.Python SchwabGateway.Upstream

inductive QuoteCall where
  | getQuotes (symbols : List String)
  | close
deriving DecidableEq

-- What get_quotes, raise_for_status and json make of a batch after the calls so
-- far, and what the close of the session does, if it has one.
structure QuoteClient (ε : Type) where
  answer : List QuoteCall → List String → Except ε PyValue
  close : Option (List QuoteCall → Except ε Unit)

inductive QuotesError (ε : Type) where
  | batchSize
  | client (error : ε)
deriving DecidableEq

section Code

variable {ε : Type} (client : QuoteClient ε) (symbols : List String)

abbrev QuoteAction (ε α : Type) := Attempt ε (List QuoteCall) α

def defaultQuoteBatchSize : Int := 150

-- range(0, length, size).
def batchStarts (length size : Nat) : List Nat := (List.range ((length + size - 1) / size)).map (fun i => i * size)

def quoteBatch (size start : Nat) : List String := (symbols.drop start).take size

def askQuotes (batch : List String) : QuoteAction ε PyValue := fun calls =>
  (client.answer calls batch, calls ++ [.getQuotes batch])

def updateResults (results : Payload) (response : PyValue) : Payload :=
  match response with
  | .dict payload => payload ++ results
  | _ => results

def quoteLoop (size : Nat) : List Nat → Payload → QuoteAction ε Payload
  | [], results => pure results
  | start :: rest, results => do
      let response ← askQuotes client (quoteBatch symbols size start)
      quoteLoop size rest (updateResults results response)

-- The finally clause of _closing_session.
def closingSession : QuoteAction ε Unit := fun calls =>
  match client.close with
  | none => (.ok (), calls)
  | some close => (close calls, calls ++ [.close])

def quoteOperation (size : Nat) : QuoteAction ε Payload :=
  (quoteLoop client symbols size (batchStarts symbols.length size) []).ensuring (closingSession client)

-- get_equity_quotes up to what _execute makes of its operation, with the calls of
-- the client.
def getEquityQuotes (batchSize : Int) : Except (QuotesError ε) Payload × List QuoteCall :=
  if symbols = [] then (.ok [], [])
  else if batchSize < 1 then (.error .batchSize, [])
  else
    let ended := quoteOperation client symbols batchSize.toNat []
    (ended.1.mapError .client, ended.2)

end Code

section Slices

variable (symbols : List String) (size : Nat)

def quoteBatches : List (List String) := (batchStarts symbols.length size).map (quoteBatch symbols size)

theorem batches_taken (count : Nat) :
    ((List.range count).map (fun i => quoteBatch symbols size (i * size))).flatten = symbols.take (count * size) := by
  induction count with
  | zero => simp
  | succ count ih =>
      rw [List.range_succ, List.map_append, List.flatten_append, ih, Nat.succ_mul, List.take_add]
      simp [quoteBatch]

theorem batches_reach (length : Nat) (positive : 0 < size) : length ≤ (length + size - 1) / size * size := by
  have whole := Nat.div_add_mod (length + size - 1) size
  have less := Nat.mod_lt (length + size - 1) positive
  rw [Nat.mul_comm]
  omega

theorem quote_batches_flatten (positive : 0 < size) : (quoteBatches symbols size).flatten = symbols := by
  rw [quoteBatches, batchStarts, List.map_map]
  have taken := batches_taken symbols size ((symbols.length + size - 1) / size)
  rw [List.take_of_length_le (batches_reach size symbols.length positive)] at taken
  exact taken

theorem quote_batches_bounded (positive : 0 < size) (batch : List String) (member : batch ∈ quoteBatches symbols size) :
    batch ≠ [] ∧ batch.length ≤ size := by
  obtain ⟨start, started, rfl⟩ := List.mem_map.mp member
  obtain ⟨i, ranged, rfl⟩ := List.mem_map.mp started
  have within := (Nat.le_div_iff_mul_le positive).mp (Nat.succ_le_of_lt (List.mem_range.mp ranged))
  rw [Nat.succ_mul] at within
  constructor
  · intro empty
    have none_ := congrArg List.length empty
    rw [quoteBatch, List.length_take, List.length_drop, List.length_nil] at none_
    omega
  · exact List.length_take_le _ _

theorem parsed_one_batch (upper : String → String) (value : String) (parsed : parseSymbols upper value = .ok symbols) :
    quoteBatches symbols defaultQuoteBatchSize.toNat = [symbols] := by
  obtain ⟨some_, _, few, _⟩ := parse_symbols_ok upper value symbols parsed
  have positive := List.length_pos_iff.mpr some_
  have fits : symbols.length ≤ 100 := few
  have whole : symbols.drop 0 = symbols := rfl
  have once : (symbols.length + 150 - 1) / 150 = 1 := by omega
  change (List.map _ (List.range ((symbols.length + 150 - 1) / 150))).map (quoteBatch symbols 150) = [symbols]
  rw [once]
  change [(symbols.drop 0).take 150] = [symbols]
  rw [whole, List.take_of_length_le (by omega)]

end Slices

section Answers

variable {ε : Type} (client : QuoteClient ε)

def answers : List (List String) → List QuoteCall → List (Except ε PyValue)
  | [], _ => []
  | batch :: rest, calls => client.answer calls batch :: answers rest (calls ++ [.getQuotes batch])

theorem quote_loop_result (symbols : List String) (size : Nat) (starts : List Nat) (results : Payload)
    (calls : List QuoteCall) :
    (quoteLoop client symbols size starts results calls).1 =
      ((answers client (starts.map (quoteBatch symbols size)) calls).mapM id).map
        (fun responses => responses.foldl updateResults results) := by
  induction starts generalizing results calls with
  | nil => rfl
  | cons start rest ih =>
      rw [quoteLoop, Attempt.bind_run, askQuotes, List.map_cons, answers, List.mapM_cons]
      cases client.answer calls (quoteBatch symbols size start) with
      | error error => rfl
      | ok response =>
          rw [ih]
          dsimp only [id]
          cases (answers client (rest.map (quoteBatch symbols size))
              (calls ++ [.getQuotes (quoteBatch symbols size start)])).mapM id with
          | error error => rfl
          | ok responses => rfl

theorem quote_loop_calls (symbols : List String) (size : Nat) (starts : List Nat) (results : Payload)
    (calls : List QuoteCall) :
    ∃ asked unasked, starts.map (quoteBatch symbols size) = asked ++ unasked ∧
      (quoteLoop client symbols size starts results calls).2 = calls ++ asked.map .getQuotes ∧
      (∀ merged, (quoteLoop client symbols size starts results calls).1 = .ok merged → unasked = []) := by
  induction starts generalizing results calls with
  | nil => exact ⟨[], [], rfl, (List.append_nil calls).symm, fun _ _ => rfl⟩
  | cons start rest ih =>
      rw [quoteLoop, Attempt.bind_run, askQuotes, List.map_cons]
      cases client.answer calls (quoteBatch symbols size start) with
      | error error =>
          exact ⟨[quoteBatch symbols size start], rest.map (quoteBatch symbols size), rfl, rfl,
            fun _ same => by cases same⟩
      | ok response =>
          obtain ⟨asked, unasked, parts, made, all⟩ :=
            ih (updateResults results response) (calls ++ [.getQuotes (quoteBatch symbols size start)])
          refine ⟨quoteBatch symbols size start :: asked, unasked, by rw [parts, List.cons_append], ?_, all⟩
          rw [made, List.append_assoc, List.map_cons, List.singleton_append]

def closing : List QuoteCall := if client.close.isSome then [.close] else []

theorem closing_session_calls (calls : List QuoteCall) :
    (closingSession client calls).2 = calls ++ closing client := by
  rw [closingSession, closing]
  cases client.close with
  | none => exact (List.append_nil calls).symm
  | some close => rfl

theorem answers_returned (batches : List (List String)) (calls : List QuoteCall) (responses : List PyValue)
    (returned : (answers client batches calls).mapM id = .ok responses) :
    answers client batches calls = responses.map .ok := by
  induction batches generalizing calls responses with
  | nil =>
      cases returned
      rfl
  | cons batch rest ih =>
      rw [answers, List.mapM_cons] at returned
      rw [answers]
      cases one : client.answer calls batch with
      | error error =>
          rw [one] at returned
          cases returned
      | ok response =>
          rw [one] at returned
          cases others : (answers client rest (calls ++ [.getQuotes batch])).mapM id with
          | error error =>
              rw [others] at returned
              cases returned
          | ok tail =>
              rw [others] at returned
              cases returned
              rw [ih _ _ others, List.map_cons]

theorem answers_raised (batches : List (List String)) (calls : List QuoteCall) (error : ε)
    (raised : (answers client batches calls).mapM id = .error error) :
    .error error ∈ answers client batches calls := by
  induction batches generalizing calls with
  | nil => cases raised
  | cons batch rest ih =>
      rw [answers, List.mapM_cons] at raised
      rw [answers]
      cases one : client.answer calls batch with
      | error other =>
          rw [one] at raised
          cases raised
          exact List.mem_cons_self
      | ok response =>
          rw [one] at raised
          cases others : (answers client rest (calls ++ [.getQuotes batch])).mapM id with
          | error other =>
              rw [others] at raised
              cases raised
              exact List.mem_cons_of_mem _ (ih _ others)
          | ok tail =>
              rw [others] at raised
              cases raised

end Answers

section Tables

variable {ε : Type} (client : QuoteClient ε) (table : Payload)

-- A client that answers every symbol on its own: a batch has what the table has
-- for its symbols, and of others nothing else.
def Entrywise : Prop :=
  ∀ calls batch response, client.answer calls batch = .ok response → ∃ payload, response = .dict payload ∧
    (∀ symbol ∈ batch, entry payload symbol = entry table symbol) ∧
    ∀ symbol, entry payload symbol = none ∨ entry payload symbol = entry table symbol

theorem entry_append (first second : Payload) (name : String) :
    entry (first ++ second) name = (entry first name).or (entry second name) := by
  induction first with
  | nil => rfl
  | cons head rest ih =>
      obtain ⟨key, value⟩ := head
      cases key with
      | str text =>
          rw [List.cons_append, entry, entry]
          by_cases same : text = name
          · rw [if_pos same, if_pos same, Option.some_or]
          · rw [if_neg same, if_neg same, ih]
      | none | bool | int | float | list | dict | object => exact ih

theorem or_settled (first second known : Option PyValue) (one : first = none ∨ first = known)
    (two : second = none ∨ second = known) : first.or second = none ∨ first.or second = known := by
  cases first with
  | none => exact two
  | some value =>
      cases one with
      | inl absent => cases absent
      | inr same => exact .inr same

theorem or_known (first second known : Option PyValue) (one : first = none ∨ first = known)
    (two : second = none ∨ second = known) (either : first = known ∨ second = known) :
    first.or second = known := by
  cases either with
  | inr same =>
      rw [same] at two ⊢
      cases one with
      | inl absent => rw [absent, Option.none_or]
      | inr equal => rw [equal, Option.or_self]
  | inl same =>
      cases one with
      | inl absent =>
          rw [absent] at same
          rw [absent, Option.none_or, ← same]
          exact two.elim id (fun equal => equal.trans same.symm)
      | inr equal =>
          cases two with
          | inl absent => rw [absent, Option.or_none, equal]
          | inr other => rw [equal, other, Option.or_self]

theorem merged_table (entrywise : Entrywise client table) (batches : List (List String)) (calls : List QuoteCall)
    (responses : List PyValue) (answered : answers client batches calls = responses.map .ok) (results : Payload)
    (partly : ∀ symbol, entry results symbol = none ∨ entry results symbol = entry table symbol) (symbol : String)
    (asked : entry results symbol = entry table symbol ∨ ∃ batch ∈ batches, symbol ∈ batch) :
    entry (responses.foldl updateResults results) symbol = entry table symbol := by
  induction batches generalizing calls responses results with
  | nil =>
      have none_ : responses = [] := by simpa [answers] using answered
      rw [none_]
      cases asked with
      | inl here => exact here
      | inr later =>
          obtain ⟨batch, member, _⟩ := later
          cases member
  | cons batch rest ih =>
      cases responses with
      | nil => cases answered
      | cons response others =>
          rw [answers, List.map_cons] at answered
          obtain ⟨one, answered⟩ := List.cons.inj answered
          obtain ⟨payload, same, own, other⟩ := entrywise calls batch response one
          have merged : updateResults results response = payload ++ results := by rw [same, updateResults]
          rw [List.foldl_cons, merged]
          apply ih _ others answered
          · intro name
            rw [entry_append]
            exact or_settled _ _ _ (other name) (partly name)
          · rw [entry_append]
            cases asked with
            | inl here => exact .inl (or_known _ _ _ (other symbol) (partly symbol) (.inr here))
            | inr later =>
                obtain ⟨found, member, inside⟩ := later
                cases List.mem_cons.mp member with
                | inl head =>
                    rw [head] at inside
                    exact .inl (or_known _ _ _ (other symbol) (partly symbol) (.inl (own symbol inside)))
                | inr tail => exact .inr ⟨found, tail, inside⟩

theorem merged_quotable (entrywise : Entrywise client table) (batches : List (List String)) (symbols : List String)
    (cut : batches.flatten = symbols) (responses : List PyValue)
    (answered : answers client batches [] = responses.map .ok) :
    quotable (mergedQuotes responses) symbols = quotable (mergedQuotes [.dict table]) symbols := by
  have whole : mergedQuotes [.dict table] = table := List.append_nil table
  rw [whole, quotable, quotable]
  apply List.filterMap_congr
  intro symbol member
  rw [← cut] at member
  obtain ⟨batch, there, inside⟩ := List.mem_flatten.mp member
  have known : entry (mergedQuotes responses) symbol = entry table symbol :=
    merged_table client table entrywise batches [] responses answered [] (fun _ => .inl rfl) symbol
      (.inr ⟨batch, there, inside⟩)
  rw [known]

end Tables

section Reads

variable {ε : Type} (client : QuoteClient ε) (symbols : List String) (batchSize : Int)

theorem get_equity_quotes_run (some_ : symbols ≠ []) (positive : 1 ≤ batchSize) :
    getEquityQuotes client symbols batchSize =
      ((quoteOperation client symbols batchSize.toNat []).1.mapError .client,
        (quoteOperation client symbols batchSize.toNat []).2) := by
  rw [getEquityQuotes, if_neg some_, if_neg (by omega)]

theorem closing_session_raised (calls : List QuoteCall) (error : ε)
    (raised : (closingSession client calls).1 = .error error) :
    ∃ close, client.close = some close ∧ close calls = .error error := by
  rw [closingSession] at raised
  cases present : client.close with
  | none =>
      rw [present] at raised
      cases raised
  | some close =>
      rw [present] at raised
      exact ⟨close, rfl, raised⟩

theorem quote_operation_ended (size : Nat) :
    (quoteOperation client symbols size []).1 =
        (quoteLoop client symbols size (batchStarts symbols.length size) [] []).1 ∨
      ∃ error close calls, (quoteOperation client symbols size []).1 = .error error ∧
        client.close = some close ∧ close calls = .error error := by
  rw [quoteOperation, Attempt.ensuring_result]
  generalize quoteLoop client symbols size (batchStarts symbols.length size) [] [] = looped
  cases closed : (closingSession client looped.2).1 with
  | ok done => exact .inl rfl
  | error error =>
      obtain ⟨close, present, own⟩ := closing_session_raised client looped.2 error closed
      exact .inr ⟨error, close, looped.2, rfl, present, own⟩

theorem quote_operation_returned (size : Nat) (results : Payload)
    (returned : (quoteOperation client symbols size []).1 = .ok results) :
    (quoteLoop client symbols size (batchStarts symbols.length size) [] []).1 = .ok results := by
  cases quote_operation_ended client symbols size with
  | inl same => exact same.symm.trans returned
  | inr raised =>
      obtain ⟨error, _, _, ended, _, _⟩ := raised
      rw [ended] at returned
      cases returned

theorem quote_operation_raised (size : Nat) (error : ε)
    (raised : (quoteOperation client symbols size []).1 = .error error) :
    .error error ∈ answers client (quoteBatches symbols size) [] ∨
      ∃ close calls, client.close = some close ∧ close calls = .error error := by
  cases quote_operation_ended client symbols size with
  | inr closed =>
      obtain ⟨other, close, calls, ended, present, own⟩ := closed
      rw [ended] at raised
      cases raised
      exact .inr ⟨close, calls, present, own⟩
  | inl same =>
      have looped := same.symm.trans raised
      rw [quote_loop_result] at looped
      cases told : (answers client (quoteBatches symbols size) []).mapM id with
      | error other =>
          rw [quoteBatches] at told
          rw [told] at looped
          cases looped
          exact .inl (answers_raised client _ _ _ told)
      | ok responses =>
          rw [quoteBatches] at told
          rw [told] at looped
          cases looped

-- A read of quotes asks for all its symbols in batches, one after the other, up
-- to the first failure, closes the session at the end, and fails with what failed
-- or returns all answers together. Where Schwab answers each symbol on its own,
-- the quotes are those of one answer to all of them.
theorem quotes_in_batches (some_ : symbols ≠ []) (positive : 1 ≤ batchSize) :
    (quoteBatches symbols batchSize.toNat).flatten = symbols ∧
      (∀ batch ∈ quoteBatches symbols batchSize.toNat, batch ≠ [] ∧ batch.length ≤ batchSize.toNat) ∧
      (∃ asked unasked, quoteBatches symbols batchSize.toNat = asked ++ unasked ∧
        (getEquityQuotes client symbols batchSize).2 = asked.map .getQuotes ++ closing client ∧
        ∀ results, (getEquityQuotes client symbols batchSize).1 = .ok results → unasked = []) ∧
      (∀ results, (getEquityQuotes client symbols batchSize).1 = .ok results →
        ∃ responses, answers client (quoteBatches symbols batchSize.toNat) [] = responses.map .ok ∧
          results = mergedQuotes responses ∧
          ∀ table, Entrywise client table → ∀ literals receivedAt staleAfterSeconds,
            getQuotes literals symbols responses receivedAt staleAfterSeconds =
              getQuotes literals symbols [.dict table] receivedAt staleAfterSeconds) ∧
      ∀ error, (getEquityQuotes client symbols batchSize).1 = .error error →
        ∃ raised, error = .client raised ∧
          (.error raised ∈ answers client (quoteBatches symbols batchSize.toNat) [] ∨
            ∃ close calls, client.close = some close ∧ close calls = .error raised) := by
  have size : 0 < batchSize.toNat := by omega
  have cut := quote_batches_flatten symbols batchSize.toNat size
  rw [get_equity_quotes_run client symbols batchSize some_ positive]
  have loops : ∀ results,
      (quoteOperation client symbols batchSize.toNat []).1.mapError QuotesError.client = .ok results →
        (quoteLoop client symbols batchSize.toNat (batchStarts symbols.length batchSize.toNat) [] []).1 =
          .ok results := by
    intro results returned
    cases ended : (quoteOperation client symbols batchSize.toNat []).1 with
    | error error =>
        rw [ended] at returned
        cases returned
    | ok own =>
        rw [ended] at returned
        cases returned
        exact quote_operation_returned client symbols batchSize.toNat results ended
  refine ⟨cut, quote_batches_bounded symbols batchSize.toNat size, ?_, ?_, ?_⟩
  · obtain ⟨asked, unasked, parts, made, all⟩ := quote_loop_calls client symbols batchSize.toNat
      (batchStarts symbols.length batchSize.toNat) [] []
    refine ⟨asked, unasked, parts, ?_, fun results returned => all results (loops results returned)⟩
    rw [quoteOperation, Attempt.ensuring_state, closing_session_calls, made, List.nil_append]
  · intro results returned
    have looped := loops results returned
    rw [quote_loop_result] at looped
    cases told : (answers client (quoteBatches symbols batchSize.toNat) []).mapM id with
    | error error =>
        rw [quoteBatches] at told
        rw [told] at looped
        cases looped
    | ok responses =>
        have answered := answers_returned client _ _ _ told
        rw [quoteBatches] at told
        rw [told] at looped
        cases looped
        refine ⟨responses, answered, rfl, ?_⟩
        intro table entrywise literals receivedAt staleAfterSeconds
        rw [getQuotes, merged_quotable client table entrywise _ symbols cut responses answered, getQuotes]
  · intro error raised
    cases ended : (quoteOperation client symbols batchSize.toNat []).1 with
    | ok own =>
        rw [ended] at raised
        cases raised
    | error own =>
        rw [ended] at raised
        cases raised
        exact ⟨own, rfl, quote_operation_raised client symbols batchSize.toNat own ended⟩

def knownQuote : PyValue := .dict [(.str "quote", .dict [(.str "lastPrice", .int 5)])]

def sampleQuoteTable : Payload := [(.str "AAPL", knownQuote)]

def sampleQuoteClient : QuoteClient String where
  answer calls batch :=
    if calls.length < 2 then .ok (.dict (if "AAPL" ∈ batch then sampleQuoteTable else []))
    else .error "429"
  close := some (fun _ => .ok ())

theorem sample_entrywise : Entrywise sampleQuoteClient sampleQuoteTable := by
  intro calls batch response answered
  dsimp only [sampleQuoteClient] at answered
  by_cases early : calls.length < 2
  · rw [if_pos early] at answered
    cases answered
    by_cases asked : "AAPL" ∈ batch
    · rw [if_pos asked]
      exact ⟨_, rfl, fun symbol _ => rfl, fun symbol => .inr rfl⟩
    · rw [if_neg asked]
      refine ⟨_, rfl, ?_, fun symbol => .inl rfl⟩
      intro symbol inside
      have other : "AAPL" ≠ symbol := fun same => asked (same ▸ inside)
      rw [sampleQuoteTable, entry, entry, if_neg other, entry]
  · rw [if_neg early] at answered
    cases answered

theorem quotes_in_batches_sample :
    (getEquityQuotes sampleQuoteClient ["SPY", "QQQ", "AAPL", "MSFT", "IBM"] 2).2 =
        [.getQuotes ["SPY", "QQQ"], .getQuotes ["AAPL", "MSFT"], .getQuotes ["IBM"], .close] ∧
      (∃ raised, QuotesError.client "429" = .client raised ∧
        (.error raised ∈ answers sampleQuoteClient (quoteBatches ["SPY", "QQQ", "AAPL", "MSFT", "IBM"] 2) [] ∨
          ∃ close calls, sampleQuoteClient.close = some close ∧ close calls = .error raised)) ∧
      ∃ responses, ∀ literals receivedAt staleAfterSeconds,
        getQuotes literals ["SPY", "QQQ", "AAPL"] responses receivedAt staleAfterSeconds =
          getQuotes literals ["SPY", "QQQ", "AAPL"] [.dict sampleQuoteTable] receivedAt staleAfterSeconds := by
  have failed : (getEquityQuotes sampleQuoteClient ["SPY", "QQQ", "AAPL", "MSFT", "IBM"] 2).1 =
      .error (.client "429") := rfl
  have returned : (getEquityQuotes sampleQuoteClient ["SPY", "QQQ", "AAPL"] 2).1 =
      .ok [(.str "AAPL", knownQuote)] := rfl
  have one := quotes_in_batches sampleQuoteClient ["SPY", "QQQ", "AAPL", "MSFT", "IBM"] 2 (by decide) (by decide)
  have two := quotes_in_batches sampleQuoteClient ["SPY", "QQQ", "AAPL"] 2 (by decide) (by decide)
  obtain ⟨responses, _, _, table⟩ := two.2.2.2.1 _ returned
  exact ⟨by decide +kernel, one.2.2.2.2 _ failed, responses, table _ sample_entrywise⟩

end Reads

end SchwabGateway.Provider
