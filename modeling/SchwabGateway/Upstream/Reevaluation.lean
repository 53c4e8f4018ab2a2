import SchwabGateway.Upstream.OptionChain
import SchwabGateway.Upstream.SessionHistory

set_option autoImplicit false

namespace SchwabGateway.Upstream

open SchwabGateway.Library SchwabGateway.Python

def refreshedAll (contracts : List OptionContractV1) (evaluatedAt : Datetime) (threshold : PyFloat) :
    List OptionContractV1 :=
  contracts.map fun contract => contract.refreshed evaluatedAt threshold

section Refreshed

variable (contracts : List OptionContractV1) (evaluatedAt : Datetime) (threshold : PyFloat)

theorem count_of_refreshed (optionType : OptionType) :
    countOf optionType (refreshedAll contracts evaluatedAt threshold) = countOf optionType contracts := by
  rw [countOf, refreshedAll, List.countP_map]
  rfl

theorem strike_count_refreshed :
    strikeCount (refreshedAll contracts evaluatedAt threshold) = strikeCount contracts := by
  rw [strikeCount, refreshedAll, List.map_map]
  rfl

theorem timestamps_refreshed :
    timestamps (refreshedAll contracts evaluatedAt threshold) = timestamps contracts := by
  rw [timestamps, refreshedAll, List.filterMap_map]
  rfl

theorem complete_refreshed (calls puts strikes : Nat) (complete : Complete contracts calls puts strikes) :
    Complete (refreshedAll contracts evaluatedAt threshold) calls puts strikes := by
  have symbols : (refreshedAll contracts evaluatedAt threshold).map (fun contract => contract.symbol) =
      contracts.map fun contract => contract.symbol := by
    rw [refreshedAll, List.map_map]
    rfl
  refine ⟨?_, ?_, ?_, ?_, ?_, ?_, ?_⟩
  · exact fun none_ => complete.nonempty (List.map_eq_nil_iff.mp none_)
  · rw [refreshedAll, List.length_map]
    exact complete.bounded
  · rw [count_of_refreshed, count_of_refreshed]
    exact complete.bothSides
  · rw [count_of_refreshed]
    exact complete.callsCounted
  · rw [count_of_refreshed]
    exact complete.putsCounted
  · rw [strike_count_refreshed]
    exact complete.strikesCounted
  · rw [symbols]
    exact complete.unique

end Refreshed

def aggregateFlags : List String := ["stale", "stale_contracts_present"]

def OptionChainV1.reevaluated (chain : OptionChainV1) (evaluatedAt : Datetime) (threshold : PyFloat) :
    OptionChainV1 :=
  let contracts := refreshedAll chain.contracts evaluatedAt threshold
  { chain with
    contracts := contracts
    ageSeconds := ageSeconds chain.eventTimestamp evaluatedAt
    stale := allStale contracts
    dataQualityFlags :=
      chain.dataQualityFlags.filter (fun flag => !aggregateFlags.contains flag) ++ staleFlags contracts
    complete := complete_refreshed chain.contracts evaluatedAt threshold _ _ _ chain.complete }

section Agreement

variable (literals : Literals) (expiration : Date) (first second : Datetime) (threshold : PyFloat)

theorem append_contracts_refreshed (optionType : OptionType) (yields : List Yield)
    (contracts : List OptionContractV1) :
    appendContracts literals expiration second threshold optionType yields
        (refreshedAll contracts second threshold) =
      (fun all => refreshedAll all second threshold) <$>
        appendContracts literals expiration first threshold optionType yields contracts := by
  induction yields generalizing contracts with
  | nil => rfl
  | cons next rest ih =>
      rw [appendContracts, appendContracts, map_bind]
      apply bind_congr
      rintro ⟨strike, option⟩
      dsimp only
      have same : (refreshedAll contracts second threshold).length = contracts.length := by
        rw [refreshedAll, List.length_map]
      by_cases full : maxOptionChainContracts ≤ contracts.length
      · rw [if_pos full, if_pos (same ▸ full)]
        rfl
      · rw [if_neg full, if_neg (same ▸ full)]
        have appended : ∀ contract, refreshedAll contracts second threshold ++ [contract.refreshed second threshold] =
            refreshedAll (contracts ++ [contract]) second threshold := by
          intro contract
          rw [refreshedAll, refreshedAll, List.map_append]
          rfl
        rw [normalize_contract_refreshed literals option optionType expiration strike first second threshold,
          map_bind, bind_map_left]
        apply bind_congr
        intro contract
        rw [appended]
        exact ih (contracts ++ [contract])

theorem chain_flags_refreshed (fields : ChainMetadataFields) (contracts : List OptionContractV1) :
    chainFlags fields (refreshedAll contracts second threshold) = chainFlags fields contracts := by
  have crossed : ((refreshedAll contracts second threshold).any fun contract =>
      contract.dataQualityFlags.contains "crossed_market_normalized") =
        contracts.any fun contract => contract.dataQualityFlags.contains "crossed_market_normalized" := by
    rw [refreshedAll, List.any_map]
    congr 1
    funext contract
    simp [OptionContractV1.refreshed, Freshness.refreshed, mem_flag_if]
  have empty : (refreshedAll contracts second threshold).isEmpty = contracts.isEmpty := by
    rw [refreshedAll, List.isEmpty_map]
  have same : (refreshedAll contracts second threshold).length = contracts.length := by
    rw [refreshedAll, List.length_map]
  simp only [chainFlags, crossed, empty, same, timestamps_refreshed]

theorem chain_flags_not_aggregate (payload : PyValue) (fields : ChainMetadataFields)
    (contracts : List OptionContractV1) (extracted : extractChainMetadata literals payload expiration = .ok fields)
    (flag : String) (member : flag ∈ chainFlags fields contracts) : flag ∉ aggregateFlags := by
  simp only [chainFlags, List.mem_append, List.mem_filter, mem_flag_if] at member
  obtain (⟨inside, _⟩ | ⟨_, same⟩) | ⟨_, same⟩ := member
  · have named := extracted_flags_mem literals payload expiration fields extracted flag inside
    obtain same | same | same | same := named
    · simp [same, aggregateFlags]
    · simp [same, aggregateFlags]
    · simp [same, aggregateFlags]
    · simp [same, aggregateFlags]
  · simp [same, aggregateFlags]
  · simp [same, aggregateFlags]

theorem stale_flags_aggregate (contracts : List OptionContractV1) (flag : String)
    (member : flag ∈ staleFlags contracts) : flag ∈ aggregateFlags := by
  simp only [staleFlags, List.mem_append, mem_flag_if] at member
  obtain ⟨_, same⟩ | ⟨_, same⟩ := member
  · simp [same, aggregateFlags]
  · simp [same, aggregateFlags]

theorem filter_aggregate (payload : PyValue) (fields : ChainMetadataFields)
    (contracts : List OptionContractV1)
    (extracted : extractChainMetadata literals payload expiration = .ok fields) :
    (chainFlags fields contracts ++ staleFlags contracts).filter (fun flag => !aggregateFlags.contains flag) =
      chainFlags fields contracts := by
  have kept : (chainFlags fields contracts).filter (fun flag => !aggregateFlags.contains flag) =
      chainFlags fields contracts := by
    apply List.filter_eq_self.mpr
    intro flag member
    have other := chain_flags_not_aggregate literals expiration payload fields contracts extracted flag member
    simpa using other
  have lost : (staleFlags contracts).filter (fun flag => !aggregateFlags.contains flag) = [] := by
    apply List.filter_eq_nil_iff.mpr
    intro flag member
    have inside := stale_flags_aggregate contracts flag member
    simpa using inside
  rw [List.filter_append, kept, lost, List.append_nil]

theorem normalize_option_chain_ok (symbol : String) (payload : PyValue) (chain : OptionChainV1)
    (accepted : normalizeOptionChain literals expiration first threshold symbol payload = .ok chain) :
    ∃ entries fields calls contracts, payload = .dict entries ∧
      extractChainMetadata literals payload expiration = .ok fields ∧
      appendContracts literals expiration first threshold .call
        (expirationOptions literals entries "callExpDateMap" expiration.isoformat) [] = .ok calls ∧
      appendContracts literals expiration first threshold .put
        (expirationOptions literals entries "putExpDateMap" expiration.isoformat) calls = .ok contracts ∧
      OptionChainV1.validated (chainArguments expiration first symbol fields contracts)
        (chainFreshness first fields contracts) = .ok chain := by
  unfold normalizeOptionChain at accepted
  obtain ⟨fields, extracted, accepted⟩ := (bind_ok_iff _ _ _).mp accepted
  split at accepted
  · obtain ⟨calls, called, accepted⟩ := (bind_ok_iff _ _ _).mp accepted
    obtain ⟨contracts, put, accepted⟩ := (bind_ok_iff _ _ _).mp accepted
    exact ⟨_, fields, calls, contracts, rfl, extracted, called, put, accepted⟩
  · cases accepted

theorem appended_later (optionType : OptionType) (yields : List Yield)
    (before contracts : List OptionContractV1)
    (appended : appendContracts literals expiration first threshold optionType yields before = .ok contracts) :
    appendContracts literals expiration second threshold optionType yields
        (refreshedAll before second threshold) = .ok (refreshedAll contracts second threshold) := by
  rw [append_contracts_refreshed literals expiration first second, appended]
  rfl

theorem option_chain_reevaluated (symbol : String) (payload : PyValue) (chain : OptionChainV1)
    (accepted : normalizeOptionChain literals expiration first threshold symbol payload = .ok chain) :
    chain.gatewayReceivedAt = first ∧
      ∃ fresh, normalizeOptionChain literals expiration second threshold symbol payload = .ok fresh ∧
        chain.reevaluated second threshold = { fresh with gatewayReceivedAt := first } := by
  obtain ⟨entries, fields, calls, contracts, rfl, extracted, called, put, valid⟩ :=
    normalize_option_chain_ok literals expiration first threshold symbol payload chain accepted
  obtain ⟨price, priced, complete, rfl⟩ := chain_validated_ok _ _ chain valid
  have calledLater := appended_later literals expiration first second threshold .call _ _ calls called
  have putLater := appended_later literals expiration first second threshold .put _ _ contracts put
  have whole := complete_refreshed contracts second threshold _ _ _ complete
  have completeLater : (chainArguments expiration second symbol fields
      (refreshedAll contracts second threshold)).Complete :=
    ⟨whole.nonempty, whole.bounded, whole.bothSides, rfl, rfl, rfl, whole.unique⟩
  have validLater := chain_validated_complete
    (chainArguments expiration second symbol fields (refreshedAll contracts second threshold))
    (chainFreshness second fields (refreshedAll contracts second threshold)) price priced completeLater
  refine ⟨rfl, .build (chainArguments expiration second symbol fields (refreshedAll contracts second threshold))
    (chainFreshness second fields (refreshedAll contracts second threshold)) price completeLater, ?_, ?_⟩
  · unfold normalizeOptionChain
    rw [extracted]
    dsimp only [bind, Except.bind]
    rw [show ([] : List OptionContractV1) = refreshedAll [] second threshold from rfl, calledLater]
    dsimp only
    rw [putLater]
    exact validLater
  · have flags := filter_aggregate literals expiration (.dict entries) fields contracts extracted
    simp only [OptionChainV1.reevaluated, OptionChainV1.build, chainArguments, chainFreshness, flags,
      chain_flags_refreshed, timestamps_refreshed, count_of_refreshed, strike_count_refreshed]

end Agreement

section Staleness

variable (threshold : PyFloat)

structure Truthful (model : Freshness) : Prop where
  flagged : "stale" ∈ model.dataQualityFlags ↔ model.stale = true
  aged : model.stale = tooOld threshold model.ageSeconds

theorem evaluated_truthful (event : Option Datetime) (flags : List String) (at_ : Datetime)
    (absent : "stale" ∉ flags) : Truthful threshold (.evaluated event flags at_ threshold) where
  flagged := evaluated_stale_flag event flags at_ threshold absent
  aged := rfl

def ReadAt (at_ : Datetime) (contract : OptionContractV1) : Prop :=
  ∃ event flags, "stale" ∉ flags ∧ contract.toFreshness = .evaluated event flags at_ threshold

theorem appended_read_at (literals : Literals) (expiration : Date) (receivedAt : Datetime)
    (optionType : OptionType) (yields : List Yield) (before contracts : List OptionContractV1)
    (appended : appendContracts literals expiration receivedAt threshold optionType yields before = .ok contracts)
    (earlier : ∀ contract ∈ before, ReadAt threshold receivedAt contract) :
    ∀ contract ∈ contracts, ReadAt threshold receivedAt contract := by
  induction yields generalizing before with
  | nil =>
      cases appended
      exact earlier
  | cons next rest ih =>
      rw [appendContracts] at appended
      obtain ⟨⟨strike, option⟩, _, appended⟩ := (bind_ok_iff _ _ _).mp appended
      dsimp only at appended
      split at appended
      · cases appended
      · obtain ⟨contract, read, appended⟩ := (bind_ok_iff _ _ _).mp appended
        apply ih _ appended
        intro other member
        cases List.mem_append.mp member with
        | inl old => exact earlier other old
        | inr new =>
            rw [List.mem_singleton.mp new]
            exact normalize_contract_freshness literals option optionType expiration strike receivedAt
              threshold contract read

theorem too_old_mono (young old : ℚ≥0) (longer : young ≤ old)
    (stale : tooOld threshold (some young) = true) : tooOld threshold (some old) = true := by
  cases threshold with
  | finite limit =>
      simp only [tooOld, PyFloat.lt, decide_eq_true_eq] at stale ⊢
      exact lt_of_lt_of_le stale (by exact_mod_cast longer)
  | negInfinity => rfl
  | infinity => cases stale
  | nan => cases stale

theorem age_antitone (earlier later at_ : Datetime) (ordered : earlier ≤ later) :
    (totalSeconds (at_ - later)).toNNRat ≤ (totalSeconds (at_ - earlier)).toNNRat := by
  have shorter : (at_ - later : Int) ≤ at_ - earlier := Int.sub_le_sub_left ordered at_
  rcases le_total 0 (at_ - later : Int) with past | future
  · exact NNRat.toNNRat_mono (total_seconds_mono _ _ past shorter)
  · rw [Rat.toNNRat_of_nonpos (total_seconds_nonpos _ future)]
    exact zero_le

theorem all_stale_aged (contracts : List OptionContractV1) (at_ : Datetime) (nonempty : contracts ≠ [])
    (read : ∀ contract ∈ contracts, ReadAt threshold at_ contract) :
    allStale contracts = tooOld threshold (ageSeconds (timestamps contracts).max? at_) := by
  have each : ∀ contract ∈ contracts,
      contract.stale = tooOld threshold (ageSeconds contract.eventTimestamp at_) := by
    intro contract member
    obtain ⟨event, flags, _, same⟩ := read contract member
    rw [same]
    rfl
  have every : allStale contracts = true ↔ ∀ contract ∈ contracts, contract.stale = true := by
    simp only [allStale, staleCount, Bool.or_eq_true, List.isEmpty_iff, nonempty, false_or,
      decide_eq_true_eq, List.countP_eq_length]
  rw [Bool.eq_iff_iff, every]
  cases newest : (timestamps contracts).max? with
  | none =>
      have silent := List.max?_eq_none_iff.mp newest
      refine ⟨fun _ => rfl, fun _ contract member => ?_⟩
      rw [each contract member]
      cases event : contract.eventTimestamp with
      | none => rfl
      | some time =>
          have inside : time ∈ timestamps contracts := List.mem_filterMap.mpr ⟨contract, member, event⟩
          rw [silent] at inside
          cases inside
  | some time =>
      obtain ⟨inside, last⟩ := List.max?_eq_some_iff.mp newest
      constructor
      · intro stale
        obtain ⟨contract, member, event⟩ := List.mem_filterMap.mp inside
        have old := stale contract member
        rw [each contract member, event] at old
        exact old
      · intro old contract member
        rw [each contract member]
        cases event : contract.eventTimestamp with
        | none => rfl
        | some other =>
            have before := last other (List.mem_filterMap.mpr ⟨contract, member, event⟩)
            exact too_old_mono threshold _ _ (age_antitone other time at_ before) old

structure ChainTruthful (chain : OptionChainV1) : Prop where
  whole : Truthful threshold chain.toFreshness
  each : ∀ contract ∈ chain.contracts, Truthful threshold contract.toFreshness

theorem option_chain_truthful (literals : Literals) (expiration : Date) (receivedAt : Datetime)
    (symbol : String) (payload : PyValue) (chain : OptionChainV1)
    (accepted : normalizeOptionChain literals expiration receivedAt threshold symbol payload = .ok chain) :
    ChainTruthful threshold chain := by
  obtain ⟨entries, fields, calls, contracts, rfl, extracted, called, put, valid⟩ :=
    normalize_option_chain_ok literals expiration receivedAt threshold symbol payload chain accepted
  obtain ⟨price, _, complete, rfl⟩ := chain_validated_ok _ _ chain valid
  have noneRead : ∀ contract ∈ ([] : List OptionContractV1), ReadAt threshold receivedAt contract := by
    simp
  have callsRead := appended_read_at threshold literals expiration receivedAt .call _ _ _ called noneRead
  have read := appended_read_at threshold literals expiration receivedAt .put _ _ _ put callsRead
  refine ⟨⟨?_, ?_⟩, ?_⟩
  · have others : "stale" ∉ chainFlags fields contracts := by
      intro member
      have outside := chain_flags_not_aggregate literals expiration _ fields contracts extracted _ member
      simp [aggregateFlags] at outside
    simp only [OptionChainV1.build, chainFreshness, staleFlags, List.mem_append, others, mem_flag_if,
      false_or, String.reduceEq, and_false, and_true]
  · exact all_stale_aged threshold contracts receivedAt complete.nonempty read
  · intro contract member
    obtain ⟨event, flags, absent, same⟩ := read contract member
    rw [same]
    exact evaluated_truthful threshold event flags receivedAt absent

end Staleness

section SessionHistory

variable (literals : Literals) (eastern : Zone) (first second : Datetime) (threshold : PyFloat)

theorem session_history_refreshed (symbol : String) (date : Date) (session : Session) (candles : PyValue)
    (history : SessionHistoryV1)
    (accepted : normalizeSessionHistory literals eastern symbol date session candles first threshold =
      .ok history) :
    Truthful threshold history.toFreshness ∧
      ∃ fresh, normalizeSessionHistory literals eastern symbol date session candles second threshold =
          .ok fresh ∧
        history.refreshed second threshold = { fresh with gatewayReceivedAt := first } := by
  obtain ⟨items, bars, dropped, rfl, collected, rfl⟩ :=
    normalize_session_history_ok literals eastern symbol date session candles first threshold history accepted
  have absent := session_flags_not_stale date bars dropped
  refine ⟨evaluated_truthful threshold _ _ first absent,
    sessionHistory symbol date session bars dropped second threshold, ?_, ?_⟩
  · unfold normalizeSessionHistory
    dsimp only
    rw [collected]
    rfl
  · simp only [SessionHistoryV1.refreshed, sessionHistory,
      evaluated_refreshed _ _ first second threshold absent]

end SessionHistory

-- A cached chain or session read again at a later moment is what the payload
-- would have been normalized to at that moment, and says truly how old it is.
theorem cache_hit_renormalizes (literals : Literals) (eastern : Zone) (t0 t1 : Datetime)
    (threshold : PyFloat) :
    (∀ symbol payload expiration chain,
      normalizeOptionChain literals expiration t0 threshold symbol payload = .ok chain →
      ChainTruthful threshold chain ∧ ChainTruthful threshold (chain.reevaluated t1 threshold) ∧
        ∃ fresh, normalizeOptionChain literals expiration t1 threshold symbol payload = .ok fresh ∧
          chain.reevaluated t1 threshold = { fresh with gatewayReceivedAt := t0 }) ∧
    (∀ symbol date session candles history,
      normalizeSessionHistory literals eastern symbol date session candles t0 threshold = .ok history →
      Truthful threshold history.toFreshness ∧
        Truthful threshold (history.refreshed t1 threshold).toFreshness ∧
        ∃ fresh, normalizeSessionHistory literals eastern symbol date session candles t1 threshold =
            .ok fresh ∧
          history.refreshed t1 threshold = { fresh with gatewayReceivedAt := t0 }) := by
  constructor
  · intro symbol payload expiration chain accepted
    obtain ⟨_, fresh, later, same⟩ :=
      option_chain_reevaluated literals expiration t0 t1 threshold symbol payload chain accepted
    have freshTruth := option_chain_truthful threshold literals expiration t1 symbol payload fresh later
    refine ⟨option_chain_truthful threshold literals expiration t0 symbol payload chain accepted, ?_,
      fresh, later, same⟩
    rw [same]
    exact ⟨freshTruth.whole, freshTruth.each⟩
  · intro symbol date session candles history accepted
    obtain ⟨truth, fresh, later, same⟩ :=
      session_history_refreshed literals eastern t0 t1 threshold symbol date session candles history accepted
    obtain ⟨freshTruth, _⟩ :=
      session_history_refreshed literals eastern t1 t1 threshold symbol date session candles fresh later
    refine ⟨truth, ?_, fresh, later, same⟩
    rw [same]
    exact freshTruth

def sampleLiterals : Literals where
  float text := if text = "100.0" then some (.finite 100) else none
  int _ := none

def sampleOption (symbol : String) (quoteTime : Int) : PyValue :=
  .dict [(.str "symbol", .str symbol), (.str "bid", .float (.finite 1)), (.str "ask", .float (.finite 2)),
    (.str "mark", .float (.finite (3 / 2))), (.str "quoteTime", .int quoteTime)]

def sampleSide (symbol : String) (quoteTime : Int) : PyValue :=
  .dict [(.str "2026-08-21:9", .dict [(.str "100.0", .list [sampleOption symbol quoteTime])])]

def samplePayload : PyValue :=
  .dict [(.str "underlyingPrice", .float (.finite 100)),
    (.str "callExpDateMap", sampleSide "AAPL  260821C00100000" 1786543200000),
    (.str "putExpDateMap", sampleSide "AAPL  260821P00100000" 1786543100000)]

def sampleChain (at_ : Datetime) : Result OptionChainV1 :=
  normalizeOptionChain sampleLiterals (Date.ofCivil 2026 8 21) at_ (.finite 300) "AAPL" samplePayload

def sampleRead (at_ : Datetime) : Result SessionHistoryV1 :=
  normalizeSessionHistory noLiterals summer "AAPL" (Date.ofCivil 2026 8 12) .regular
    (.list [sampleCandle (.finite 11)]) at_ (.finite 300)

-- The put and the bar cross the threshold between the two moments, the call
-- does not.
theorem cache_hit_renormalizes_sample :
    (∃ chain fresh, sampleChain 1786543200000000 = .ok chain ∧ chain.dataQualityFlags = [] ∧
      sampleChain 1786543450000000 = .ok fresh ∧ fresh.dataQualityFlags = ["stale_contracts_present"] ∧
      chain.reevaluated 1786543450000000 (.finite 300) =
        { fresh with gatewayReceivedAt := 1786543200000000 }) ∧
    (∃ history fresh, sampleRead 1786543200000000 = .ok history ∧ history.dataQualityFlags = [] ∧
      sampleRead 1786543550000000 = .ok fresh ∧ fresh.dataQualityFlags = ["stale"] ∧
      history.refreshed 1786543550000000 (.finite 300) =
        { fresh with gatewayReceivedAt := 1786543200000000 }) := by
  constructor
  · obtain ⟨chain, accepted, flags⟩ := ok_of_part (sampleChain 1786543200000000)
      (fun chain => chain.dataQualityFlags) [] (by decide +kernel)
    obtain ⟨fresh, later, flagsLater⟩ := ok_of_part (sampleChain 1786543450000000)
      (fun chain => chain.dataQualityFlags) ["stale_contracts_present"] (by decide +kernel)
    obtain ⟨_, _, other, again, same⟩ := (cache_hit_renormalizes sampleLiterals summer 1786543200000000
      1786543450000000 (.finite 300)).1 "AAPL" samplePayload (Date.ofCivil 2026 8 21) chain accepted
    cases later.symm.trans again
    exact ⟨chain, fresh, accepted, flags, later, flagsLater, same⟩
  · obtain ⟨history, accepted, flags⟩ := ok_of_part (sampleRead 1786543200000000)
      (fun history => history.dataQualityFlags) [] (by decide +kernel)
    obtain ⟨fresh, later, flagsLater⟩ := ok_of_part (sampleRead 1786543550000000)
      (fun history => history.dataQualityFlags) ["stale"] (by decide +kernel)
    obtain ⟨_, _, other, again, same⟩ := (cache_hit_renormalizes noLiterals summer 1786543200000000
      1786543550000000 (.finite 300)).2 "AAPL" (Date.ofCivil 2026 8 12) .regular
      (.list [sampleCandle (.finite 11)]) history accepted
    cases later.symm.trans again
    exact ⟨history, fresh, accepted, flags, later, flagsLater, same⟩

end SchwabGateway.Upstream
