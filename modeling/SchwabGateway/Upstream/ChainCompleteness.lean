import SchwabGateway.Upstream.ChainAgreement

set_option autoImplicit false

namespace SchwabGateway.Upstream

open SchwabGateway.Library SchwabGateway.Python

-- A place of the payload where a contract stands: its side, the text of its
-- strike and the option object.
abbrev Place := OptionType × PyValue × PyValue

def places (payload : Payload) (expirationText : String) : List Place :=
  (foundOptions payload "callExpDateMap" expirationText).map (fun row => (.call, row)) ++
    (foundOptions payload "putExpDateMap" expirationText).map (fun row => (.put, row))

def Place.symbol (place : Place) : PyValue :=
  match place.2.2 with
  | .dict option => PyValue.get option "symbol"
  | _ => .none

variable (literals : Literals)

structure Quoted (option : Payload) (contract : OptionContractV1) : Prop where
  ordered : contract.bid ≤ contract.ask
  pair : ∃ bid ask : ℚ≥0, number literals option "bid" = .ok (some (.finite bid)) ∧
    number literals option "ask" = .ok (some (.finite ask)) ∧
    contract.bid = min bid ask ∧ contract.ask = max bid ask ∧
    ("crossed_market_normalized" ∈ contract.dataQualityFlags ↔ ask < bid)
  mark : number literals option "mark" = .ok (some (.finite contract.mark))

theorem crossed_market_nonnegative (bid ask : ℚ≥0) :
    crossedMarket (some (.finite bid)) (some (.finite ask)) = decide (ask < bid) := by
  have bidAbove : ¬ (bid : ℚ) < 0 := not_lt.mpr bid.coe_nonneg
  have askAbove : ¬ (ask : ℚ) < 0 := not_lt.mpr ask.coe_nonneg
  simp [crossedMarket, PyFloat.isfinite, PyFloat.le, PyFloat.lt, zero, bidAbove, askAbove]

theorem read_quoted (option : Payload) (optionType : OptionType) (expiration : Date) (strike : PyFloat)
    (contract : OptionContractV1) (reads : ReadFrom literals option optionType expiration strike contract) :
    Quoted literals option contract := by
  obtain ⟨bid, ask, bidRead, askRead, swapped, flagged⟩ := reads.prices
  refine ⟨contract.bidAtMostAsk, ?_, reads.mark⟩
  obtain ⟨crossed, askLow, bidHigh⟩ | ⟨crossed, bidLow, askHigh⟩ := swapped
  · subst askLow bidHigh
    rw [crossed_market_nonnegative] at flagged crossed
    exact ⟨contract.ask, contract.bid, bidRead, askRead, (min_eq_right contract.bidAtMostAsk).symm,
      (max_eq_left contract.bidAtMostAsk).symm, by simpa using flagged⟩
  · subst bidLow askHigh
    rw [crossed_market_nonnegative] at flagged crossed
    exact ⟨contract.bid, contract.ask, bidRead, askRead, (min_eq_left contract.bidAtMostAsk).symm,
      (max_eq_right contract.bidAtMostAsk).symm, by simpa using flagged⟩

section Delivery

variable (expiration : Date) (receivedAt : Datetime) (threshold : PyFloat)

structure DeliveredAt (place : Place) (contract : OptionContractV1) : Prop where
  side : contract.optionType = place.1
  struck : toFloat literals place.2.1 = .ok (.finite contract.strike)
  named : place.symbol = .str contract.symbol
  read : ∃ option, place.2.2 = .dict option ∧ Quoted literals option contract ∧
    normalizeContract literals option place.1 expiration (.finite contract.strike) receivedAt threshold =
      .ok contract

theorem contract_delivered (optionType : OptionType) (row : PyValue × PyValue) (contract : OptionContractV1)
    (read : ContractFrom literals expiration receivedAt threshold optionType row contract) :
    DeliveredAt literals expiration receivedAt threshold (optionType, row) contract := by
  obtain ⟨strike, option, struck, object, accepted⟩ := read
  have reads := normalize_contract_reads literals option optionType expiration strike receivedAt threshold
    contract accepted
  obtain rfl := reads.strike
  refine ⟨reads.optionType, struck, ?_, option, object, ?_, accepted⟩
  · rw [Place.symbol]
    simp only [object]
    exact reads.symbol
  · exact read_quoted literals option optionType expiration _ contract reads

theorem side_delivered (optionType : OptionType) (found : List (PyValue × PyValue))
    (contracts : List OptionContractV1)
    (each : List.Forall₂ (ContractFrom literals expiration receivedAt threshold optionType) found contracts) :
    List.Forall₂ (DeliveredAt literals expiration receivedAt threshold)
      (found.map fun row => (optionType, row)) contracts := by
  rw [List.forall₂_map_left_iff]
  exact each.imp (contract_delivered literals expiration receivedAt threshold optionType)

theorem places_delivered (payload : Payload) (contracts : List OptionContractV1)
    (delivered : Delivered literals expiration receivedAt threshold payload contracts) :
    List.Forall₂ (DeliveredAt literals expiration receivedAt threshold)
      (places payload expiration.isoformat) contracts := by
  obtain ⟨_, _, calls, puts, rfl, callEach, putEach⟩ := delivered
  exact List.rel_append (side_delivered literals expiration receivedAt threshold .call _ calls callEach)
    (side_delivered literals expiration receivedAt threshold .put _ puts putEach)

theorem delivered_symbols (found : List Place) (contracts : List OptionContractV1)
    (each : List.Forall₂ (DeliveredAt literals expiration receivedAt threshold) found contracts) :
    found.map Place.symbol = contracts.map fun contract => .str contract.symbol := by
  induction each with
  | nil => rfl
  | cons here _ ih => rw [List.map_cons, List.map_cons, here.named, ih]

theorem delivered_side (optionType : OptionType) (found : List Place) (contracts : List OptionContractV1)
    (each : List.Forall₂ (DeliveredAt literals expiration receivedAt threshold) found contracts) :
    countOf optionType contracts = found.countP (fun place => place.1 = optionType) := by
  unfold countOf
  induction each with
  | nil => rfl
  | cons here _ ih => rw [List.countP_cons, List.countP_cons, here.side, ih]

inductive Refused (found : List Place) : Prop where
  | oversize (more : maxOptionChainContracts < found.length)
  | oneSided (side : OptionType) (absent : ∀ place ∈ found, place.1 ≠ side)
  | duplicate (twice : ¬ (found.map Place.symbol).Nodup)

theorem refused_not_complete (found : List Place) (contracts : List OptionContractV1)
    (calls puts strikes : Nat) (complete : Complete contracts calls puts strikes)
    (each : List.Forall₂ (DeliveredAt literals expiration receivedAt threshold) found contracts) :
    ¬ Refused found := by
  intro refused
  cases refused with
  | oversize more =>
      rw [each.length_eq] at more
      exact absurd complete.bounded (Nat.not_le.mpr more)
  | oneSided side absent =>
      have none_ : countOf side contracts = 0 := by
        rw [delivered_side literals expiration receivedAt threshold side found contracts each,
          List.countP_eq_zero]
        intro place member
        exact fun same => absent place member (of_decide_eq_true same)
      obtain ⟨hasCalls, hasPuts⟩ := complete.bothSides
      cases side with
      | call => omega
      | put => omega
  | duplicate twice =>
      apply twice
      rw [delivered_symbols literals expiration receivedAt threshold found contracts each]
      have named := complete.unique.map (fun _ _ same => PyValue.str.inj same : Function.Injective PyValue.str)
      rwa [List.map_map] at named

theorem accepted_chain_delivers (symbol : String) (payload : PyValue) (chain : OptionChainV1)
    (accepted : normalizeOptionChain literals expiration receivedAt threshold symbol payload = .ok chain) :
    ∃ entries, payload = .dict entries ∧
      List.Forall₂ (DeliveredAt literals expiration receivedAt threshold)
        (places entries expiration.isoformat) chain.contracts := by
  obtain ⟨entries, fields, calls, contracts, rfl, _, called, put, valid⟩ :=
    normalize_option_chain_ok literals expiration receivedAt threshold symbol payload chain accepted
  obtain ⟨price, _, complete, rfl⟩ := chain_validated_ok _ _ chain valid
  have delivered := delivered_contracts literals expiration receivedAt threshold entries calls contracts
    called put
  exact ⟨entries, rfl, places_delivered literals expiration receivedAt threshold entries contracts delivered⟩

-- A chain is the whole payload or nothing: what is returned has one contract
-- for each place, and a payload that is too large, has one side only or names
-- two contracts alike is refused.
theorem chain_complete_or_refused (symbol : String) (payload : PyValue) :
    (∀ chain, normalizeOptionChain literals expiration receivedAt threshold symbol payload = .ok chain →
      Complete chain.contracts chain.callContractCount chain.putContractCount chain.strikeCount ∧
      ∃ entries, payload = .dict entries ∧
        List.Forall₂ (DeliveredAt literals expiration receivedAt threshold)
          (places entries expiration.isoformat) chain.contracts) ∧
    (∀ entries, payload = .dict entries → Refused (places entries expiration.isoformat) →
      ∃ error, normalizeOptionChain literals expiration receivedAt threshold symbol payload =
        .error error) := by
  constructor
  · intro chain accepted
    exact ⟨chain.complete,
      accepted_chain_delivers literals expiration receivedAt threshold symbol payload chain accepted⟩
  · rintro entries rfl refused
    cases outcome : normalizeOptionChain literals expiration receivedAt threshold symbol (.dict entries) with
    | error error => exact ⟨error, rfl⟩
    | ok chain =>
        obtain ⟨found, same, each⟩ :=
          accepted_chain_delivers literals expiration receivedAt threshold symbol _ chain outcome
        cases same
        exact absurd refused (refused_not_complete literals expiration receivedAt threshold _ _ _ _ _
          chain.complete each)

end Delivery

def callsOnly : Payload :=
  [(.str "callExpDateMap", sampleSide "AAPL  260821C00100000" 1786543200000)]

theorem chain_complete_or_refused_sample :
    (∃ chain, sampleChain 1786543200000000 = .ok chain ∧
      chain.contracts.map (fun contract => contract.optionType) = [.call, .put] ∧
      Complete chain.contracts chain.callContractCount chain.putContractCount chain.strikeCount) ∧
    ∃ error, normalizeOptionChain sampleLiterals (Date.ofCivil 2026 8 21) 1786543200000000 (.finite 300)
      "AAPL" (.dict callsOnly) = .error error := by
  constructor
  · obtain ⟨chain, accepted, sides⟩ := ok_of_part (sampleChain 1786543200000000)
      (fun chain => chain.contracts.map fun contract => contract.optionType) [.call, .put] (by decide +kernel)
    exact ⟨chain, accepted, sides, ((chain_complete_or_refused sampleLiterals (Date.ofCivil 2026 8 21)
      1786543200000000 (.finite 300) "AAPL" samplePayload).1 chain accepted).1⟩
  · apply (chain_complete_or_refused sampleLiterals (Date.ofCivil 2026 8 21) 1786543200000000 (.finite 300)
      "AAPL" (.dict callsOnly)).2 callsOnly rfl
    exact .oneSided .put (by decide +kernel)

end SchwabGateway.Upstream
