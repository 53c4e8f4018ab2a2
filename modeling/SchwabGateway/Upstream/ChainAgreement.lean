import Mathlib.Data.List.Perm.Basic
import SchwabGateway.Upstream.ChainOptions
import SchwabGateway.Upstream.Reevaluation

set_option autoImplicit false

namespace SchwabGateway.Upstream

open SchwabGateway.Library SchwabGateway.Python

variable (literals : Literals)

structure Counted (result : Nat × List PyFloat) (found : List (PyValue × PyValue)) : Prop where
  contracts : result.1 = found.length
  strikes : ∀ strike, strike ∈ result.2 ↔ ∃ row ∈ found, toFloat literals row.1 = .ok strike

theorem counted_none : Counted literals (0, []) [] := ⟨rfl, by simp⟩

theorem counted_append (first second : Nat × List PyFloat) (here later : List (PyValue × PyValue))
    (one : Counted literals first here) (two : Counted literals second later) :
    Counted literals (first.1 + second.1, first.2 ++ second.2) (here ++ later) where
  contracts := by rw [one.contracts, two.contracts, List.length_append]
  strikes := by
    intro strike
    rw [List.mem_append, one.strikes, two.strikes]
    constructor
    · rintro (⟨row, member, read⟩ | ⟨row, member, read⟩)
      · exact ⟨row, List.mem_append_left _ member, read⟩
      · exact ⟨row, List.mem_append_right _ member, read⟩
    · rintro ⟨row, member, read⟩
      rcases List.mem_append.mp member with left | right
      · exact .inl ⟨row, left, read⟩
      · exact .inr ⟨row, right, read⟩

theorem count_strike_found (strikeText options : PyValue)
    (all : AllYielded (yieldStrike literals strikeText options)) :
    (countStrike literals strikeText options = .ok none ∧ strikeOptions strikeText options = []) ∨
      ∃ strike count, countStrike literals strikeText options = .ok (some (strike, count)) ∧
        Counted literals (count, [strike]) (strikeOptions strikeText options) := by
  obtain ⟨⟨strike, items, read, rfl⟩, _⟩ := yield_strike_found literals strikeText options all
  simp only [countStrike, read, optional, bind, Except.bind]
  cases items with
  | nil => exact .inl ⟨rfl, rfl⟩
  | cons option rest =>
      refine .inr ⟨strike, (option :: rest).length, rfl, ?_, ?_⟩
      · simp [strikeOptions]
      · intro other
        rw [List.mem_singleton]
        constructor
        · rintro rfl
          exact ⟨(strikeText, option), List.mem_cons_self .., read⟩
        · rintro ⟨row, member, same⟩
          obtain ⟨item, _, rfl⟩ := List.mem_map.mp member
          exact Except.ok.inj (same.symm.trans read)

theorem count_strikes_found (strikes : Payload)
    (all : AllYielded (strikes.flatMap fun row => yieldStrike literals row.1 row.2)) :
    ∃ result, countStrikes literals strikes = .ok result ∧
      Counted literals result (strikes.flatMap fun row => strikeOptions row.1 row.2) := by
  induction strikes with
  | nil => exact ⟨(0, []), rfl, counted_none literals⟩
  | cons row rest ih =>
      obtain ⟨strikeText, options⟩ := row
      have here := all_yielded_flat_map _ _ all (strikeText, options) (List.mem_cons_self ..)
      obtain ⟨⟨contracts, strikes⟩, later, counted⟩ := ih (fun next member =>
        all next (List.mem_append_right _ member))
      rw [countStrikes, List.flatMap_cons]
      rcases count_strike_found literals strikeText options here with
        ⟨first, none_⟩ | ⟨strike, count, first, one⟩
      · rw [first, later, none_]
        exact ⟨(contracts, strikes), rfl, counted⟩
      · rw [first, later]
        exact ⟨(count + contracts, strike :: strikes), rfl,
          counted_append literals (count, [strike]) (contracts, strikes) _ _ one counted⟩

theorem count_expirations_found (expirationText : String) (expirations : Payload)
    (all : AllYielded (expirations.flatMap fun row =>
      yieldExpiration literals expirationText row.1 row.2)) :
    ∃ result, countExpirations literals expirationText expirations = .ok result ∧
      Counted literals result (expirations.flatMap fun row => datedOptions expirationText row.1 row.2) := by
  induction expirations with
  | nil => exact ⟨(0, []), rfl, counted_none literals⟩
  | cons row rest ih =>
      obtain ⟨key, strikeMap⟩ := row
      have here := all_yielded_flat_map _ _ all (key, strikeMap) (List.mem_cons_self ..)
      obtain ⟨⟨contracts, strikes⟩, later, counted⟩ := ih (fun next member =>
        all next (List.mem_append_right _ member))
      rw [List.flatMap_cons]
      dsimp only [yieldExpiration] at here
      split at here
      · rename_i text
        by_cases dated : mentions text expirationText = true
        · rw [if_pos dated] at here
          split at here
          · rename_i strikeRows
            obtain ⟨first, firstCount, one⟩ := count_strikes_found literals strikeRows here
            rw [countExpirations, if_pos dated, firstCount, later]
            refine ⟨(first.1 + contracts, first.2 ++ strikes), rfl, ?_⟩
            rw [datedOptions, if_pos dated]
            exact counted_append literals first (contracts, strikes) _ _ one counted
          · exact absurd (here _ (List.mem_singleton.mpr rfl)) (by simp)
        · cases strikeMap with
          | dict strikeRows =>
              rw [countExpirations, if_neg dated, later, datedOptions, if_neg dated]
              exact ⟨(0 + contracts, [] ++ strikes), rfl, by rw [Nat.zero_add]; exact counted⟩
          | _ =>
              rw [countExpirations, later]
              · exact ⟨(contracts, strikes), rfl, counted⟩
              · simp
      · exact absurd (here _ (List.mem_singleton.mpr rfl)) (by simp)

theorem count_expiration_found (payload : Payload) (mapKey : String) (expiration : Date)
    (result : Nat × List PyFloat)
    (all : AllYielded (expirationOptions literals payload mapKey expiration.isoformat))
    (count : countExpiration literals (PyValue.get payload mapKey) expiration = .ok result) :
    Counted literals result (foundOptions payload mapKey expiration.isoformat) := by
  unfold countExpiration at count
  unfold expirationOptions at all
  unfold foundOptions
  cases map : PyValue.get payload mapKey with
  | dict expirations =>
      rw [map] at count all
      dsimp only at count all
      obtain ⟨found, same, counted⟩ := count_expirations_found literals expiration.isoformat expirations all
      rw [same] at count
      cases count
      exact counted
  | none =>
      rw [map] at count
      cases count
      exact counted_none literals
  | _ =>
      rw [map] at all
      exact absurd (all _ (List.mem_singleton.mpr rfl)) (by simp)

theorem side_read (expiration : Date) (receivedAt : Datetime) (threshold : PyFloat) (optionType : OptionType)
    (found : List (PyValue × PyValue)) (contracts : List OptionContractV1)
    (each : List.Forall₂ (ContractFrom literals expiration receivedAt threshold optionType) found contracts) :
    (∀ contract ∈ contracts, contract.optionType = optionType) ∧
      ∀ strike, (∃ row ∈ found, toFloat literals row.1 = .ok strike) ↔
        ∃ contract ∈ contracts, strike = .finite contract.strike := by
  induction each with
  | nil => simp
  | cons here _ ih =>
      obtain ⟨strike, option, read, _, accepted⟩ := here
      have reads := normalize_contract_reads literals option optionType expiration strike receivedAt threshold
        _ accepted
      constructor
      · intro contract member
        cases List.mem_cons.mp member with
        | inl same => rw [same, reads.optionType]
        | inr later => exact ih.1 contract later
      · intro other
        simp only [List.mem_cons, exists_eq_or_imp]
        rw [ih.2 other, read, reads.strike]
        exact or_congr ⟨fun same => (Except.ok.inj same).symm, fun same => congrArg _ same.symm⟩ Iff.rfl

theorem count_of_side (optionType side : OptionType) (contracts : List OptionContractV1)
    (same : ∀ contract ∈ contracts, contract.optionType = side) :
    countOf optionType contracts = if side = optionType then contracts.length else 0 := by
  unfold countOf
  by_cases counted : side = optionType
  · rw [if_pos counted, List.countP_eq_length]
    intro contract member
    exact decide_eq_true ((same contract member).trans counted)
  · rw [if_neg counted, List.countP_eq_zero]
    intro contract member
    rw [same contract member]
    exact fun equal => counted (of_decide_eq_true equal)

theorem finite_strike_injective :
    Function.Injective fun strike : {strike : ℚ // 0 < strike} => PyFloat.finite strike :=
  fun _ _ same => Subtype.ext (PyFloat.finite.inj same)

theorem distinct_strikes (strikes : List PyFloat) (contracts : List OptionContractV1)
    (same : ∀ strike, strike ∈ strikes ↔ ∃ contract ∈ contracts, strike = .finite contract.strike) :
    distinctFloats strikes = strikeCount contracts := by
  have numbers : ∀ strike ∈ strikes, strike ≠ .nan := by
    intro strike member
    obtain ⟨contract, _, rfl⟩ := (same strike).mp member
    simp
  have finite : strikes.filter (· ≠ .nan) = strikes :=
    List.filter_eq_self.mpr (fun strike member => decide_eq_true (numbers strike member))
  have nans : strikes.count .nan = 0 :=
    List.count_eq_zero.mpr (fun member => numbers .nan member rfl)
  have mapped := List.dedup_map_of_injective finite_strike_injective
    (contracts.map fun contract => contract.strike)
  have perm : strikes.dedup.Perm
      ((contracts.map fun contract => contract.strike).map
        fun strike : {strike : ℚ // 0 < strike} => PyFloat.finite strike).dedup := by
    apply (List.perm_ext_iff_of_nodup (List.nodup_dedup _) (List.nodup_dedup _)).mpr
    intro strike
    rw [List.mem_dedup, List.mem_dedup, same, List.map_map, List.mem_map]
    constructor
    · rintro ⟨contract, member, rfl⟩
      exact ⟨contract, member, rfl⟩
    · rintro ⟨contract, member, rfl⟩
      exact ⟨contract, member, rfl⟩
  rw [distinctFloats, finite, nans, Nat.add_zero, perm.length_eq, mapped, List.length_map, strikeCount]

structure Delivered (expiration : Date) (receivedAt : Datetime) (threshold : PyFloat) (payload : Payload)
    (contracts : List OptionContractV1) : Prop where
  callsYielded :
    AllYielded (expirationOptions literals payload "callExpDateMap" expiration.isoformat)
  putsYielded :
    AllYielded (expirationOptions literals payload "putExpDateMap" expiration.isoformat)
  sides : ∃ calls puts, contracts = calls ++ puts ∧
    List.Forall₂ (ContractFrom literals expiration receivedAt threshold .call)
      (foundOptions payload "callExpDateMap" expiration.isoformat) calls ∧
    List.Forall₂ (ContractFrom literals expiration receivedAt threshold .put)
      (foundOptions payload "putExpDateMap" expiration.isoformat) puts

theorem delivered_contracts (expiration : Date) (receivedAt : Datetime) (threshold : PyFloat)
    (payload : Payload) (calls contracts : List OptionContractV1)
    (called : appendContracts literals expiration receivedAt threshold .call
      (expirationOptions literals payload "callExpDateMap" expiration.isoformat) [] = .ok calls)
    (put : appendContracts literals expiration receivedAt threshold .put
      (expirationOptions literals payload "putExpDateMap" expiration.isoformat) calls = .ok contracts) :
    Delivered literals expiration receivedAt threshold payload contracts := by
  obtain ⟨callsYielded, callContracts, first, callEach⟩ :=
    side_contracts literals expiration receivedAt threshold .call payload _ _ _ _ called
  obtain ⟨putsYielded, putContracts, second, putEach⟩ :=
    side_contracts literals expiration receivedAt threshold .put payload _ _ _ _ put
  refine ⟨callsYielded, putsYielded, callContracts, putContracts, ?_, callEach, putEach⟩
  rw [second, first, List.nil_append]

theorem extracted_counts (expiration : Date) (receivedAt : Datetime) (threshold : PyFloat)
    (payload : Payload) (fields : ChainMetadataFields) (contracts : List OptionContractV1)
    (extracted : extractChainMetadata literals (.dict payload) expiration = .ok fields)
    (delivered : Delivered literals expiration receivedAt threshold payload contracts) :
    fields.callContractCount = countOf .call contracts ∧
      fields.putContractCount = countOf .put contracts ∧
      fields.strikeCount = strikeCount contracts := by
  obtain ⟨callsYielded, putsYielded, calls, puts, rfl, callEach, putEach⟩ := delivered
  unfold extractChainMetadata at extracted
  obtain ⟨⟨callCount, callStrikes⟩, callsFound, extracted⟩ := (bind_ok_iff _ _ _).mp extracted
  obtain ⟨⟨putCount, putStrikes⟩, putsFound, extracted⟩ := (bind_ok_iff _ _ _).mp extracted
  obtain ⟨price, _, extracted⟩ := (bind_ok_iff _ _ _).mp extracted
  obtain ⟨event, _, extracted⟩ := (bind_ok_iff _ _ _).mp extracted
  cases extracted
  have callCounted := count_expiration_found literals payload _ expiration _ callsYielded callsFound
  have putCounted := count_expiration_found literals payload _ expiration _ putsYielded putsFound
  obtain ⟨callSide, callStruck⟩ := side_read literals expiration receivedAt threshold .call _ _ callEach
  obtain ⟨putSide, putStruck⟩ := side_read literals expiration receivedAt threshold .put _ _ putEach
  have callLength := callCounted.contracts.trans callEach.length_eq
  have putLength := putCounted.contracts.trans putEach.length_eq
  refine ⟨?_, ?_, ?_⟩
  · rw [countOf, List.countP_append, ← countOf, ← countOf, count_of_side .call .call calls callSide,
      count_of_side .call .put puts putSide]
    exact callLength
  · rw [countOf, List.countP_append, ← countOf, ← countOf, count_of_side .put .call calls callSide,
      count_of_side .put .put puts putSide]
    exact putLength.trans (Nat.zero_add _).symm
  · apply distinct_strikes
    intro strike
    rw [List.mem_append, callCounted.strikes, putCounted.strikes, callStruck, putStruck]
    simp only [List.mem_append, or_and_right, exists_or]

theorem underlying_price_ok (arguments : ChainArguments) (price : Option {price : ℚ // 0 < price})
    (priced : underlyingPrice arguments = .ok price) :
    arguments.underlyingPrice = price.map fun price => .finite price := by
  unfold underlyingPrice at priced
  cases given : arguments.underlyingPrice with
  | none =>
      rw [given] at priced
      cases priced
      rfl
  | some value =>
      rw [given] at priced
      obtain ⟨number, valid, rfl⟩ := (map_ok_iff _ _ _).mp priced
      rw [positive_ok _ _ _ _ valid]
      rfl

-- Where the full chain is accepted, the metadata route accepts the same payload
-- at any time and reports the same numbers.
theorem metadata_agrees (expiration : Date) (receivedAt : Datetime) (threshold : PyFloat) (symbol : String)
    (payload : PyValue) (chain : OptionChainV1)
    (accepted : normalizeOptionChain literals expiration receivedAt threshold symbol payload = .ok chain)
    (requested : String) (at_ : Datetime) (staleAfterSeconds : PyFloat) :
    ∃ metadata,
      normalizeChainMetadata literals requested payload expiration at_ staleAfterSeconds = .ok metadata ∧
      metadata.callContractCount = chain.callContractCount ∧
      metadata.putContractCount = chain.putContractCount ∧
      metadata.strikeCount = chain.strikeCount ∧
      metadata.underlyingPrice = chain.underlyingPrice.map fun price => .finite price := by
  obtain ⟨entries, fields, calls, contracts, rfl, extracted, called, put, valid⟩ :=
    normalize_option_chain_ok literals expiration receivedAt threshold symbol payload chain accepted
  obtain ⟨price, priced, complete, rfl⟩ := chain_validated_ok _ _ chain valid
  have delivered := delivered_contracts literals expiration receivedAt threshold entries calls contracts
    called put
  obtain ⟨callCount, putCount, strikes⟩ :=
    extracted_counts literals expiration receivedAt threshold entries fields contracts extracted delivered
  refine ⟨chainMetadata requested fields expiration at_ staleAfterSeconds, ?_, callCount, putCount, strikes,
    underlying_price_ok _ price priced⟩
  unfold normalizeChainMetadata
  rw [extracted]
  rfl

theorem metadata_agrees_sample :
    ∃ chain metadata, sampleChain 1786543200000000 = .ok chain ∧
      normalizeChainMetadata sampleLiterals "AAPL" samplePayload (Date.ofCivil 2026 8 21) 1786543450000000
        (.finite 300) = .ok metadata ∧
      metadata.callContractCount = 1 ∧ metadata.callContractCount = chain.callContractCount := by
  obtain ⟨chain, accepted, one⟩ := ok_of_part (sampleChain 1786543200000000)
    (fun chain => chain.callContractCount) 1 (by decide +kernel)
  obtain ⟨metadata, read, calls, _⟩ := metadata_agrees sampleLiterals (Date.ofCivil 2026 8 21)
    1786543200000000 (.finite 300) "AAPL" samplePayload chain accepted "AAPL" 1786543450000000 (.finite 300)
  exact ⟨chain, metadata, accepted, read, calls.trans one, calls⟩

end SchwabGateway.Upstream
