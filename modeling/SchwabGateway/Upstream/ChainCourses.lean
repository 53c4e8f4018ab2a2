import SchwabGateway.Upstream.ChainOptions
import SchwabGateway.Upstream.ReadCourses

set_option autoImplicit false

namespace SchwabGateway.Upstream

open SchwabGateway.Library SchwabGateway.Python

section Validators

theorem symbol_stays (field : String) (value : PyValue) : ¬ Escapes (contractSymbol field value) := by
  unfold contractSymbol
  split
  · split
    · exact ok_not_uncaught _ _
    · simp [Escapes, Uncaught, Raised.isValueError]
  · simp [Escapes, Uncaught, Raised.isValueError]

theorem positive_stays (field message : String) (number : PyFloat) :
    ¬ Escapes (positive field message number) := by
  unfold positive
  split
  · split
    · exact ok_not_uncaught _ _
    · simp [Escapes, Uncaught, Raised.isValueError]
  · simp [Escapes, Uncaught, Raised.isValueError]

theorem nonnegative_stays (field message : String) (number : PyFloat) :
    ¬ Escapes (nonnegative field message number) := by
  unfold nonnegative
  split
  · split
    · exact ok_not_uncaught _ _
    · simp [Escapes, Uncaught, Raised.isValueError]
  · simp [Escapes, Uncaught, Raised.isValueError]

theorem finite_stays (field message : String) (number : PyFloat) :
    ¬ Escapes (finiteNumber field message number) := by
  unfold finiteNumber
  split
  · exact ok_not_uncaught _ _
  · simp [Escapes, Uncaught, Raised.isValueError]

theorem boolean_stays (field : String) (value : PyValue) : ¬ Escapes (boolean field value) := by
  unfold boolean
  repeat' split
  all_goals simp [Escapes, Uncaught, Raised.isValueError]

theorem nullable_stays {α β : Type} (validate : α → Result β) (value : Option α)
    (each : ∀ value, ¬ Escapes (validate value)) : ¬ Escapes (nullable validate value) := by
  cases value with
  | none => exact ok_not_uncaught _ none
  | some value =>
      intro escapes
      obtain ⟨error, raised, uncaught⟩ := escapes
      apply each value
      rw [nullable] at raised
      cases outcome : validate value with
      | ok result =>
          rw [outcome] at raised
          cases raised
      | error other =>
          rw [outcome] at raised
          cases raised
          exact ⟨error, rfl, uncaught⟩

theorem present_stays {α β : Type} (field : String) (validate : α → Result β) (value : Option α)
    (each : ∀ value, ¬ Escapes (validate value)) : ¬ Escapes (present field validate value) := by
  cases value with
  | none => simp [Escapes, Uncaught, present, Raised.isValueError]
  | some value => exact each value

theorem contract_validated_stays (arguments : ContractArguments) (freshness : Freshness) :
    ¬ Escapes (OptionContractV1.validated arguments freshness) := by
  have price := fun field => nonnegative_stays field pricesMessage
  have analytic := fun field value => nullable_stays _ value (finite_stays field numericMessage)
  have counted := fun field => count_stays field countsMessage
  unfold OptionContractV1.validated
  refine caught_bind _ _ _ (symbol_stays _ _) fun _ => ?_
  refine caught_bind _ _ _ (positive_stays _ _ _) fun _ => ?_
  refine caught_bind _ _ _ (present_stays _ _ _ (price _)) fun _ => ?_
  refine caught_bind _ _ _ (present_stays _ _ _ (price _)) fun _ => ?_
  refine caught_bind _ _ _ (present_stays _ _ _ (price _)) fun _ => ?_
  refine caught_bind _ _ _ (nullable_stays _ _ (price _)) fun _ => ?_
  refine caught_bind _ _ _ (counted _ _) fun _ => ?_
  refine caught_bind _ _ _ (counted _ _) fun _ => ?_
  refine caught_bind _ _ _ (analytic _ _) fun _ => ?_
  refine caught_bind _ _ _ (analytic _ _) fun _ => ?_
  refine caught_bind _ _ _ (analytic _ _) fun _ => ?_
  refine caught_bind _ _ _ (analytic _ _) fun _ => ?_
  refine caught_bind _ _ _ (analytic _ _) fun _ => ?_
  refine caught_bind _ _ _ (counted _ _) fun _ => ?_
  refine caught_bind _ _ _ (counted _ _) fun _ => ?_
  refine caught_bind _ _ _ (analytic _ _) fun _ => ?_
  refine caught_bind _ _ _ (nullable_stays _ _ (nonnegative_stays _ _)) fun _ => ?_
  refine caught_bind _ _ _ (nullable_stays _ _ (nonnegative_stays _ _)) fun _ => ?_
  refine caught_bind _ _ _ (boolean_stays _ _) fun _ => ?_
  refine caught_bind _ _ _ (counted _ _) fun _ => ?_
  refine caught_bind _ _ _ (analytic _ _) fun _ => ?_
  refine caught_bind _ _ _ (analytic _ _) fun _ => ?_
  split
  · exact ok_not_uncaught _ _
  · simp [Uncaught, throw, throwThe, MonadExceptOf.throw, Raised.isValueError]

theorem chain_validated_stays (arguments : ChainArguments) (freshness : Freshness) :
    ¬ Escapes (OptionChainV1.validated arguments freshness) := by
  unfold OptionChainV1.validated
  refine caught_bind _ _ _ (nullable_stays _ _ (positive_stays _ _)) fun _ => ?_
  dsimp only
  repeat' split
  all_goals simp [Uncaught, throw, throwThe, MonadExceptOf.throw, pure, Except.pure, Raised.isValueError]

end Validators

variable (literals : Literals)

section Option

variable (option : Payload)

def refusedIntrinsic : PyValue → Bool
  | .none => false
  | .int _ => false
  | .float number => !number.isfinite
  | _ => true

def extremeBeforeIntrinsic : Bool :=
  (huge (PyValue.get option "bid") || huge (PyValue.get option "ask")) ||
    huge (PyValue.get option "mark") || huge (PyValue.get option "last") ||
    infinite (PyValue.get option "totalVolume") || infinite (PyValue.get option "openInterest") ||
    huge (PyValue.get option "volatility") || huge (PyValue.get option "delta") ||
    huge (PyValue.get option "gamma") || huge (PyValue.get option "theta") ||
    huge (PyValue.get option "vega") || infinite (PyValue.get option "bidSize") ||
    infinite (PyValue.get option "askSize") || huge (PyValue.get option "rho")

def extremeAfterIntrinsic : Bool :=
  huge (PyValue.get option "timeValue") || infinite (PyValue.get option "daysToExpiration") ||
    huge (PyValue.get option "multiplier") || huge (PyValue.get option "theoreticalOptionValue")

-- The times and the intrinsic value can be refused before the fields that follow.
def extremeOption : Bool :=
  extremeTimes literals option ||
    (!unnamedTimes literals option &&
      (extremeBeforeIntrinsic option ||
        (huge (PyValue.get option "intrinsicValue") ||
          (!refusedIntrinsic (PyValue.get option "intrinsicValue") && extremeAfterIntrinsic option))))

theorem analytic_reads (name : String) :
    Reads (huge (PyValue.get option name)) (analyticNumber literals option name) :=
  settles_then_ok _ _ _ (number_reads literals option name) (fun _ => ⟨_, rfl⟩)

theorem nonnegative_analytic_reads (name : String) :
    Reads (huge (PyValue.get option name)) (nonnegativeAnalytic literals option name) :=
  settles_then_ok _ _ _ (analytic_reads literals option name) (fun _ => ⟨_, rfl⟩)

theorem bid_ask_reads :
    Reads (huge (PyValue.get option "bid") || huge (PyValue.get option "ask")) (normalizedBidAsk literals option) := by
  unfold normalizedBidAsk
  apply settles_bind _ _ _ _ (number_reads literals option "bid")
  intro bid _
  apply settles_then_ok _ _ _ (number_reads literals option "ask")
  intro ask
  split
  · exact ⟨_, rfl⟩
  · exact ⟨_, rfl⟩

theorem clamped_intrinsic_takes (value : PyFloat) : Takes false (!value.isfinite) (clampedIntrinsic value) := by
  unfold clampedIntrinsic
  cases finite : value.isfinite with
  | true => exact courses_ok _
  | false =>
      rw [if_neg (by simp)]
      constructor
      · simp [Uncaught, Raised.isValueError]
      · simp

theorem intrinsic_takes :
    Takes (huge (PyValue.get option "intrinsicValue")) (refusedIntrinsic (PyValue.get option "intrinsicValue"))
      (optionalIntrinsicValue option) := by
  have refused : ∀ message, Takes false true (.error (.valueError message) : Result (Option PyFloat)) := by
    intro message
    constructor
    · simp [Uncaught, Raised.isValueError]
    · simp
  unfold optionalIntrinsicValue
  cases PyValue.get option "intrinsicValue" with
  | none => exact courses_ok none
  | int value =>
      dsimp only [floatOfInt]
      by_cases small : value.natAbs < floatLimit
      · rw [if_pos small, huge, decide_eq_false (Nat.not_le.mpr small)]
        exact clamped_intrinsic_takes (.finite (roundDouble value))
      · rw [if_neg small]
        exact settles_courses _ _ (overflow_escapes _ (decide_eq_true (Nat.not_lt.mp small)))
  | float value => exact clamped_intrinsic_takes value
  | bool flag => exact refused _
  | str text => exact refused _
  | list items => exact refused _
  | dict entries => exact refused _
  | object => exact refused _

theorem option_escapes_iff (optionType : OptionType) (expiration : Date) (strike : PyFloat)
    (receivedAt : Datetime) (threshold : PyFloat) :
    Escapes (normalizeContract literals option optionType expiration strike receivedAt threshold) ↔
      extremeOption literals option = true := by
  unfold normalizeContract extremeOption
  apply uncaught_after_courses _ _ _ _ _ (event_time_takes literals option)
  intro eventTimestamp _
  simp only [extremeBeforeIntrinsic, Bool.or_assoc]
  rw [← Bool.or_assoc (huge (PyValue.get option "bid"))]
  apply uncaught_after_settles _ _ _ _ (bid_ask_reads literals option)
  rintro ⟨bid, ask, crossed⟩ _
  apply uncaught_after_settles _ _ _ _ (number_reads literals option "mark")
  intro mark _
  apply uncaught_after_settles _ _ _ _ (number_reads literals option "last")
  intro last _
  apply uncaught_after_settles _ _ _ _ (integer_reads literals option "totalVolume")
  intro totalVolume _
  apply uncaught_after_settles _ _ _ _ (integer_reads literals option "openInterest")
  intro openInterest _
  apply uncaught_after_settles _ _ _ _ (analytic_reads literals option "volatility")
  intro volatility _
  apply uncaught_after_settles _ _ _ _ (analytic_reads literals option "delta")
  intro delta _
  apply uncaught_after_settles _ _ _ _ (analytic_reads literals option "gamma")
  intro gamma _
  apply uncaught_after_settles _ _ _ _ (analytic_reads literals option "theta")
  intro theta _
  apply uncaught_after_settles _ _ _ _ (analytic_reads literals option "vega")
  intro vega _
  apply uncaught_after_settles _ _ _ _ (integer_reads literals option "bidSize")
  intro bidSize _
  apply uncaught_after_settles _ _ _ _ (integer_reads literals option "askSize")
  intro askSize _
  apply uncaught_after_settles _ _ _ _ (analytic_reads literals option "rho")
  intro rho _
  apply uncaught_after_courses _ _ _ _ _ (intrinsic_takes option)
  intro intrinsicValue _
  simp only [extremeAfterIntrinsic, Bool.or_assoc]
  apply uncaught_after_settles _ _ _ _ (nonnegative_analytic_reads literals option "timeValue")
  intro timeValue _
  apply uncaught_after_settles _ _ _ _ (integer_reads literals option "daysToExpiration")
  intro daysToExpiration _
  apply uncaught_after_settles _ _ _ _ (number_reads literals option "multiplier")
  intro multiplier _
  rw [← Bool.or_false (huge (PyValue.get option "theoreticalOptionValue"))]
  apply uncaught_after_settles _ _ _ _
    (nonnegative_analytic_reads literals option "theoreticalOptionValue")
  intro theoreticalOptionValue _
  exact iff_of_false (contract_validated_stays _ _) Bool.false_ne_true

end Option

section Chain

variable (expiration : Date) (receivedAt : Datetime) (threshold : PyFloat)

abbrev Sided := OptionType × Yield

def sidedYields (payload : Payload) (expirationText : String) : List Sided :=
  (expirationOptions literals payload "callExpDateMap" expirationText).map (fun next => (.call, next)) ++
    (expirationOptions literals payload "putExpDateMap" expirationText).map (fun next => (.put, next))

def appendSided : List Sided → List OptionContractV1 → Result (List OptionContractV1)
  | [], contracts => return contracts
  | (side, next) :: rest, contracts => do
      let contracts ← appendContracts literals expiration receivedAt threshold side [next] contracts
      appendSided rest contracts

theorem append_contracts_append (side : OptionType) (first second : List Yield)
    (contracts : List OptionContractV1) :
    appendContracts literals expiration receivedAt threshold side (first ++ second) contracts =
      appendContracts literals expiration receivedAt threshold side first contracts >>=
        appendContracts literals expiration receivedAt threshold side second := by
  induction first generalizing contracts with
  | nil => rfl
  | cons next rest ih =>
      rw [List.cons_append, appendContracts, appendContracts, bind_assoc]
      apply bind_congr
      rintro ⟨strike, option⟩
      dsimp only
      split
      · rfl
      · rw [bind_assoc]
        apply bind_congr
        intro contract
        exact ih _

theorem append_side (side : OptionType) (yields : List Yield) (contracts : List OptionContractV1) :
    appendContracts literals expiration receivedAt threshold side yields contracts =
      appendSided literals expiration receivedAt threshold (yields.map fun next => (side, next)) contracts := by
  induction yields generalizing contracts with
  | nil => rfl
  | cons next rest ih =>
      rw [List.map_cons, appendSided, ← List.singleton_append, append_contracts_append]
      apply bind_congr
      exact ih

theorem append_sided_append (first second : List Sided) (contracts : List OptionContractV1) :
    appendSided literals expiration receivedAt threshold (first ++ second) contracts =
      appendSided literals expiration receivedAt threshold first contracts >>=
        appendSided literals expiration receivedAt threshold second := by
  induction first generalizing contracts with
  | nil => rfl
  | cons row rest ih =>
      obtain ⟨side, next⟩ := row
      rw [List.cons_append, appendSided, appendSided, bind_assoc]
      apply bind_congr
      exact ih

def Accepted (row : Sided) : Prop :=
  ∃ strike option contract, row.2 = .ok (strike, option) ∧
    normalizeContract literals option row.1 expiration strike receivedAt threshold = .ok contract

def Tame (rows : List Sided) : Prop :=
  ∀ row ∈ rows, ∀ error, row.2 = .error error → error.isValueError = true

theorem append_one_escapes_iff (side : OptionType) (next : Yield) (contracts : List OptionContractV1)
    (tame : ∀ error, next = .error error → error.isValueError = true) :
    Escapes (appendContracts literals expiration receivedAt threshold side [next] contracts) ↔
      contracts.length < maxOptionChainContracts ∧
        ∃ strike option, next = .ok (strike, option) ∧ extremeOption literals option = true := by
  unfold Escapes
  rw [appendContracts, uncaught_bind_iff]
  cases next with
  | error error => simp [Uncaught, tame error rfl]
  | ok pair =>
      obtain ⟨strike, option⟩ := pair
      simp only [ok_not_uncaught, false_or, Except.ok.injEq, Prod.mk.injEq, exists_eq_left']
      by_cases full : maxOptionChainContracts ≤ contracts.length
      · rw [if_pos full]
        simp [Uncaught, throw, throwThe, MonadExceptOf.throw, Raised.isValueError, not_lt.mpr full]
      · have escapes := option_escapes_iff literals option side expiration strike receivedAt threshold
        unfold Escapes at escapes
        rw [if_neg full, uncaught_bind_iff, escapes]
        simp [not_le.mp full, appendContracts, Uncaught, pure, Except.pure]

theorem append_one_ok_iff (side : OptionType) (next : Yield) (contracts : List OptionContractV1) :
    (∃ all, appendContracts literals expiration receivedAt threshold side [next] contracts = .ok all) ↔
      contracts.length < maxOptionChainContracts ∧
        Accepted literals expiration receivedAt threshold (side, next) := by
  rw [appendContracts]
  cases next with
  | error error => simp [Accepted, bind, Except.bind]
  | ok pair =>
      obtain ⟨strike, option⟩ := pair
      dsimp only [bind, Except.bind]
      by_cases full : maxOptionChainContracts ≤ contracts.length
      · rw [if_pos full]
        simp [throw, throwThe, MonadExceptOf.throw, not_lt.mpr full]
      · rw [if_neg full]
        cases read : normalizeContract literals option side expiration strike receivedAt threshold with
        | error error => simp [Accepted, read]
        | ok contract => simp [Accepted, read, appendContracts, not_le.mp full, pure, Except.pure]

theorem append_one_length (side : OptionType) (next : Yield) (contracts all : List OptionContractV1)
    (appended : appendContracts literals expiration receivedAt threshold side [next] contracts = .ok all) :
    all.length = contracts.length + 1 := by
  obtain ⟨new, rfl, each⟩ := append_contracts_each literals expiration receivedAt threshold side [next]
    contracts all appended
  rw [List.length_append, ← each.length_eq]
  rfl

-- An extreme option object that the loop gets to: among the first 5000, and
-- behind accepted ones only.
def ExtremeAmong (gathered : Nat) (rows : List Sided) : Prop :=
  ∃ before side strike option after, rows = before ++ (side, .ok (strike, option)) :: after ∧
    gathered + before.length < maxOptionChainContracts ∧ extremeOption literals option = true ∧
    ∀ row ∈ before, Accepted literals expiration receivedAt threshold row

theorem extreme_among_cons (gathered : Nat) (side : OptionType) (next : Yield) (rest : List Sided) :
    ExtremeAmong literals expiration receivedAt threshold gathered ((side, next) :: rest) ↔
      (gathered < maxOptionChainContracts ∧
        ∃ strike option, next = .ok (strike, option) ∧ extremeOption literals option = true) ∨
      (Accepted literals expiration receivedAt threshold (side, next) ∧
        ExtremeAmong literals expiration receivedAt threshold (gathered + 1) rest) := by
  constructor
  · rintro ⟨before, other, strike, option, after, split, room, extreme, accepted⟩
    cases before with
    | nil =>
        cases split
        exact .inl ⟨room, strike, option, rfl, extreme⟩
    | cons first before =>
        cases split
        refine .inr ⟨accepted _ (List.mem_cons_self ..), before, other, strike, option, after, rfl, ?_, extreme,
          fun row member => accepted row (List.mem_cons_of_mem _ member)⟩
        rw [List.length_cons] at room
        omega
  · rintro (⟨room, strike, option, rfl, extreme⟩ | ⟨here, before, other, strike, option, after, rfl, room,
      extreme, accepted⟩)
    · exact ⟨[], side, strike, option, rest, rfl, room, extreme, by simp⟩
    · refine ⟨(side, next) :: before, other, strike, option, after, rfl, ?_, extreme, ?_⟩
      · rw [List.length_cons]
        omega
      · intro row member
        cases List.mem_cons.mp member with
        | inl same => rwa [same]
        | inr later => exact accepted row later

theorem append_sided_escapes_iff (rows : List Sided) (contracts : List OptionContractV1) (tame : Tame rows) :
    Escapes (appendSided literals expiration receivedAt threshold rows contracts) ↔
      ExtremeAmong literals expiration receivedAt threshold contracts.length rows := by
  induction rows generalizing contracts with
  | nil => simp [appendSided, ExtremeAmong, Uncaught, pure, Except.pure]
  | cons row rest ih =>
      obtain ⟨side, next⟩ := row
      have later := fun all => ih all (fun other member => tame other (List.mem_cons_of_mem _ member))
      rw [extreme_among_cons, appendSided]
      unfold Escapes at *
      rw [uncaught_bind_iff]
      apply or_congr
      · exact append_one_escapes_iff literals expiration receivedAt threshold side next contracts
          (tame _ (List.mem_cons_self ..))
      · constructor
        · rintro ⟨all, appended, raised⟩
          have accepted := ((append_one_ok_iff literals expiration receivedAt threshold side next contracts).mp
            ⟨all, appended⟩).2
          rw [later all, append_one_length literals expiration receivedAt threshold side next contracts all
            appended] at raised
          exact ⟨accepted, raised⟩
        · rintro ⟨accepted, extreme⟩
          have room : contracts.length < maxOptionChainContracts := by
            obtain ⟨before, _, _, _, _, _, room, _⟩ := extreme
            omega
          obtain ⟨all, appended⟩ := (append_one_ok_iff literals expiration receivedAt threshold side next
            contracts).mpr ⟨room, accepted⟩
          refine ⟨all, appended, (later all).mpr ?_⟩
          rwa [append_one_length literals expiration receivedAt threshold side next contracts all appended]

theorem yields_tame (mapKey expirationText : String) (payload : Payload) (decoded : Decoded (.dict payload)) :
    ∀ next ∈ expirationOptions literals payload mapKey expirationText, ∀ error, next = .error error →
      error.isValueError = true := by
  have inside : Decoded (PyValue.get payload mapKey) := by
    cases decoded with
    | dict _ _ values => exact decoded_get payload mapKey values
  unfold expirationOptions
  rintro next member error rfl
  generalize PyValue.get payload mapKey = expirationMap at inside member
  cases inside with
  | dict expirations _ values =>
      obtain ⟨row, listed, yielded⟩ := List.mem_flatMap.mp member
      obtain ⟨key, strikeMap⟩ := row
      have strikesDecoded := values _ listed
      dsimp only [yieldExpiration] at yielded
      split at yielded
      · split at yielded
        · split at yielded
          · obtain ⟨strike, strikeListed, yielded⟩ := List.mem_flatMap.mp yielded
            obtain ⟨strikeText, options⟩ := strike
            obtain ⟨text, rfl⟩ : ∃ text, strikeText = .str text := by
              cases strikesDecoded with
              | dict _ keys _ => exact keys _ strikeListed
            dsimp only [yieldStrike, toFloat] at yielded
            cases read : literals.float text with
            | none =>
                rw [read] at yielded
                rw [Except.error.inj (List.mem_singleton.mp yielded)]
                rfl
            | some number =>
                rw [read] at yielded
                dsimp only at yielded
                split at yielded
                · obtain ⟨option, _, same⟩ := List.mem_map.mp yielded
                  unfold yieldOption at same
                  split at same
                  · cases same
                  · cases same
                    rfl
                · rw [Except.error.inj (List.mem_singleton.mp yielded)]
                  rfl
          · rw [Except.error.inj (List.mem_singleton.mp yielded)]
            rfl
        · cases yielded
      · rw [Except.error.inj (List.mem_singleton.mp yielded)]
        rfl
  | none => cases member
  | _ =>
      rw [Except.error.inj (List.mem_singleton.mp member)]
      rfl

def ExtremeChain (payload : Payload) : Prop :=
  extremeMetadata literals payload = true ∨
    (unnamedUnderlying literals payload = false ∧
      ExtremeAmong literals expiration receivedAt threshold 0
        (sidedYields literals payload expiration.isoformat))

theorem chain_escapes_iff (symbol : String) (payload : Payload) (decoded : Decoded (.dict payload)) :
    Escapes (normalizeOptionChain literals expiration receivedAt threshold symbol (.dict payload)) ↔
      ExtremeChain literals expiration receivedAt threshold payload := by
  have metadata := metadata_takes literals payload expiration decoded
  have tame : Tame (sidedYields literals payload expiration.isoformat) := by
    intro row member error raised
    cases List.mem_append.mp member with
    | inl call =>
        obtain ⟨next, inside, rfl⟩ := List.mem_map.mp call
        exact yields_tame literals _ _ payload decoded next inside error raised
    | inr put =>
        obtain ⟨next, inside, rfl⟩ := List.mem_map.mp put
        exact yields_tame literals _ _ payload decoded next inside error raised
  have sides : ∀ fields,
      Escapes (do
        let calls ← appendContracts literals expiration receivedAt threshold .call
          (expirationOptions literals payload "callExpDateMap" expiration.isoformat) []
        let contracts ← appendContracts literals expiration receivedAt threshold .put
          (expirationOptions literals payload "putExpDateMap" expiration.isoformat) calls
        OptionChainV1.validated (chainArguments expiration receivedAt symbol fields contracts)
          (chainFreshness receivedAt fields contracts)) ↔
      ExtremeAmong literals expiration receivedAt threshold 0
        (sidedYields literals payload expiration.isoformat) := by
    intro fields
    have whole := append_sided_escapes_iff literals expiration receivedAt threshold _ [] tame
    rw [List.length_nil] at whole
    have puts : appendContracts literals expiration receivedAt threshold .put
        (expirationOptions literals payload "putExpDateMap" expiration.isoformat) = _ :=
      funext (append_side literals expiration receivedAt threshold .put _)
    rw [← whole, sidedYields, append_sided_append, ← puts, ← append_side]
    unfold Escapes
    rw [← bind_assoc, uncaught_bind_iff]
    have stays : ∀ contracts, ¬ Uncaught Raised.isValueError
        (OptionChainV1.validated (chainArguments expiration receivedAt symbol fields contracts)
          (chainFreshness receivedAt fields contracts)) :=
      fun contracts => chain_validated_stays _ _
    simp only [stays, and_false, exists_false, or_false]
  unfold normalizeOptionChain ExtremeChain
  dsimp only
  unfold Escapes at *
  rw [uncaught_bind_iff, metadata.uncaught]
  constructor
  · rintro (extreme | ⟨fields, read, raised⟩)
    · exact .inl extreme
    · exact .inr ⟨(metadata.read.mp ⟨fields, read⟩).2, (sides fields).mp raised⟩
  · rintro (extreme | ⟨named, among⟩)
    · exact .inl extreme
    · cases fault : extremeMetadata literals payload with
      | true => exact .inl rfl
      | false =>
          obtain ⟨fields, read⟩ := metadata.read.mpr ⟨fault, named⟩
          exact .inr ⟨fields, read, (sides fields).mpr among⟩

end Chain

end SchwabGateway.Upstream
