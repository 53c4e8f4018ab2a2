import SchwabGateway.Upstream.OptionChain

set_option autoImplicit false

namespace SchwabGateway.Upstream

open SchwabGateway.Library SchwabGateway.Python

-- The option objects of one side of a payload, each with the text of its
-- strike, in the order of the payload: everything under the expiration keys
-- that contain the date.
def strikeOptions (strikeText options : PyValue) : List (PyValue × PyValue) :=
  match options with
  | .list options => options.map fun option => (strikeText, option)
  | _ => []

def datedOptions (expirationText : String) (key strikeMap : PyValue) : List (PyValue × PyValue) :=
  match key, strikeMap with
  | .str key, .dict strikes =>
      if mentions key expirationText then strikes.flatMap fun row => strikeOptions row.1 row.2 else []
  | _, _ => []

def foundOptions (payload : Payload) (mapKey expirationText : String) : List (PyValue × PyValue) :=
  match PyValue.get payload mapKey with
  | .dict expirations => expirations.flatMap fun row => datedOptions expirationText row.1 row.2
  | _ => []

variable (literals : Literals)

def YieldedFrom (next : Yield) (found : PyValue × PyValue) : Prop :=
  ∃ strike option, next = .ok (strike, option) ∧ toFloat literals found.1 = .ok strike ∧
    found.2 = .dict option

def AllYielded (yields : List Yield) : Prop := ∀ next ∈ yields, ∃ pair, next = .ok pair

theorem forall₂_flat_map {α β γ : Type} (related : β → γ → Prop) (rows : List α) (first : α → List β)
    (second : α → List γ) (each : ∀ row ∈ rows, List.Forall₂ related (first row) (second row)) :
    List.Forall₂ related (rows.flatMap first) (rows.flatMap second) := by
  have same : List.Forall₂ (fun one other => one = other ∧ one ∈ rows) rows rows :=
    List.forall₂_same.mpr (fun _ member => ⟨rfl, member⟩)
  apply List.rel_flatMap same
  rintro row _ ⟨rfl, member⟩
  exact each row member

theorem forall₂_through {α β γ : Type} (first : α → β → Prop) (second : α → γ → Prop)
    (middle : List α) (left : List β) (right : List γ) (one : List.Forall₂ first middle left)
    (two : List.Forall₂ second middle right) :
    List.Forall₂ (fun b c => ∃ a, first a b ∧ second a c) left right := by
  induction one generalizing right with
  | nil =>
      cases two
      exact List.Forall₂.nil
  | cons here _ ih =>
      cases two with
      | cons there rest => exact List.Forall₂.cons ⟨_, here, there⟩ (ih _ rest)

theorem all_yielded_flat_map {α : Type} (rows : List α) (yields : α → List Yield)
    (all : AllYielded (rows.flatMap yields)) (row : α) (member : row ∈ rows) : AllYielded (yields row) :=
  fun next inside => all next (List.mem_flatMap.mpr ⟨row, member, inside⟩)

theorem yield_strike_found (strikeText options : PyValue)
    (all : AllYielded (yieldStrike literals strikeText options)) :
    (∃ strike items, toFloat literals strikeText = .ok strike ∧ options = .list items) ∧
      List.Forall₂ (YieldedFrom literals) (yieldStrike literals strikeText options)
        (strikeOptions strikeText options) := by
  unfold yieldStrike at all ⊢
  cases read : toFloat literals strikeText with
  | error error =>
      rw [read] at all
      cases error with
      | overflowError => exact absurd (all _ (List.mem_singleton.mpr rfl)) (by simp)
      | typeError => exact absurd (all _ (List.mem_singleton.mpr rfl)) (by simp)
      | valueError => exact absurd (all _ (List.mem_singleton.mpr rfl)) (by simp)
  | ok strike =>
      rw [read] at all
      dsimp only at all ⊢
      split at all
      · rename_i items
        refine ⟨⟨strike, items, rfl, rfl⟩, ?_⟩
        dsimp only [strikeOptions]
        induction items with
        | nil => exact List.Forall₂.nil
        | cons option rest ih =>
            have later := ih (fun next member => all next (List.mem_cons_of_mem _ member))
            refine List.Forall₂.cons ?_ later
            obtain ⟨pair, yielded⟩ := all _ (List.mem_cons_self ..)
            cases option with
            | dict entries => exact ⟨strike, entries, rfl, read, rfl⟩
            | _ => cases yielded
      · exact absurd (all _ (List.mem_singleton.mpr rfl)) (by simp)

theorem yield_expiration_found (expirationText : String) (key strikeMap : PyValue)
    (all : AllYielded (yieldExpiration literals expirationText key strikeMap)) :
    List.Forall₂ (YieldedFrom literals) (yieldExpiration literals expirationText key strikeMap)
      (datedOptions expirationText key strikeMap) := by
  unfold yieldExpiration at all ⊢
  split at all
  · rename_i text
    dsimp only
    by_cases dated : mentions text expirationText = true
    · rw [if_pos dated] at all
      rw [if_pos dated]
      cases strikeMap with
      | dict strikes =>
          rw [datedOptions, if_pos dated]
          apply forall₂_flat_map
          intro row member
          have inside := all_yielded_flat_map strikes _ all row member
          exact (yield_strike_found literals row.1 row.2 inside).2
      | _ => exact absurd (all _ (List.mem_singleton.mpr rfl)) (by simp)
    · rw [if_neg dated]
      cases strikeMap with
      | dict strikes =>
          rw [datedOptions, if_neg dated]
          exact List.Forall₂.nil
      | _ => exact List.Forall₂.nil
  · exact absurd (all _ (List.mem_singleton.mpr rfl)) (by simp)

theorem expiration_options_found (payload : Payload) (mapKey expirationText : String)
    (all : AllYielded (expirationOptions literals payload mapKey expirationText)) :
    List.Forall₂ (YieldedFrom literals) (expirationOptions literals payload mapKey expirationText)
      (foundOptions payload mapKey expirationText) := by
  unfold expirationOptions foundOptions at *
  cases map : PyValue.get payload mapKey with
  | none => exact List.Forall₂.nil
  | dict expirations =>
      rw [map] at all
      apply forall₂_flat_map
      intro row member
      exact yield_expiration_found literals expirationText row.1 row.2
        (all_yielded_flat_map expirations _ all row member)
  | _ =>
      rw [map] at all
      exact absurd (all _ (List.mem_singleton.mpr rfl)) (by simp)

section Loop

variable (expiration : Date) (receivedAt : Datetime) (threshold : PyFloat) (optionType : OptionType)

theorem append_contracts_each (yields : List Yield) (before contracts : List OptionContractV1)
    (appended : appendContracts literals expiration receivedAt threshold optionType yields before =
      .ok contracts) :
    ∃ new, contracts = before ++ new ∧ List.Forall₂ (fun next contract => ∃ strike option,
      next = .ok (strike, option) ∧ normalizeContract literals option optionType expiration strike
        receivedAt threshold = .ok contract) yields new := by
  induction yields generalizing before with
  | nil =>
      cases appended
      exact ⟨[], (List.append_nil _).symm, List.Forall₂.nil⟩
  | cons next rest ih =>
      rw [appendContracts] at appended
      obtain ⟨⟨strike, option⟩, yielded, appended⟩ := (bind_ok_iff _ _ _).mp appended
      dsimp only at appended
      split at appended
      · cases appended
      · obtain ⟨contract, read, appended⟩ := (bind_ok_iff _ _ _).mp appended
        obtain ⟨new, same, each⟩ := ih _ appended
        refine ⟨contract :: new, ?_, List.Forall₂.cons ⟨strike, option, yielded, read⟩ each⟩
        rw [same, List.append_assoc, List.singleton_append]

def ContractFrom (found : PyValue × PyValue) (contract : OptionContractV1) : Prop :=
  ∃ strike option, toFloat literals found.1 = .ok strike ∧ found.2 = .dict option ∧
    normalizeContract literals option optionType expiration strike receivedAt threshold = .ok contract

theorem side_contracts (payload : Payload) (mapKey expirationText : String)
    (before contracts : List OptionContractV1)
    (appended : appendContracts literals expiration receivedAt threshold optionType
      (expirationOptions literals payload mapKey expirationText) before = .ok contracts) :
    AllYielded (expirationOptions literals payload mapKey expirationText) ∧
      ∃ new, contracts = before ++ new ∧
        List.Forall₂ (ContractFrom literals expiration receivedAt threshold optionType)
          (foundOptions payload mapKey expirationText) new := by
  obtain ⟨new, same, each⟩ := append_contracts_each literals expiration receivedAt threshold optionType
    _ before contracts appended
  have all : AllYielded (expirationOptions literals payload mapKey expirationText) := by
    intro next member
    obtain ⟨index, bound, rfl⟩ := List.mem_iff_getElem.mp member
    obtain ⟨strike, option, yielded, _⟩ := (List.forall₂_iff_get.mp each).2 index bound
      ((List.Forall₂.length_eq each) ▸ bound)
    exact ⟨_, yielded⟩
  refine ⟨all, new, same, ?_⟩
  have found := expiration_options_found literals payload mapKey expirationText all
  apply (forall₂_through _ _ _ _ _ found each).imp
  rintro row contract ⟨next, ⟨strike, option, rfl, read, object⟩, _, _, same, accepted⟩
  cases same
  exact ⟨strike, option, read, object, accepted⟩

end Loop

end SchwabGateway.Upstream
