import Mathlib.Data.List.Forall2

set_option autoImplicit false

namespace SchwabGateway.Library

variable {ε α β : Type}

theorem bind_ok_iff (first : Except ε α) (next : α → Except ε β) (result : β) :
    first >>= next = .ok result ↔ ∃ value, first = .ok value ∧ next value = .ok result := by
  cases first with
  | error error => simp [bind, Except.bind]
  | ok value => simp [bind, Except.bind]

theorem map_ok_iff (change : α → β) (outcome : Except ε α) (result : β) :
    outcome.map change = .ok result ↔ ∃ value, outcome = .ok value ∧ change value = result := by
  cases outcome with
  | error error => simp [Except.map]
  | ok value => simp [Except.map]

theorem ok_of_part (outcome : Except ε α) (part : α → β) (value : β)
    (found : outcome.toOption.map part = some value) : ∃ result, outcome = .ok result ∧ part result = value := by
  cases outcome with
  | error error => cases found
  | ok result => exact ⟨result, rfl, Option.some.inj found⟩

instance decidableOnOk (outcome : Except ε α) (law : α → Prop) [DecidablePred law] :
    Decidable (∀ value, outcome = .ok value → law value) :=
  match outcome with
  | .ok value => decidable_of_iff (law value) ⟨fun held _ same => Except.ok.inj same ▸ held, fun held => held value rfl⟩
  | .error _ => .isTrue nofun

theorem map_m_ok_iff (read : α → Except ε β) (items : List α) (results : List β) :
    items.mapM read = .ok results ↔
      List.Forall₂ (fun item result => read item = .ok result) items results := by
  induction items generalizing results with
  | nil =>
      rw [List.mapM_nil, List.forall₂_nil_left_iff]
      exact ⟨fun same => (Except.ok.inj same).symm, fun same => same ▸ rfl⟩
  | cons item rest ih =>
      rw [List.mapM_cons, bind_ok_iff, List.forall₂_cons_left_iff]
      constructor
      · rintro ⟨first, found, done⟩
        obtain ⟨others, later, done⟩ := (bind_ok_iff _ _ _).mp done
        cases done
        exact ⟨first, others, found, (ih others).mp later, rfl⟩
      · rintro ⟨first, others, found, later, rfl⟩
        exact ⟨first, found, (bind_ok_iff _ _ _).mpr ⟨others, (ih others).mpr later, rfl⟩⟩

theorem forall_two_partner {r : α → β → Prop} {items : List α} {results : List β}
    (each : List.Forall₂ r items results) (item : α) (member : item ∈ items) :
    ∃ result ∈ results, r item result := by
  induction each with
  | nil => cases member
  | cons here rest ih =>
      rcases List.mem_cons.mp member with rfl | later
      · exact ⟨_, List.mem_cons_self, here⟩
      · obtain ⟨result, found, related⟩ := ih later
        exact ⟨result, List.mem_cons_of_mem _ found, related⟩

theorem forall_two_results {r : α → β → Prop} {items : List α} {results : List β}
    (each : List.Forall₂ r items results) (good : β → Prop)
    (all : ∀ item ∈ items, ∀ result, r item result → good result) : ∀ result ∈ results, good result := by
  induction each with
  | nil => exact nofun
  | @cons item result items results here rest ih =>
      refine List.forall_mem_cons.mpr ⟨all item List.mem_cons_self result here, ?_⟩
      exact ih fun other member => all other (List.mem_cons_of_mem _ member)

theorem forall_two_pairwise {r : α → β → Prop} {apart : α → α → Prop} {between : β → β → Prop} {items : List α}
    {results : List β} (each : List.Forall₂ r items results) (pairwise : results.Pairwise between)
    (carried : ∀ item other result another, r item result → r other another → between result another →
      apart item other) : items.Pairwise apart := by
  induction each with
  | nil => exact .nil
  | @cons item result items results here rest ih =>
      obtain ⟨first, later⟩ := List.pairwise_cons.mp pairwise
      refine .cons ?_ (ih later)
      intro other member
      obtain ⟨another, found, related⟩ := forall_two_partner rest other member
      exact carried item other result another here related (first another found)

end SchwabGateway.Library
