import Mathlib.Data.List.Nodup

set_option autoImplicit false

namespace SchwabGateway.Library

variable {α : Type}

def Precedes (list : List α) (first second : α) : Prop := [first, second].Sublist list

instance [DecidableEq α] (list : List α) (first second : α) : Decidable (Precedes list first second) :=
  inferInstanceAs (Decidable ([first, second].Sublist list))

theorem precedes_members (list : List α) (first second : α) (before : Precedes list first second) :
    first ∈ list ∧ second ∈ list := by
  have members := before.subset
  exact ⟨members (by simp), members (by simp)⟩

theorem precedes_head (head : α) (list : List α) (other : α) (member : other ∈ list) :
    Precedes (head :: list) head other :=
  List.cons_sublist_cons.mpr (List.singleton_sublist.mpr member)

theorem precedes_later (head : α) (list : List α) (first second : α)
    (before : Precedes list first second) : Precedes (head :: list) first second :=
  before.cons head

theorem precedes_cons (head : α) (list : List α) (first second : α)
    (before : Precedes (head :: list) first second) :
    head = first ∧ second ∈ list ∨ Precedes list first second := by
  cases before with
  | cons _ deeper => exact .inr deeper
  | cons_cons _ rest => exact .inl ⟨rfl, List.singleton_sublist.mp rest⟩

theorem head_not_preceded (head : α) (list : List α) (other : α)
    (distinct : (head :: list).Nodup) : ¬ Precedes (head :: list) other head := by
  intro before
  have fresh := (List.nodup_cons.mp distinct).1
  cases precedes_cons head list other head before with
  | inl first => exact fresh first.2
  | inr deeper => exact fresh (precedes_members list other head deeper).2

theorem precedes_total (list : List α) (first second : α) (left : first ∈ list)
    (right : second ∈ list) (different : first ≠ second) :
    Precedes list first second ∨ Precedes list second first := by
  induction list with
  | nil => cases left
  | cons head tail ih =>
      cases left with
      | head =>
          cases right with
          | head => exact absurd rfl different
          | tail _ right => exact .inl (precedes_head first tail second right)
      | tail _ left =>
          cases right with
          | head => exact .inr (precedes_head second tail first left)
          | tail _ right =>
              cases ih left right with
              | inl before => exact .inl (precedes_later head tail first second before)
              | inr after => exact .inr (precedes_later head tail second first after)

theorem precedes_found (list : List α) (test : α → Bool) (first found : α)
    (distinct : list.Nodup) (search : list.find? test = some found)
    (before : Precedes list first found) : test first = false := by
  induction list with
  | nil => cases search
  | cons head tail ih =>
      cases passes : test head with
      | true =>
          rw [List.find?_cons_of_pos passes] at search
          cases search
          exact absurd before (head_not_preceded found tail first distinct)
      | false =>
          rw [List.find?_cons_of_neg (by simp [passes])] at search
          cases precedes_cons head tail first found before with
          | inl here => rw [← here.1, passes]
          | inr deeper => exact ih (List.nodup_cons.mp distinct).2 search deeper

theorem found_again (list : List α) (wide narrow : α → Bool) (found : α)
    (included : ∀ element, narrow element = true → wide element = true)
    (search : list.find? wide = some found) (passes : narrow found = true) :
    list.find? narrow = some found := by
  induction list with
  | nil => cases search
  | cons head tail ih =>
      cases here : wide head with
      | true =>
          rw [List.find?_cons_of_pos here] at search
          cases search
          rw [List.find?_cons_of_pos passes]
      | false =>
          have fails : ¬ narrow head = true := by
            intro held
            rw [included head held] at here
            cases here
          rw [List.find?_cons_of_neg (by simp [here])] at search
          rw [List.find?_cons_of_neg fails]
          exact ih search

end SchwabGateway.Library
