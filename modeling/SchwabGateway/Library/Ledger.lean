import Mathlib.Data.List.Count

set_option autoImplicit false

namespace SchwabGateway.Library

variable {κ ρ : Type}

-- What happens to a lease that has one owner at a time. A return says who
-- made it on the owner's behalf.
inductive LeaseEvent (κ ρ : Type) where
  | taken (key : κ)
  | given (key : κ) (releaser : ρ)
deriving DecidableEq

abbrev Ledger (κ ρ : Type) := List (LeaseEvent κ ρ)

def Ledger.owner : Ledger κ ρ → Option κ
  | .taken key :: _ => some key
  | _ => none

inductive Ledger.Balanced : Ledger κ ρ → Prop where
  | empty : Ledger.Balanced []
  | take (ledger : Ledger κ ρ) (key : κ) (before : Ledger.Balanced ledger)
      (free : Ledger.owner ledger = none) : Ledger.Balanced (.taken key :: ledger)
  | give (ledger : Ledger κ ρ) (key : κ) (releaser : ρ) (before : Ledger.Balanced ledger)
      (owned : Ledger.owner ledger = some key) : Ledger.Balanced (.given key releaser :: ledger)

def LeaseEvent.takes [DecidableEq κ] (key : κ) : LeaseEvent κ ρ → Bool
  | .taken other => other = key
  | .given _ _ => false

def LeaseEvent.gives [DecidableEq κ] (key : κ) : LeaseEvent κ ρ → Bool
  | .taken _ => false
  | .given other _ => other = key

def Ledger.acquisitions [DecidableEq κ] (ledger : Ledger κ ρ) (key : κ) : Nat :=
  ledger.countP (LeaseEvent.takes key)

def Ledger.releases [DecidableEq κ] (ledger : Ledger κ ρ) (key : κ) : Nat :=
  ledger.countP (LeaseEvent.gives key)

theorem owner_head (ledger : Ledger κ ρ) (key : κ) (owned : ledger.owner = some key) :
    ∃ earlier, ledger = .taken key :: earlier := by
  cases ledger with
  | nil => cases owned
  | cons newest earlier =>
      cases newest with
      | taken other =>
          cases owned
          exact ⟨earlier, rfl⟩
      | given other releaser => cases owned

section Counts

variable [DecidableEq κ]

@[simp] theorem acquisitions_taken (ledger : Ledger κ ρ) (key other : κ) :
    Ledger.acquisitions (.taken other :: ledger) key =
      ledger.acquisitions key + if other = key then 1 else 0 := by
  simp [Ledger.acquisitions, List.countP_cons, LeaseEvent.takes]

@[simp] theorem acquisitions_given (ledger : Ledger κ ρ) (key other : κ) (releaser : ρ) :
    Ledger.acquisitions (.given other releaser :: ledger) key = ledger.acquisitions key := by
  simp [Ledger.acquisitions, LeaseEvent.takes]

@[simp] theorem releases_taken (ledger : Ledger κ ρ) (key other : κ) :
    Ledger.releases (.taken other :: ledger) key = ledger.releases key := by
  simp [Ledger.releases, LeaseEvent.gives]

@[simp] theorem releases_given (ledger : Ledger κ ρ) (key other : κ) (releaser : ρ) :
    Ledger.releases (.given other releaser :: ledger) key =
      ledger.releases key + if other = key then 1 else 0 := by
  simp [Ledger.releases, List.countP_cons, LeaseEvent.gives]

theorem acquisitions_pos (ledger : Ledger κ ρ) (key : κ) :
    0 < ledger.acquisitions key ↔ .taken key ∈ ledger := by
  rw [Ledger.acquisitions, List.countP_pos_iff]
  constructor
  · rintro ⟨event, member, takes⟩
    cases event with
    | taken other =>
        have same : other = key := by simpa [LeaseEvent.takes] using takes
        rwa [same] at member
    | given other releaser => cases takes
  · intro member
    exact ⟨_, member, by simp [LeaseEvent.takes]⟩

-- Every acquisition has its return, except the owner's last one.
theorem balanced_counts (ledger : Ledger κ ρ) (key : κ) (balanced : ledger.Balanced) :
    ledger.acquisitions key = ledger.releases key + if ledger.owner = some key then 1 else 0 := by
  induction balanced with
  | empty => rfl
  | take ledger other before free ih =>
      rw [acquisitions_taken, releases_taken, ih, free]
      simp [Ledger.owner]
  | give ledger other releaser before owned ih =>
      rw [acquisitions_given, releases_given, ih, owned]
      simp [Ledger.owner]

end Counts

theorem given_follows (ledger later earlier : Ledger κ ρ) (key : κ) (releaser : ρ)
    (balanced : ledger.Balanced) (shape : ledger = later ++ .given key releaser :: earlier) :
    ∃ rest, earlier = .taken key :: rest := by
  induction balanced generalizing later with
  | empty => simp at shape
  | take ledger other before free ih =>
      cases later with
      | nil => cases shape
      | cons head tail =>
          cases shape
          exact ih tail rfl
  | give ledger other by_whom before owned ih =>
      cases later with
      | nil =>
          cases shape
          exact owner_head _ key owned
      | cons head tail =>
          cases shape
          exact ih tail rfl

end SchwabGateway.Library
