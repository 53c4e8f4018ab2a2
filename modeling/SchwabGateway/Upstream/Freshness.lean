import Mathlib.Data.NNRat.Defs
import SchwabGateway.Python.Time

set_option autoImplicit false

namespace SchwabGateway.Upstream

open SchwabGateway.Python

-- The fields by which every model of a read says how old it is. An age is
-- never negative.
structure Freshness where
  eventTimestamp : Option Datetime
  ageSeconds : Option ℚ≥0
  stale : Bool
  dataQualityFlags : List String
deriving DecidableEq

-- max(0.0, (at - event_timestamp).total_seconds()).
def ageSeconds (eventTimestamp : Option Datetime) (at_ : Datetime) : Option ℚ≥0 :=
  eventTimestamp.map fun event => (totalSeconds (at_ - event)).toNNRat

def tooOld (staleAfterSeconds : PyFloat) : Option ℚ≥0 → Bool
  | none => true
  | some age => PyFloat.lt staleAfterSeconds (.finite age)

def freshness (eventTimestamp : Option Datetime) (at_ : Datetime) (staleAfterSeconds : PyFloat) :
    Option ℚ≥0 × Bool :=
  let age := ageSeconds eventTimestamp at_
  (age, tooOld staleAfterSeconds age)

def flagIf (condition : Bool) (flag : String) : List String := if condition then [flag] else []

-- _with_refreshed_freshness, on the fields that it replaces.
def Freshness.refreshed (model : Freshness) (evaluatedAt : Datetime) (staleAfterSeconds : PyFloat) :
    Freshness :=
  let (age, stale) := freshness model.eventTimestamp evaluatedAt staleAfterSeconds
  { model with
    ageSeconds := age
    stale := stale
    dataQualityFlags := model.dataQualityFlags.filter (· ≠ "stale") ++ flagIf stale "stale" }

def Freshness.evaluated (eventTimestamp : Option Datetime) (flags : List String) (at_ : Datetime)
    (staleAfterSeconds : PyFloat) : Freshness :=
  let (age, stale) := freshness eventTimestamp at_ staleAfterSeconds
  { eventTimestamp := eventTimestamp
    ageSeconds := age
    stale := stale
    dataQualityFlags := flags ++ flagIf stale "stale" }

theorem mem_flag_if (condition : Bool) (flag name : String) :
    name ∈ flagIf condition flag ↔ condition = true ∧ name = flag := by
  cases condition with
  | false => simp [flagIf]
  | true => simp [flagIf]

-- Dropping a flag and adding it again forgets when it was added before.
theorem filter_flags (flags : List String) (condition : Bool) (flag : String) (absent : flag ∉ flags) :
    (flags ++ flagIf condition flag).filter (· ≠ flag) = flags := by
  have kept : flags.filter (· ≠ flag) = flags := by
    apply List.filter_eq_self.mpr
    intro name member
    exact decide_eq_true (fun same => absent (same ▸ member))
  rw [List.filter_append, kept]
  cases condition with
  | false => simp [flagIf]
  | true => simp [flagIf]

theorem evaluated_refreshed (eventTimestamp : Option Datetime) (flags : List String)
    (first second : Datetime) (threshold : PyFloat) (absent : "stale" ∉ flags) :
    (Freshness.evaluated eventTimestamp flags first threshold).refreshed second threshold =
      Freshness.evaluated eventTimestamp flags second threshold := by
  have kept := filter_flags flags (tooOld threshold (ageSeconds eventTimestamp first)) "stale" absent
  simp only [Freshness.refreshed, Freshness.evaluated, freshness, kept]

theorem evaluated_stale_flag (eventTimestamp : Option Datetime) (flags : List String) (at_ : Datetime)
    (threshold : PyFloat) (absent : "stale" ∉ flags) :
    "stale" ∈ (Freshness.evaluated eventTimestamp flags at_ threshold).dataQualityFlags ↔
      (Freshness.evaluated eventTimestamp flags at_ threshold).stale = true := by
  simp only [Freshness.evaluated, List.mem_append, mem_flag_if, and_true]
  constructor
  · rintro (member | stale)
    · exact absurd member absent
    · exact stale
  · exact .inr

end SchwabGateway.Upstream
