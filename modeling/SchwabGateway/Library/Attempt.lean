import Mathlib.Init

set_option autoImplicit false

namespace SchwabGateway.Library

-- Code that may raise: the state it reached is there on both ways out.
abbrev Attempt (ε σ α : Type) := ExceptT ε (StateM σ) α

namespace Attempt

variable {ε σ α β : Type}

theorem bind_run (first : Attempt ε σ α) (next : α → Attempt ε σ β) (before : σ) :
    (first >>= next) before =
      match first before with
      | (.ok value, after) => next value after
      | (.error error, after) => (.error error, after) := by
  change ExceptT.bindCont next (first before).1 (first before).2 = _
  cases first before with
  | mk result after =>
      cases result with
      | ok value => rfl
      | error error => rfl

theorem bind_returns (first : Attempt ε σ α) (next : α → Attempt ε σ β) (before after : σ)
    (value : α) (returned : first before = (.ok value, after)) :
    (first >>= next) before = next value after := by
  rw [bind_run, returned]

theorem bind_raises (first : Attempt ε σ α) (next : α → Attempt ε σ β) (before after : σ)
    (error : ε) (raised : first before = (.error error, after)) :
    (first >>= next) before = (.error error, after) := by
  rw [bind_run, raised]

end Attempt

end SchwabGateway.Library
