import Mathlib.Init

set_option autoImplicit false

namespace SchwabGateway.Library

-- Code that may put questions to its surroundings before it returns or raises.
inductive Script (Query : Type) (Reply : Query → Type) (ε α : Type) where
  | returns (value : α)
  | raises (error : ε)
  | ask (query : Query) (next : Reply query → Script Query Reply ε α)

namespace Script

variable {Query : Type} {Reply : Query → Type} {ε φ σ τ α β : Type}

-- try, except and else: what handler and next raise is not caught.
def attempt (handler : ε → Script Query Reply φ β) (next : α → Script Query Reply φ β) :
    Script Query Reply ε α → Script Query Reply φ β
  | .returns value => next value
  | .raises error => handler error
  | .ask query rest => .ask query (fun reply => attempt handler next (rest reply))

def run (answer : (query : Query) → σ → Reply query × σ) : Script Query Reply ε α → σ → Except ε α × σ
  | .returns value, state => (.ok value, state)
  | .raises error, state => (.error error, state)
  | .ask query next, state => run answer (next (answer query state).1) (answer query state).2

section Runs

variable (answer : (query : Query) → σ → Reply query × σ)

theorem run_attempt (handler : ε → Script Query Reply φ β) (next : α → Script Query Reply φ β)
    (script : Script Query Reply ε α) (state : σ) :
    run answer (script.attempt handler next) state =
      match run answer script state with
      | (.ok value, after) => run answer (next value) after
      | (.error error, after) => run answer (handler error) after := by
  induction script generalizing state with
  | returns value => rfl
  | raises error => rfl
  | ask query rest ih => exact ih (answer query state).1 (answer query state).2

end Runs

end Script

end SchwabGateway.Library
