import SchwabGateway.Scheduler.Outcomes

set_option autoImplicit false

namespace SchwabGateway.Scheduler

variable {α ε : Type}

def State.admitted (s : State α ε) (id : Nat) : Prop := (s.ledger id).admittedAt ≠ none

-- What execute turns away with SchedulerCapacityError: a call it has checked,
-- when it is shut down or the class is full.
def State.refuses (s : State α ε) (args : Arguments) : Prop :=
  ∃ request, validate args = .ok request ∧
    (s.accepting = false ∨ (s.limits request.priority : Int) ≤ s.allocated request.priority)

theorem room_not_refused (s : State α ε) (args : Arguments) (accepting : s.accepting = true)
    (room : ∀ p, s.allocated p < s.limits p) : ¬ s.refuses args := by
  rintro ⟨request, _, shut | full⟩
  · cases accepting.symm.trans shut
  · exact absurd (room request.priority) (not_lt.mpr full)

theorem execute_invalid (s : State α ε) (args : Arguments) (enqueuedAt now : ℚ) (message : String)
    (invalid : validate args = .error message) :
    ((scheduler α ε).perform s (.execute args enqueuedAt now)).callers s.next =
      .ended (.raised (.valueError message)) := by
  simp [scheduler, effect, execute, invalid, endCall, State.setCaller]

theorem execute_refused (s : State α ε) (args : Arguments) (enqueuedAt now : ℚ) (refused : s.refuses args) :
    ∃ message, ((scheduler α ε).perform s (.execute args enqueuedAt now)).callers s.next =
      .ended (.raised (.capacity message)) := by
  obtain ⟨request, valid, reason⟩ := refused
  cases accepting : s.accepting with
  | false =>
      refine ⟨shuttingDown, ?_⟩
      simp [scheduler, effect, execute, valid, accepting, endCall, State.setCaller]
  | true =>
      have full := reason.resolve_left (by simp [accepting])
      exact ⟨capacityUnavailable, execute_full (s.at now) args request enqueuedAt now valid accepting full⟩

theorem execute_admitted (s : State α ε) (args : Arguments) (request : Request) (enqueuedAt now : ℚ)
    (invariant : Invariant s) (valid : validate args = .ok request) (admissible : ¬ s.refuses args) :
    ((scheduler α ε).perform s (.execute args enqueuedAt now)).admitted s.next := by
  have open_ : ¬ (s.accepting = false ∨ (s.limits request.priority : Int) ≤ s.allocated request.priority) :=
    fun reason => admissible ⟨request, valid, reason⟩
  rw [not_or, Bool.not_eq_false, not_le] at open_
  rw [State.admitted, room_admitted s args request enqueuedAt now invariant valid open_.1 open_.2]
  exact nofun

theorem capacity_unadmitted (s : State α ε) (invariant : Invariant s) (id : Nat) (message : String)
    (ended : s.callers id = .ended (.raised (.capacity message))) : ¬ s.admitted id := by
  have owed := consistent_owed s.clock (view s id) (invariant.consistent id) _ ended
  exact not_not.mpr owed

theorem value_error_unadmitted (s : State α ε) (invariant : Invariant s) (id : Nat) (message : String)
    (ended : s.callers id = .ended (.raised (.valueError message))) : ¬ s.admitted id := by
  have owed := consistent_owed s.clock (view s id) (invariant.consistent id) _ ended
  exact not_not.mpr owed

theorem admitted_kept (s t : State α ε) (invariant : Invariant s)
    (reached : (scheduler α ε).Reaches undisturbed s t) (id : Nat) (known : id < s.next) :
    t.admitted id ↔ s.admitted id := by
  have kept : (t.ledger id).admittedAt = (s.ledger id).admittedAt :=
    (keeps_reaches s t invariant reached id known).admittedAt
  rw [State.admitted, State.admitted, kept]

end SchwabGateway.Scheduler
