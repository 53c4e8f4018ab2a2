import SchwabGateway.Library.Attempt
import SchwabGateway.Library.Uncaught

set_option autoImplicit false

namespace SchwabGateway.Library

namespace Attempt

variable {ε σ τ α β : Type}

def raising (error : ε) : Attempt ε σ α := fun before => (.error error, before)

-- try ... finally: the cleanup runs on both ways out, and what it raises
-- replaces what was under way.
def ensuring (body : Attempt ε σ α) (cleanup : Attempt ε σ Unit) : Attempt ε σ α := fun before =>
  match cleanup (body before).2 with
  | (.ok (), after) => ((body before).1, after)
  | (.error error, after) => (.error error, after)

-- try ... except: the handler may return, raise again or raise another.
def rescuing (body : Attempt ε σ α) (handler : ε → Attempt ε σ α) : Attempt ε σ α := fun before =>
  match body before with
  | (.ok value, after) => (.ok value, after)
  | (.error error, after) => handler error after

def focus (get : τ → σ) (put : τ → σ → τ) (body : Attempt ε σ α) : Attempt ε τ α := fun before =>
  ((body (get before)).1, put before (body (get before)).2)

def guarded (test : σ → Bool) (body : Attempt ε σ Unit) : Attempt ε σ Unit := fun before =>
  if test before then body before else (.ok (), before)

def update (change : σ → σ) : Attempt ε σ Unit := fun before => (.ok (), change before)

def reading (result : σ → Except ε α) : Attempt ε σ α := fun before => (result before, before)

section Results

theorem bind_update (change : σ → σ) (next : Unit → Attempt ε σ β) (before : σ) :
    (update change >>= next) before = next () (change before) := rfl

theorem bind_reading (result : σ → Except ε α) (next : α → Attempt ε σ β) (before : σ) (value : α)
    (read : result before = .ok value) : (reading result >>= next) before = next value before :=
  bind_returns (reading result) next before before value (by rw [reading, read])

variable (body : Attempt ε σ α) (before : σ)

theorem bind_result (next : α → Attempt ε σ β) :
    ((body >>= next) before).1 = (body before).1 >>= fun value => (next value (body before).2).1 := by
  rw [bind_run]
  cases body before with
  | mk result after =>
      cases result with
      | ok value => rfl
      | error error => rfl

theorem ensuring_result (cleanup : Attempt ε σ Unit) :
    (body.ensuring cleanup before).1 = (cleanup (body before).2).1 >>= fun _ => (body before).1 := by
  rw [ensuring]
  cases cleanup (body before).2 with
  | mk result after =>
      cases result with
      | ok value => rfl
      | error error => rfl

theorem ensuring_state (cleanup : Attempt ε σ Unit) :
    (body.ensuring cleanup before).2 = (cleanup (body before).2).2 := by
  rw [ensuring]
  cases cleanup (body before).2 with
  | mk result after =>
      cases result with
      | ok value => rfl
      | error error => rfl

theorem ensuring_quiet (cleanup : Attempt ε σ Unit) (after : σ)
    (quiet : cleanup (body before).2 = (.ok (), after)) :
    body.ensuring cleanup before = ((body before).1, after) := by
  rw [ensuring, quiet]

theorem ensuring_raises (cleanup : Attempt ε σ Unit) (error : ε) (after : σ)
    (raised : cleanup (body before).2 = (.error error, after)) :
    body.ensuring cleanup before = (.error error, after) := by
  rw [ensuring, raised]

theorem rescuing_returns (handler : ε → Attempt ε σ α) (value : α) (after : σ)
    (returned : body before = (.ok value, after)) : body.rescuing handler before = (.ok value, after) := by
  rw [rescuing, returned]

theorem rescuing_raises (handler : ε → Attempt ε σ α) (error : ε) (after : σ)
    (raised : body before = (.error error, after)) : body.rescuing handler before = handler error after := by
  rw [rescuing, raised]

theorem bind_returned (next : α → Attempt ε σ β) (value : β) (after : σ)
    (returned : (body >>= next) before = (.ok value, after)) :
    ∃ middle state, body before = (.ok middle, state) ∧ next middle state = (.ok value, after) := by
  rw [bind_run] at returned
  cases run : body before with
  | mk result state =>
      rw [run] at returned
      cases result with
      | ok middle => exact ⟨middle, state, rfl, returned⟩
      | error error => cases returned

theorem ensuring_returned (cleanup : Attempt ε σ Unit) (value : α) (after : σ)
    (returned : body.ensuring cleanup before = (.ok value, after)) :
    ∃ state, body before = (.ok value, state) ∧ cleanup state = (.ok (), after) := by
  rw [ensuring] at returned
  cases cleaned : cleanup (body before).2 with
  | mk result left =>
      rw [cleaned] at returned
      cases result with
      | error error => cases returned
      | ok done =>
          rw [Prod.mk.injEq] at returned
          exact ⟨(body before).2, Prod.ext returned.1 rfl, cleaned.trans (by rw [returned.2])⟩

end Results

theorem rescuing_map (body : Attempt ε σ α) (change : ε → ε) (before : σ) :
    body.rescuing (fun error => raising (change error)) before =
      ((body before).1.mapError change, (body before).2) := by
  rw [rescuing]
  cases body before with
  | mk result after =>
      cases result with
      | ok value => rfl
      | error error => rfl

def Keeps {γ : Type} (part : σ → γ) (body : Attempt ε σ α) : Prop := ∀ before, part (body before).2 = part before

theorem guarded_passes (test : σ → Bool) (body : Attempt ε σ Unit) (before : σ) (passes : test before = true) :
    guarded test body before = body before := if_pos passes

theorem guarded_skips (test : σ → Bool) (body : Attempt ε σ Unit) (before : σ) (skips : test before = false) :
    guarded test body before = (.ok (), before) := if_neg (by simp [skips])

theorem guarded_settles (names : ε → Bool) (fault : Bool) (test : σ → Bool) (body : Attempt ε σ Unit) (before : σ)
    (one : Settles names fault (body before).1) :
    Settles names (test before && fault) (guarded test body before).1 := by
  cases tested : test before with
  | true =>
      rw [guarded_passes test body before tested]
      exact one
  | false =>
      rw [guarded_skips test body before tested]
      exact settles_ok ()

section Keeping

variable {γ : Type} (part : σ → γ) (body : Attempt ε σ α) (kept : Keeps part body)

include kept

theorem keeps_bind (next : α → Attempt ε σ β) (two : ∀ value, Keeps part (next value)) :
    Keeps part (body >>= next) := by
  intro before
  rw [bind_run]
  have one := kept before
  cases run : body before with
  | mk result after =>
      rw [run] at one
      cases result with
      | ok value => exact (two value after).trans one
      | error error => exact one

theorem keeps_ensuring (cleanup : Attempt ε σ Unit) (two : Keeps part cleanup) :
    Keeps part (body.ensuring cleanup) := by
  intro before
  rw [ensuring_state]
  exact (two _).trans (kept before)

theorem keeps_rescuing (handler : ε → Attempt ε σ α) (two : ∀ error, Keeps part (handler error)) :
    Keeps part (body.rescuing handler) := by
  intro before
  rw [rescuing]
  have one := kept before
  cases run : body before with
  | mk result after =>
      rw [run] at one
      cases result with
      | ok value => exact one
      | error error => exact (two error after).trans one

end Keeping

theorem keeps_guarded {γ : Type} (part : σ → γ) (test : σ → Bool) (body : Attempt ε σ Unit) (kept : Keeps part body) :
    Keeps part (guarded test body) := by
  intro before
  cases tested : test before with
  | true =>
      rw [guarded_passes test body before tested]
      exact kept before
  | false => rw [guarded_skips test body before tested]

theorem keeps_reading {γ : Type} (part : σ → γ) (result : σ → Except ε α) : Keeps part (reading result) :=
  fun _ => rfl

def Runs (names : ε → Bool) (fault refused : Bool) (body : Attempt ε σ α) : Prop :=
  ∀ before, Courses names fault refused (body before).1

section Endings

variable (names : ε → Bool) (fault refused laterFault laterRefused : Bool)

theorem runs_reading (result : Except ε α) (one : Courses names fault refused result) :
    Runs names fault refused (reading fun _ : σ => result) := fun _ => one

theorem runs_bind (body : Attempt ε σ α) (next : α → Attempt ε σ β) (one : Runs names fault refused body)
    (two : ∀ value, Runs names laterFault laterRefused (next value)) :
    Runs names (fault || (!refused && laterFault)) (refused || laterRefused) (body >>= next) := by
  intro before
  rw [bind_result]
  exact courses_bind _ _ _ _ _ _ (one before) (fun value _ => two value _)

theorem runs_ensuring (body : Attempt ε σ α) (cleanup : Attempt ε σ Unit)
    (one : Runs names fault refused cleanup) (two : Runs names laterFault laterRefused body) :
    Runs names (fault || (!refused && laterFault)) (refused || laterRefused) (body.ensuring cleanup) := by
  intro before
  rw [ensuring_result]
  exact courses_bind _ _ _ _ _ _ (one _) (fun _ _ => two before)

end Endings

def Raises (kind : ε → Prop) (body : Attempt ε σ α) : Prop :=
  ∀ before error, (body before).1 = .error error → kind error

section Kinds

variable (kind : ε → Prop) (body : Attempt ε σ α)

theorem raises_bind (next : α → Attempt ε σ β) (one : Raises kind body)
    (two : ∀ value, Raises kind (next value)) : Raises kind (body >>= next) := by
  intro before error raised
  rw [bind_result] at raised
  cases first : (body before).1 with
  | ok value =>
      rw [first] at raised
      exact two value _ error raised
  | error other =>
      rw [first] at raised
      cases raised
      exact one before _ first

theorem raises_ensuring (cleanup : Attempt ε σ Unit) (one : Raises kind body) (two : Raises kind cleanup) :
    Raises kind (body.ensuring cleanup) := by
  intro before error raised
  rw [ensuring_result] at raised
  cases cleaned : (cleanup (body before).2).1 with
  | ok value =>
      rw [cleaned] at raised
      exact one before error raised
  | error other =>
      rw [cleaned] at raised
      cases raised
      exact two _ _ cleaned

theorem raises_rescuing (other : ε → Prop) (handler : ε → Attempt ε σ α) (one : Raises other body)
    (two : ∀ error, other error → Raises kind (handler error)) : Raises kind (body.rescuing handler) := by
  intro before error raised
  rw [rescuing] at raised
  have first := one before
  cases run : body before with
  | mk result after =>
      rw [run] at raised first
      cases result with
      | ok value => cases raised
      | error error => exact two error (first error rfl) after _ raised

theorem raises_reading (result : σ → Except ε α) (one : ∀ state error, result state = .error error → kind error) :
    Raises kind (reading result) := fun before error raised => one before error raised

theorem raises_update (change : σ → σ) : Raises kind (update change : Attempt ε σ Unit) := nofun

theorem raises_raising (error : ε) (one : kind error) : Raises kind (raising error : Attempt ε σ α) := by
  rintro before other ⟨⟩
  exact one

theorem raises_guarded (test : σ → Bool) (cleanup : Attempt ε σ Unit) (one : Raises kind cleanup) :
    Raises kind (guarded test cleanup) := by
  intro before error raised
  cases tested : test before with
  | true =>
      rw [guarded_passes test cleanup before tested] at raised
      exact one before error raised
  | false =>
      rw [guarded_skips test cleanup before tested] at raised
      cases raised

end Kinds

end Attempt

end SchwabGateway.Library
