import SchwabGateway.Library.Except

set_option autoImplicit false

namespace SchwabGateway.Library

variable {ε α β : Type} (caught : ε → Bool)

def Uncaught (outcome : Except ε α) : Prop := ∃ error, outcome = .error error ∧ caught error = false

-- The fault decides between a result and an uncaught exception: no third way.
def Settles (fault : Bool) (outcome : Except ε α) : Prop :=
  (fault = true ∧ Uncaught caught outcome) ∨ (fault = false ∧ ∃ value, outcome = .ok value)

theorem uncaught_error (error : ε) :
    Uncaught caught (.error error : Except ε α) ↔ caught error = false := by
  simp [Uncaught]

theorem ok_not_uncaught (value : α) : ¬ Uncaught caught (.ok value : Except ε α) := by
  simp [Uncaught]

theorem uncaught_bind_iff (first : Except ε α) (next : α → Except ε β) :
    Uncaught caught (first >>= next) ↔
      Uncaught caught first ∨ ∃ value, first = .ok value ∧ Uncaught caught (next value) := by
  cases first with
  | error error => simp [Uncaught, bind, Except.bind]
  | ok value => simp [Uncaught, bind, Except.bind]

theorem uncaught_map_error (change : ε → ε) (outcome : Except ε α) :
    Uncaught caught (outcome.mapError change) ↔ Uncaught (fun error => caught (change error)) outcome := by
  cases outcome with
  | error error => simp [Uncaught, Except.mapError]
  | ok value => simp [Uncaught, Except.mapError]

theorem caught_bind (first : Except ε α) (next : α → Except ε β) (one : ¬ Uncaught caught first)
    (two : ∀ value, ¬ Uncaught caught (next value)) : ¬ Uncaught caught (first >>= next) := by
  rw [uncaught_bind_iff]
  rintro (raised | ⟨value, _, raised⟩)
  · exact one raised
  · exact two value raised

variable {caught}

theorem settles_ok (value : α) : Settles caught false (.ok value) := .inr ⟨rfl, value, rfl⟩

theorem settles_bind (fault later : Bool) (first : Except ε α) (next : α → Except ε β)
    (one : Settles caught fault first) (two : ∀ value, first = .ok value → Settles caught later (next value)) :
    Settles caught (fault || later) (first >>= next) := by
  obtain ⟨rfl, raised⟩ | ⟨rfl, value, read⟩ := one
  · exact .inl ⟨rfl, (uncaught_bind_iff caught first next).mpr (.inl raised)⟩
  · rw [Bool.false_or, read]
    exact two value read

theorem settles_then_ok (fault : Bool) (first : Except ε α) (next : α → Except ε β)
    (one : Settles caught fault first) (two : ∀ value, ∃ result, next value = .ok result) :
    Settles caught fault (first >>= next) := by
  rw [← Bool.or_false fault]
  apply settles_bind _ _ _ _ one
  intro value _
  exact .inr ⟨rfl, two value⟩

theorem settles_map_m (faulty : α → Bool) (read : α → Except ε β)
    (each : ∀ item, Settles caught (faulty item) (read item)) (items : List α) :
    Settles caught (items.any faulty) (items.mapM read) := by
  induction items with
  | nil => exact settles_ok []
  | cons item rest ih =>
      rw [List.any_cons, List.mapM_cons, ← Bool.or_false (rest.any _)]
      apply settles_bind _ _ _ _ (each item)
      intro _ _
      apply settles_bind _ _ _ _ ih
      intro _ _
      exact settles_ok _

theorem settles_uncaught_iff (fault : Bool) (outcome : Except ε α) (settles : Settles caught fault outcome) :
    Uncaught caught outcome ↔ fault = true := by
  obtain ⟨rfl, raised⟩ | ⟨rfl, value, read⟩ := settles
  · exact ⟨fun _ => rfl, fun _ => raised⟩
  · rw [read]
    exact ⟨fun raised => absurd raised (ok_not_uncaught caught value), by simp⟩

theorem settles_ok_iff (fault : Bool) (outcome : Except ε α) (settles : Settles caught fault outcome) :
    (∃ value, outcome = .ok value) ↔ fault = false := by
  obtain ⟨rfl, error, raised, _⟩ | ⟨rfl, value, read⟩ := settles
  · simp [raised]
  · simp [read]

-- A computation that can also be refused: by an exception that is caught.
structure Courses (caught : ε → Bool) (fault refused : Bool) (outcome : Except ε α) : Prop where
  uncaught : Uncaught caught outcome ↔ fault = true
  read : (∃ value, outcome = .ok value) ↔ fault = false ∧ refused = false

theorem settles_courses (fault : Bool) (outcome : Except ε α) (settles : Settles caught fault outcome) :
    Courses caught fault false outcome where
  uncaught := settles_uncaught_iff fault outcome settles
  read := by simp [settles_ok_iff fault outcome settles]

theorem courses_ok (value : α) : Courses caught false false (.ok value) :=
  settles_courses false _ (settles_ok value)

theorem courses_bind (fault refused laterFault laterRefused : Bool) (first : Except ε α)
    (next : α → Except ε β) (one : Courses caught fault refused first)
    (two : ∀ value, first = .ok value → Courses caught laterFault laterRefused (next value)) :
    Courses caught (fault || (!refused && laterFault)) (refused || laterRefused) (first >>= next) := by
  cases first with
  | error error =>
      have unread : ¬ (fault = false ∧ refused = false) := by
        simpa using mt one.read.mpr (by simp)
      constructor
      · rw [uncaught_bind_iff, one.uncaught]
        cases fault with
        | true => simp
        | false =>
            have stopped : refused = true := by simpa using unread
            simp [stopped]
      · simp only [bind, Except.bind]
        cases fault with
        | true => simp
        | false =>
            have stopped : refused = true := by simpa using unread
            simp [stopped]
  | ok value =>
      obtain ⟨rfl, rfl⟩ := one.read.mp ⟨value, rfl⟩
      simpa [bind, Except.bind] using two value rfl

theorem courses_after_settles (fault laterFault laterRefused : Bool) (first : Except ε α)
    (next : α → Except ε β) (one : Settles caught fault first)
    (two : ∀ value, first = .ok value → Courses caught laterFault laterRefused (next value)) :
    Courses caught (fault || laterFault) laterRefused (first >>= next) := by
  have whole := courses_bind _ _ _ _ first next (settles_courses fault first one) two
  rwa [Bool.not_false, Bool.true_and, Bool.false_or] at whole

theorem courses_then_settles (fault refused later : Bool) (first : Except ε α) (next : α → Except ε β)
    (one : Courses caught fault refused first)
    (two : ∀ value, first = .ok value → Settles caught later (next value)) :
    Courses caught (fault || (!refused && later)) refused (first >>= next) := by
  have whole := courses_bind _ _ later false first next one
    (fun value read => settles_courses later _ (two value read))
  rwa [Bool.or_false] at whole

theorem courses_then_ok (fault refused : Bool) (first : Except ε α) (next : α → Except ε β)
    (one : Courses caught fault refused first) (two : ∀ value, ∃ result, next value = .ok result) :
    Courses caught fault refused (first >>= next) := by
  have whole := courses_bind _ _ false false first next one (fun value _ => by
    obtain ⟨result, same⟩ := two value
    rw [same]
    exact courses_ok result)
  rwa [Bool.and_false, Bool.or_false, Bool.or_false] at whole

theorem courses_refused (error : ε) (stays : caught error = true) :
    Courses caught false true (.error error : Except ε α) where
  uncaught := by simp [uncaught_error, stays]
  read := by simp

theorem courses_uncaught (refused : Bool) (error : ε) (passes : caught error = false) :
    Courses caught true refused (.error error : Except ε α) where
  uncaught := by simp [uncaught_error, passes]
  read := by simp

theorem courses_map (fault refused : Bool) (outcome : Except ε α) (change : α → β)
    (one : Courses caught fault refused outcome) : Courses caught fault refused (outcome.map change) := by
  cases outcome with
  | error error =>
      constructor
      · rw [← one.uncaught]
        simp [Uncaught, Except.map]
      · rw [← one.read]
        simp [Except.map]
  | ok value =>
      obtain ⟨rfl, rfl⟩ := one.read.mp ⟨value, rfl⟩
      exact courses_ok (change value)

def firstFault (fault refused : α → Bool) : List α → Bool
  | [] => false
  | item :: rest => fault item || (!refused item && firstFault fault refused rest)

theorem courses_map_m (fault refused : α → Bool) (read : α → Except ε β)
    (each : ∀ item, Courses caught (fault item) (refused item) (read item)) (items : List α) :
    Courses caught (firstFault fault refused items) (items.any refused) (items.mapM read) := by
  induction items with
  | nil => exact courses_ok []
  | cons item rest ih =>
      rw [List.mapM_cons, firstFault, List.any_cons]
      apply courses_bind _ _ _ _ _ _ (each item)
      intro first _
      apply courses_then_ok _ _ _ _ ih
      intro others
      exact ⟨first :: others, rfl⟩

theorem uncaught_after_courses (fault refused later : Bool) (first : Except ε α) (next : α → Except ε β)
    (one : Courses caught fault refused first)
    (two : ∀ value, first = .ok value → (Uncaught caught (next value) ↔ later = true)) :
    Uncaught caught (first >>= next) ↔ (fault || (!refused && later)) = true := by
  rw [uncaught_bind_iff, one.uncaught]
  cases fault with
  | true => simp
  | false =>
      rw [Bool.false_or, Bool.and_eq_true, Bool.not_eq_true', or_iff_right (by simp)]
      constructor
      · rintro ⟨value, read, raised⟩
        exact ⟨(one.read.mp ⟨value, read⟩).2, (two value read).mp raised⟩
      · rintro ⟨accepted, raised⟩
        obtain ⟨value, read⟩ := one.read.mpr ⟨rfl, accepted⟩
        exact ⟨value, read, (two value read).mpr raised⟩

theorem uncaught_after_settles (fault later : Bool) (first : Except ε α) (next : α → Except ε β)
    (one : Settles caught fault first)
    (two : ∀ value, first = .ok value → (Uncaught caught (next value) ↔ later = true)) :
    Uncaught caught (first >>= next) ↔ (fault || later) = true := by
  have whole := uncaught_after_courses fault false later first next (settles_courses fault first one) two
  rwa [Bool.not_false, Bool.true_and] at whole

end SchwabGateway.Library
