import SchwabGateway.Library.Uncaught
import SchwabGateway.Upstream.SessionHistory

set_option autoImplicit false

namespace SchwabGateway.Upstream

open SchwabGateway.Library SchwabGateway.Python

-- What passes every except ValueError.
abbrev Escapes {α : Type} (outcome : Result α) : Prop := Uncaught Raised.isValueError outcome

abbrev Reads {α : Type} (fault : Bool) (outcome : Result α) : Prop :=
  Settles Raised.isValueError fault outcome

def huge : PyValue → Bool
  | .int number => decide (floatLimit ≤ number.natAbs)
  | _ => false

def infinite : PyValue → Bool
  | .float .infinity => true
  | .float .negInfinity => true
  | _ => false

def late (millis : Int) : Bool := decide (gmtimeMillis ≤ millis)

theorem overflow_escapes {α : Type} (fault : Bool) (extreme : fault = true) :
    Reads fault (.error .overflowError : Result α) := .inl ⟨extreme, .overflowError, rfl, rfl⟩

theorem reads_ok {α : Type} (fault : Bool) (plain : fault = false) (value : α) :
    Reads fault (.ok value) := .inr ⟨plain, value, rfl⟩

variable (literals : Literals)

theorem number_reads (payload : Payload) (name : String) :
    Reads (huge (PyValue.get payload name)) (number literals payload name) := by
  unfold number
  cases PyValue.get payload name with
  | int value =>
      dsimp only [toFloat, floatOfInt]
      by_cases small : value.natAbs < floatLimit
      · rw [if_pos small]
        exact reads_ok _ (decide_eq_false (Nat.not_le.mpr small)) _
      · rw [if_neg small]
        exact overflow_escapes _ (decide_eq_true (Nat.not_lt.mp small))
  | str text =>
      dsimp only [toFloat]
      cases literals.float text with
      | none => exact settles_ok none
      | some value => exact settles_ok (some value)
  | none => exact settles_ok none
  | bool flag => exact settles_ok _
  | float value => exact settles_ok _
  | list items => exact settles_ok none
  | dict entries => exact settles_ok none
  | object => exact settles_ok none

theorem integer_reads (payload : Payload) (name : String) :
    Reads (infinite (PyValue.get payload name)) (integer literals payload name) := by
  unfold integer
  cases PyValue.get payload name with
  | float number =>
      cases number with
      | finite value => exact settles_ok _
      | nan => exact settles_ok none
      | infinity => exact overflow_escapes _ rfl
      | negInfinity => exact overflow_escapes _ rfl
  | str text =>
      dsimp only [toInt]
      cases literals.int text with
      | none => exact settles_ok none
      | some value => exact settles_ok (some value)
  | none => exact settles_ok none
  | bool flag => exact settles_ok _
  | int value => exact settles_ok _
  | list items => exact settles_ok none
  | dict entries => exact settles_ok none
  | object => exact settles_ok none

theorem timestamp_escapes_iff (millis : Int) : Escapes (timestamp millis) ↔ late millis = true := by
  unfold timestamp late
  have early : datetimeMillis < gmtimeMillis := by decide
  by_cases dated : millis < datetimeMillis
  · simp [Uncaught, from_millis_dated millis dated, not_le.mpr (lt_trans dated early)]
  · by_cases named : millis < gmtimeMillis
    · simp [Uncaught, from_millis_named millis dated named, named, Raised.isValueError]
    · rw [decide_eq_true (not_lt.mp named)]
      rcases from_millis_unnamed millis named with error | error
      · simp [Uncaught, error, Raised.isValueError]
      · simp [Uncaught, error, Raised.isValueError]

theorem drop_invalid_reads {α : Type} (fault : Bool) (outcome : Result α)
    (escapes : Escapes outcome ↔ fault = true) : Reads fault (dropInvalid outcome) := by
  cases outcome with
  | ok value =>
      have plain : fault = false := by
        simpa using mt escapes.mpr (ok_not_uncaught _ value)
      exact reads_ok fault plain _
  | error error =>
      unfold Escapes at escapes
      rw [uncaught_error] at escapes
      cases caught : error.isValueError with
      | true =>
          rw [dropInvalid, if_pos caught]
          exact reads_ok fault (by simpa [caught] using escapes) _
      | false =>
          rw [dropInvalid, if_neg (by simp [caught])]
          exact .inl ⟨escapes.mp caught, error, rfl, caught⟩

section Candles

def readInteger (payload : Payload) (name : String) : Option Int :=
  (integer literals payload name).toOption.join

def readNumber (payload : Payload) (name : String) : Option PyFloat :=
  (number literals payload name).toOption.join

def candlePrices : List String := ["open", "high", "low", "close"]

def extremeFields (candle : Payload) : Bool :=
  infinite (PyValue.get candle "datetime") || candlePrices.any (fun name => huge (PyValue.get candle name)) ||
    infinite (PyValue.get candle "volume")

def lateCandle (candle : Payload) : Bool :=
  (readInteger literals candle "datetime").any late &&
    candlePrices.all (fun name => (readNumber literals candle name).isSome) &&
    (readInteger literals candle "volume").isSome

def extremeCandle : PyValue → Bool
  | .dict candle => extremeFields candle || lateCandle literals candle
  | _ => false

theorem bar_validated_escapes_iff (millis : Int) (open_ high low close : PyFloat) (volume : Int) :
    Escapes (do let at_ ← timestamp millis
                PriceBarV1.validated at_ open_ high low close volume) ↔ late millis = true := by
  rw [← timestamp_escapes_iff]
  unfold Escapes
  rw [uncaught_bind_iff]
  constructor
  · rintro (raised | ⟨at_, _, error, invalid, uncaught⟩)
    · exact raised
    · unfold PriceBarV1.validated at invalid
      split at invalid
      · cases invalid
      · cases invalid
        cases uncaught
  · exact .inl

theorem late_positive (millis : Int) (positive : ¬ 0 < millis) : late millis = false := by
  have limit : 0 < gmtimeMillis := by decide
  exact decide_eq_false (not_le.mpr (lt_of_le_of_lt (not_lt.mp positive) limit))

theorem bar_reads (candle : PyValue) : Reads (extremeCandle literals candle) (barFromCandle literals candle) := by
  cases candle with
  | dict candle =>
      unfold barFromCandle extremeCandle extremeFields lateCandle readInteger readNumber candlePrices
      simp only [List.any_cons, List.any_nil, List.all_cons, List.all_nil, Bool.or_false, Bool.or_assoc]
      apply settles_bind _ _ _ _ (integer_reads literals candle "datetime")
      intro millis millisRead
      apply settles_bind _ _ _ _ (number_reads literals candle "open")
      intro open_ openRead
      apply settles_bind _ _ _ _ (number_reads literals candle "high")
      intro high highRead
      apply settles_bind _ _ _ _ (number_reads literals candle "low")
      intro low lowRead
      apply settles_bind _ _ _ _ (number_reads literals candle "close")
      intro close closeRead
      apply settles_bind _ _ _ _ (integer_reads literals candle "volume")
      intro volume volumeRead
      simp only [millisRead, openRead, highRead, lowRead, closeRead, volumeRead, Except.toOption,
        Option.join_some]
      split
      · rename_i millis open_ high low close volume
        split
        · rename_i early
          exact reads_ok _ (by simp [late_positive millis (not_lt.mpr early)]) none
        · exact drop_invalid_reads _ _ (by simpa using bar_validated_escapes_iff millis open_ high low close volume)
      · rename_i missing
        refine reads_ok _ (Bool.eq_false_iff.mpr fun complete => ?_) none
        simp only [Bool.and_eq_true, Option.any_eq_true, Option.isSome_iff_exists] at complete
        obtain ⟨⟨⟨_, rfl, _⟩, ⟨_, rfl⟩, ⟨_, rfl⟩, ⟨_, rfl⟩, ⟨_, rfl⟩, _⟩, ⟨_, rfl⟩⟩ := complete
        exact missing _ _ _ _ _ _ rfl rfl rfl rfl rfl rfl
  | _ => exact settles_ok none

end Candles

end SchwabGateway.Upstream
