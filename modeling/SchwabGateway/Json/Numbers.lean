import Mathlib.Data.List.TakeWhile
import Mathlib.Data.Nat.Digits.Lemmas
import SchwabGateway.Python.Text

set_option autoImplicit false

namespace SchwabGateway.Json

open SchwabGateway.Python

def minus : CodePoint := 0x2D
def plus : CodePoint := 0x2B
def decimalPoint : CodePoint := 0x2E
def zero : CodePoint := 0x30

def isDigit (character : CodePoint) : Bool := 48 ≤ character.val && character.val ≤ 57

def isExponent (character : CodePoint) : Bool := character = 0x65 || character = 0x45

def digitPoint (digit : Nat) : CodePoint := Fin.ofNat 0x110000 (48 + digit)

def decimal (value : Nat) : Text :=
  if value = 0 then [zero] else (Nat.digits 10 value).reverse.map digitPoint

def numeral (digits : Text) : Nat := digits.foldl (fun value digit => value * 10 + (digit.val - 48)) 0

-- int.__repr__ without its limit.
def intText (value : Int) : Text := (if value < 0 then [minus] else []) ++ decimal value.natAbs

-- sys.get_int_max_str_digits().
def digitLimit : Nat := 4300

-- What the number pattern finds: a whole number, or a number with a fraction
-- or an exponent and its text.
inductive NumberText where
  | int (negative : Bool) (digits : Text)
  | float (text : Text)
deriving DecidableEq

def takeSign : Text → Text × Text
  | [] => ([], [])
  | first :: rest => if first = minus then ([minus], rest) else ([], first :: rest)

def takeWhole : Text → Option (Text × Text)
  | [] => none
  | first :: rest =>
      if first = zero then some ([zero], rest)
      else if isDigit first then some (first :: rest.takeWhile isDigit, rest.dropWhile isDigit)
      else none

def takeFraction : Text → Text × Text
  | [] => ([], [])
  | first :: rest =>
      if first = decimalPoint ∧ rest.takeWhile isDigit ≠ [] then
        (decimalPoint :: rest.takeWhile isDigit, rest.dropWhile isDigit)
      else ([], first :: rest)

def takeExponentSign : Text → Text × Text
  | [] => ([], [])
  | first :: rest => if first = minus ∨ first = plus then ([first], rest) else ([], first :: rest)

def takeExponent : Text → Text × Text
  | [] => ([], [])
  | first :: rest =>
      if isExponent first ∧ (takeExponentSign rest).2.takeWhile isDigit ≠ [] then
        (first :: (takeExponentSign rest).1 ++ (takeExponentSign rest).2.takeWhile isDigit,
          (takeExponentSign rest).2.dropWhile isDigit)
      else ([], first :: rest)

def numberText (sign whole fraction exponent : Text) : NumberText :=
  if fraction = [] ∧ exponent = [] then .int (sign ≠ []) whole else .float (sign ++ whole ++ fraction ++ exponent)

def scanNumber (text : Text) : Option (NumberText × Text) :=
  match takeWhole (takeSign text).2 with
  | none => none
  | some (whole, after) =>
      some (numberText (takeSign text).1 whole (takeFraction after).1 (takeExponent (takeFraction after).2).1,
        (takeExponent (takeFraction after).2).2)

def isNumberPart (character : CodePoint) : Bool :=
  isDigit character || character = minus || character = plus || character = decimalPoint || isExponent character

def EndsNumber (rest : Text) : Prop := ∀ character ∈ rest.head?, isNumberPart character = false

section Digits

theorem digit_point_val (digit : Nat) (small : digit < 10) : (digitPoint digit).val = 48 + digit := by
  rw [digitPoint, Fin.val_ofNat]
  omega

theorem digit_point_digit (digit : Nat) (small : digit < 10) : isDigit (digitPoint digit) = true := by
  rw [isDigit, digit_point_val digit small, Bool.and_eq_true, decide_eq_true_eq, decide_eq_true_eq]
  omega

theorem decimal_digits (value : Nat) : ∀ digit ∈ decimal value, isDigit digit = true := by
  intro digit member
  rw [decimal] at member
  by_cases none : value = 0
  · rw [if_pos none, List.mem_singleton] at member
    rw [member]
    decide
  · rw [if_neg none, List.mem_map] at member
    obtain ⟨number, inDigits, rfl⟩ := member
    exact digit_point_digit number (Nat.digits_lt_base (by omega) (List.mem_reverse.mp inDigits))

theorem numeral_decimal (value : Nat) : numeral (decimal value) = value := by
  rw [decimal]
  by_cases none : value = 0
  · rw [if_pos none, none]
    rfl
  · rw [if_neg none, numeral, List.foldl_map]
    have steps : ∀ digits : List Nat, (∀ digit ∈ digits, digit < 10) →
        digits.reverse.foldl (fun value digit => value * 10 + ((digitPoint digit).val - 48)) 0 =
          Nat.ofDigits 10 digits := by
      intro digits small
      induction digits with
      | nil => rfl
      | cons digit rest ih =>
          rw [List.reverse_cons, List.foldl_append, ih fun other member => small other (List.mem_cons_of_mem _ member),
            List.foldl_cons, List.foldl_nil, digit_point_val digit (small digit List.mem_cons_self),
            Nat.ofDigits_cons]
          omega
    rw [steps _ fun digit member => Nat.digits_lt_base (by omega) member, Nat.ofDigits_digits]

theorem decimal_cases (value : Nat) :
    decimal value = [zero] ∨ ∃ first rest, decimal value = first :: rest ∧ first ≠ zero ∧ isDigit first = true ∧
      ∀ digit ∈ rest, isDigit digit = true := by
  by_cases none : value = 0
  · exact .inl (if_pos none)
  · have nonempty : Nat.digits 10 value ≠ [] := Nat.digits_ne_nil_iff_ne_zero.mpr none
    have whole : decimal value = digitPoint ((Nat.digits 10 value).getLast nonempty) ::
        (Nat.digits 10 value).dropLast.reverse.map digitPoint := by
      rw [decimal, if_neg none]
      conv_lhs => rw [← List.dropLast_append_getLast nonempty]
      rw [List.reverse_append, List.reverse_singleton, List.singleton_append, List.map_cons]
    refine .inr ⟨_, _, whole, ?_, ?_⟩
    · have leading : (Nat.digits 10 value).getLast nonempty ≠ 0 := Nat.getLast_digit_ne_zero 10 none
      have small := Nat.digits_lt_base (b := 10) (by omega) (List.getLast_mem nonempty)
      intro same
      have vals := congrArg Fin.val same
      rw [digit_point_val _ small] at vals
      change 48 + _ = 48 at vals
      omega
    · have all := decimal_digits value
      rw [whole] at all
      exact List.forall_mem_cons.mp all

end Digits

section Scanning

theorem ends_not_digit (character : CodePoint) (rest : Text) (ends : EndsNumber (character :: rest)) :
    isDigit character = false ∧ character ≠ minus ∧ character ≠ plus ∧ character ≠ decimalPoint ∧
      isExponent character = false := by
  have apart := ends character rfl
  simpa [isNumberPart, and_assoc] using apart

variable (rest : Text) (ends : EndsNumber rest)

include ends

theorem take_digits_append (text : Text) :
    (text ++ rest).takeWhile isDigit = text.takeWhile isDigit ∧
      (text ++ rest).dropWhile isDigit = text.dropWhile isDigit ++ rest := by
  induction text with
  | nil =>
      cases rest with
      | nil => exact ⟨rfl, rfl⟩
      | cons character others =>
          have apart := (ends_not_digit character others ends).1
          simp [apart]
  | cons first others ih =>
      cases digit : isDigit first with
      | true => simp [digit, ih]
      | false => simp [digit]

theorem take_sign_append (text : Text) : takeSign (text ++ rest) = ((takeSign text).1, (takeSign text).2 ++ rest) := by
  cases text with
  | nil =>
      cases rest with
      | nil => rfl
      | cons character others =>
          obtain ⟨_, notMinus, _⟩ := ends_not_digit character others ends
          simp [takeSign, notMinus]
  | cons first others =>
      by_cases sign : first = minus
      · simp [takeSign, sign]
      · simp [takeSign, sign]

theorem take_whole_append (text : Text) :
    takeWhole (text ++ rest) = (takeWhole text).map (fun taken => (taken.1, taken.2 ++ rest)) := by
  cases text with
  | nil =>
      cases rest with
      | nil => rfl
      | cons character others =>
          have apart := (ends_not_digit character others ends).1
          have notZero : character ≠ zero := by
            rintro rfl
            cases apart
          simp [takeWhole, apart, notZero]
  | cons first others =>
      obtain ⟨taken, dropped⟩ := take_digits_append rest ends others
      by_cases leading : first = zero
      · simp [takeWhole, leading]
      · cases digit : isDigit first with
        | true => simp [takeWhole, leading, digit, taken, dropped]
        | false => simp [takeWhole, leading, digit]

theorem take_fraction_append (text : Text) :
    takeFraction (text ++ rest) = ((takeFraction text).1, (takeFraction text).2 ++ rest) := by
  cases text with
  | nil =>
      cases rest with
      | nil => rfl
      | cons character others =>
          obtain ⟨_, _, _, notPoint, _⟩ := ends_not_digit character others ends
          simp [takeFraction, notPoint]
  | cons first others =>
      obtain ⟨taken, dropped⟩ := take_digits_append rest ends others
      rw [List.cons_append, takeFraction, takeFraction, taken, dropped]
      by_cases fraction : first = decimalPoint ∧ others.takeWhile isDigit ≠ []
      · rw [if_pos fraction, if_pos fraction]
      · rw [if_neg fraction, if_neg fraction, List.cons_append]

theorem take_exponent_sign_append (text : Text) :
    takeExponentSign (text ++ rest) = ((takeExponentSign text).1, (takeExponentSign text).2 ++ rest) := by
  cases text with
  | nil =>
      cases rest with
      | nil => rfl
      | cons character others =>
          obtain ⟨_, notMinus, notPlus, _⟩ := ends_not_digit character others ends
          simp [takeExponentSign, notMinus, notPlus]
  | cons first others =>
      rw [List.cons_append, takeExponentSign, takeExponentSign]
      by_cases sign : first = minus ∨ first = plus
      · rw [if_pos sign, if_pos sign]
      · rw [if_neg sign, if_neg sign, List.cons_append]

theorem take_exponent_append (text : Text) :
    takeExponent (text ++ rest) = ((takeExponent text).1, (takeExponent text).2 ++ rest) := by
  cases text with
  | nil =>
      cases rest with
      | nil => rfl
      | cons character others =>
          obtain ⟨_, _, _, _, notExponent⟩ := ends_not_digit character others ends
          simp [takeExponent, notExponent]
  | cons first others =>
      have sign := take_exponent_sign_append rest ends others
      obtain ⟨taken, dropped⟩ := take_digits_append rest ends (takeExponentSign others).2
      rw [List.cons_append, takeExponent, takeExponent, sign, taken, dropped]
      by_cases exponent : isExponent first ∧ (takeExponentSign others).2.takeWhile isDigit ≠ []
      · rw [if_pos exponent, if_pos exponent]
      · rw [if_neg exponent, if_neg exponent, List.cons_append]

theorem scan_number_append (text : Text) :
    scanNumber (text ++ rest) = (scanNumber text).map (fun scanned => (scanned.1, scanned.2 ++ rest)) := by
  rw [scanNumber, scanNumber, take_sign_append rest ends, take_whole_append rest ends]
  cases takeWhole (takeSign text).2 with
  | none => rfl
  | some taken =>
      obtain ⟨whole, after⟩ := taken
      simp only [Option.map_some]
      rw [take_fraction_append rest ends, take_exponent_append rest ends]

end Scanning

theorem take_whole_decimal (value : Nat) : takeWhole (decimal value) = some (decimal value, []) := by
  obtain none | ⟨first, rest, whole, leading, digit, digits⟩ := decimal_cases value
  · rw [none]
    rfl
  · rw [whole, takeWhole, if_neg leading, if_pos digit, List.takeWhile_eq_self_iff.mpr digits,
      List.dropWhile_eq_nil_iff.mpr digits]

theorem take_sign_int (value : Int) :
    takeSign (intText value) = ((if value < 0 then [minus] else []), decimal value.natAbs) := by
  rw [intText]
  by_cases negative : value < 0
  · rw [if_pos negative]
    rfl
  · rw [if_neg negative, List.nil_append]
    have unsigned : minus ∉ (decimal value.natAbs).head? := by
      intro first
      have digit := decimal_digits value.natAbs minus (List.mem_of_mem_head? first)
      cases digit
    cases digits : decimal value.natAbs with
    | nil => rfl
    | cons first rest =>
        rw [digits] at unsigned
        have other : first ≠ minus := fun same => unsigned (same ▸ rfl)
        rw [takeSign, if_neg other]

theorem scan_int_text (value : Int) :
    scanNumber (intText value) = some (.int (value < 0) (decimal value.natAbs), []) := by
  rw [scanNumber, take_sign_int, take_whole_decimal]
  by_cases negative : value < 0
  · simp [takeFraction, takeExponent, numberText, negative]
  · simp [takeFraction, takeExponent, numberText, negative]

end SchwabGateway.Json
