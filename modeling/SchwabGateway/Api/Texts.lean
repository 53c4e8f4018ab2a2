import SchwabGateway.Json.Numbers
import SchwabGateway.OrderBook.Book
import SchwabGateway.Python.IsoDate

set_option autoImplicit false

namespace SchwabGateway.Api

open SchwabGateway.Python
open SchwabGateway.Json (digitLimit)
open SchwabGateway.OrderBook (strip)
open SchwabGateway.Upstream (isSpace)

-- str.upper, str.lower, and what int does to the decimals of other scripts
-- before it reads them. What is known of the three is what they do to ASCII.
structure Unicode where
  upper : String → String
  lower : String → String
  decimals : String → String
  upperAscii : ∀ text, isascii text = true → upper text = text.map Char.toUpper
  lowerAscii : ∀ text, isascii text = true → lower text = text.map Char.toLower
  decimalsAscii : ∀ text, isascii text = true → decimals text = text

def asciiUnicode : Unicode where
  upper text := text.map Char.toUpper
  lower text := text.map Char.toLower
  decimals text := text
  upperAscii _ _ := rfl
  lowerAscii _ _ := rfl
  decimalsAscii _ _ := rfl

def ungrouped : List Char → Option (List Char)
  | [] => none
  | c :: rest =>
      if c.isDigit then
        match rest with
        | [] => some [c]
        | next :: later =>
            if next = '_' then (ungrouped later).map (fun digits => c :: digits)
            else (ungrouped (next :: later)).map (fun digits => c :: digits)
      else none

def takeSign : List Char → Bool × List Char
  | [] => (false, [])
  | c :: rest => if c = '-' then (true, rest) else if c = '+' then (false, rest) else (false, c :: rest)

-- int of a str, none is its ValueError.
def Unicode.int (unicode : Unicode) (text : String) : Option Int := do
  let (negative, rest) := takeSign (strip (unicode.decimals text)).toList
  let digits ← ungrouped rest
  if digits.length ≤ digitLimit then
    let number : Int := Nat.ofDigitChars 10 digits 0
    return if negative then -number else number
  else none

def str (number : Int) : Option String :=
  if (Nat.toDigits 10 number.natAbs).length ≤ digitLimit then some (toString number) else none

section Stripping

variable (text : String)

theorem strip_plain (plain : ∀ c ∈ text.toList, isSpace c = false) : strip text = text := by
  have front : text.toList.dropWhile isSpace = text.toList := by
    cases found : text.toList with
    | nil => rfl
    | cons c rest => exact List.dropWhile_cons_of_neg (by simp [plain c (by simp [found])])
  have back : text.toList.rdropWhile isSpace = text.toList := by
    apply List.rdropWhile_eq_self_iff.mpr
    intro some_
    simp [plain _ (List.getLast_mem some_)]
  rw [strip, front, back, String.ofList_toList]

theorem rdrop_while_head (p : Char → Bool) (text : List Char) (first : ∀ c ∈ text.head?, p c = false) :
    (text.rdropWhile p).dropWhile p = text.rdropWhile p := by
  cases left : text.rdropWhile p with
  | nil => rfl
  | cons c rest =>
      have prefix_ := List.rdropWhile_prefix p text
      rw [left] at prefix_
      obtain ⟨later, whole⟩ := prefix_
      have head : c ∈ text.head? := by
        rw [← whole]
        rfl
      exact List.dropWhile_cons_of_neg (by simp [first c head])

theorem strip_strip : strip (strip text) = strip text := by
  have first : ∀ c ∈ (text.toList.dropWhile isSpace).head?, isSpace c = false := by
    intro c head
    have stopped := List.head?_dropWhile_not isSpace text.toList
    rw [Option.mem_def.mp head] at stopped
    simpa using stopped
  rw [strip, strip, String.toList_ofList, rdrop_while_head isSpace _ first, List.rdropWhile_idempotent]

end Stripping

section Numbers

theorem ungrouped_digits (digits : List Char) (some_ : digits ≠ []) (each : ∀ c ∈ digits, c.isDigit = true) :
    ungrouped digits = some digits := by
  induction digits with
  | nil => exact absurd rfl some_
  | cons c rest ih =>
      have digit := each c List.mem_cons_self
      cases rest with
      | nil => rw [ungrouped, if_pos digit]
      | cons next later =>
          have other : next ≠ '_' := by
            intro same
            have plain := each next (List.mem_cons_of_mem _ List.mem_cons_self)
            rw [same] at plain
            cases plain
          have found := ih (List.cons_ne_nil _ _) (fun d member => each d (List.mem_cons_of_mem _ member))
          rw [ungrouped, if_pos digit, if_neg other, found]
          rfl

variable (number : Int)

theorem to_string_list : (toString number).toList =
    (if number < 0 then ['-'] else []) ++ Nat.toDigits 10 number.natAbs := by
  rw [Int.toString_eq_repr, Int.repr_eq_if]
  by_cases negative : number < 0
  · have size : (-number).toNat = number.natAbs := by omega
    rw [if_neg (not_le.mpr negative), if_pos negative, String.toList_append, Nat.toList_repr, size]
    rfl
  · have size : number.toNat = number.natAbs := by omega
    rw [if_pos (not_lt.mp negative), if_neg negative, Nat.toList_repr, List.nil_append, size]

theorem digits_number : ∀ c ∈ Nat.toDigits 10 number.natAbs, c.isDigit = true :=
  fun _ member => Nat.isDigit_of_mem_toDigits (by omega) (by omega) member

theorem to_string_characters : ∀ c ∈ (toString number).toList, c.isDigit = true ∨ c = '-' := by
  intro c member
  rw [to_string_list, List.mem_append] at member
  cases member with
  | inl sign =>
      by_cases negative : number < 0
      · rw [if_pos negative, List.mem_singleton] at sign
        exact .inr sign
      · rw [if_neg negative] at sign
        cases sign
  | inr digit => exact .inl (digits_number number c digit)

theorem plain_ascii (text : String) (plain : ∀ c ∈ text.toList, c.isDigit = true ∨ c = '-') :
    isascii text = true ∧ ∀ c ∈ text.toList, isSpace c = false := by
  have codes : ∀ c ∈ text.toList, 45 ≤ c.toNat ∧ c.toNat ≤ 57 := by
    intro c member
    cases plain c member with
    | inl digit =>
        rw [Char.isDigit, Bool.and_eq_true, decide_eq_true_eq, decide_eq_true_eq] at digit
        have low : 48 ≤ c.toNat := digit.1
        have high : c.toNat ≤ 57 := digit.2
        omega
    | inr dash =>
        rw [dash]
        decide
  constructor
  · rw [isascii, List.all_eq_true]
    intro c member
    have code := codes c member
    rw [decide_eq_true_eq]
    omega
  · intro c member
    have code := codes c member
    simp only [isSpace, Bool.or_eq_false_iff, Bool.and_eq_false_iff, decide_eq_false_iff_not]
    omega

theorem take_sign_number (number : Int) :
    takeSign (toString number).toList = (decide (number < 0), Nat.toDigits 10 number.natAbs) := by
  rw [to_string_list]
  by_cases negative : number < 0
  · rw [if_pos negative, decide_eq_true negative]
    rfl
  · rw [if_neg negative, decide_eq_false negative, List.nil_append]
    cases digits : Nat.toDigits 10 number.natAbs with
    | nil => exact absurd digits Nat.toDigits_ne_nil
    | cons c rest =>
        have digit := digits_number number c (by rw [digits]; exact List.mem_cons_self)
        have minus : c ≠ '-' := by
          intro same
          rw [same] at digit
          cases digit
        have plus : c ≠ '+' := by
          intro same
          rw [same] at digit
          cases digit
        rw [takeSign, if_neg minus, if_neg plus]

theorem int_str (unicode : Unicode) (text : String) (written : str number = some text) :
    strip text = text ∧ unicode.int text = some number := by
  by_cases short : (Nat.toDigits 10 number.natAbs).length ≤ digitLimit
  · rw [str, if_pos short] at written
    cases written
    obtain ⟨ascii, plain⟩ := plain_ascii _ (to_string_characters number)
    have same := strip_plain _ plain
    refine ⟨same, ?_⟩
    rw [Unicode.int, unicode.decimalsAscii _ ascii, same, take_sign_number]
    dsimp only
    rw [ungrouped_digits _ Nat.toDigits_ne_nil (digits_number number), Option.bind_eq_bind, Option.bind_some,
      if_pos short, Nat.ofDigitChars_ten_toDigits]
    by_cases negative : number < 0
    · rw [decide_eq_true negative, if_pos rfl]
      exact congrArg some (by omega)
    · rw [decide_eq_false negative, if_neg Bool.false_ne_true]
      exact congrArg some (by omega)
  · rw [str, if_neg short] at written
    cases written

end Numbers

end SchwabGateway.Api
