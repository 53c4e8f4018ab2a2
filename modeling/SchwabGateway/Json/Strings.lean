import SchwabGateway.Python.Text

set_option autoImplicit false

namespace SchwabGateway.Json

open SchwabGateway.Python

def quote : CodePoint := 0x22
def backslash : CodePoint := 0x5C
def letterU : CodePoint := 0x75

-- ESCAPE_DCT without what it spells as a number.
def shortEscapes : List (CodePoint × CodePoint) :=
  [(0x22, 0x22), (0x5C, 0x5C), (0x08, 0x62), (0x0C, 0x66), (0x0A, 0x6E), (0x0D, 0x72), (0x09, 0x74)]

-- BACKSLASH.
def unescapes : List (CodePoint × CodePoint) :=
  [(0x22, 0x22), (0x5C, 0x5C), (0x2F, 0x2F), (0x62, 0x08), (0x66, 0x0C), (0x6E, 0x0A), (0x72, 0x0D), (0x74, 0x09)]

def hexDigit (value : Nat) : CodePoint := Fin.ofNat 0x110000 (if value < 10 then 48 + value else 87 + value)

def hexValue (point : CodePoint) : Option Nat :=
  if 48 ≤ point.val ∧ point.val ≤ 57 then some (point.val - 48)
  else if 97 ≤ point.val ∧ point.val ≤ 102 then some (point.val - 87)
  else if 65 ≤ point.val ∧ point.val ≤ 70 then some (point.val - 55)
  else none

def units (point : CodePoint) : Text :=
  if point.val < 0x10000 then [point]
  else [Fin.ofNat 0x110000 (0xD800 + (point.val - 0x10000) / 0x400),
    Fin.ofNat 0x110000 (0xDC00 + (point.val - 0x10000) % 0x400)]

def unitEscape (unit : CodePoint) : Text :=
  [backslash, letterU, hexDigit (unit.val / 4096 % 16), hexDigit (unit.val / 256 % 16), hexDigit (unit.val / 16 % 16),
    hexDigit (unit.val % 16)]

-- py_encode_basestring_ascii.
def escape (point : CodePoint) : Text :=
  match shortEscapes.lookup point with
  | some letter => [backslash, letter]
  | none => if 0x20 ≤ point.val ∧ point.val ≤ 0x7E then [point] else (units point).flatMap unitEscape

def quoted (text : Text) : Text := quote :: text.flatMap escape ++ [quote]

def hexUnit (a b c d : CodePoint) : Option CodePoint :=
  match hexValue a, hexValue b, hexValue c, hexValue d with
  | some a, some b, some c, some d => some (Fin.ofNat 0x110000 (a * 4096 + b * 256 + c * 16 + d))
  | _, _, _, _ => none

def prepend (units : Text) (scanned : Option (Text × Text)) : Option (Text × Text) :=
  scanned.map (Prod.map (units ++ ·) id)

-- What scanstring reads after the opening quote.
def scanUnits : Text → Option (Text × Text)
  | [] => none
  | point :: rest =>
      if point = quote then some ([], rest)
      else if point = backslash then
        match rest with
        | [] => none
        | letter :: rest =>
            if letter = letterU then
              match rest with
              | a :: b :: c :: d :: rest =>
                  match hexUnit a b c d with
                  | some unit => prepend [unit] (scanUnits rest)
                  | none => none
              | _ => none
            else
              match unescapes.lookup letter with
              | some point => prepend [point] (scanUnits rest)
              | none => none
      else if point.val < 0x20 then none
      else prepend [point] (scanUnits rest)

def joinPair (high low : CodePoint) : CodePoint :=
  Fin.ofNat 0x110000 (0x10000 + (high.val - 0xD800) * 0x400 + (low.val - 0xDC00))

-- A high surrogate makes one code point with the low surrogate after it. No
-- other character of a decoded file than an escaped one is a surrogate.
def joinUnits : Text → Text
  | high :: low :: rest =>
      if high.isHighSurrogate && low.isLowSurrogate then joinPair high low :: joinUnits rest
      else high :: joinUnits (low :: rest)
  | text => text

def scanString (text : Text) : Option (Text × Text) := (scanUnits text).map (Prod.map joinUnits id)

def hasPair : Text → Bool
  | high :: low :: rest => (high.isHighSurrogate && low.isLowSurrogate) || hasPair (low :: rest)
  | _ => false

section Escapes

theorem hex_value_digit (value : Nat) (small : value < 16) : hexValue (hexDigit value) = some value := by
  have cases : ∀ digit < 16, hexValue (hexDigit digit) = some digit := by decide +kernel
  exact cases value small

theorem hex_unit_digits (unit : CodePoint) (small : unit.val < 0x10000) :
    hexUnit (hexDigit (unit.val / 4096 % 16)) (hexDigit (unit.val / 256 % 16)) (hexDigit (unit.val / 16 % 16))
      (hexDigit (unit.val % 16)) = some unit := by
  have whole : unit.val / 4096 % 16 * 4096 + unit.val / 256 % 16 * 256 + unit.val / 16 % 16 * 16 + unit.val % 16 =
      unit.val := by omega
  rw [hexUnit, hex_value_digit _ (by omega), hex_value_digit _ (by omega), hex_value_digit _ (by omega),
    hex_value_digit _ (by omega)]
  simp only [whole, Fin.ofNat_val_eq_self]

theorem scan_units_quote (rest : Text) : scanUnits (quote :: rest) = some ([], rest) := by
  rw [scanUnits.eq_def]
  exact if_pos rfl

theorem scan_units_plain (point : CodePoint) (rest : Text) (notQuote : point ≠ quote) (notBackslash : point ≠ backslash)
    (printable : ¬ point.val < 0x20) : scanUnits (point :: rest) = prepend [point] (scanUnits rest) := by
  rw [scanUnits.eq_def]
  simp only [if_neg notQuote, if_neg notBackslash, if_neg printable]

theorem scan_units_short (letter point : CodePoint) (rest : Text) (notU : letter ≠ letterU)
    (back : unescapes.lookup letter = some point) :
    scanUnits (backslash :: letter :: rest) = prepend [point] (scanUnits rest) := by
  have other : backslash ≠ quote := by decide
  rw [scanUnits.eq_def]
  simp only [if_neg other, if_neg notU, back, if_true]

theorem scan_units_unicode (a b c d unit : CodePoint) (rest : Text) (hex : hexUnit a b c d = some unit) :
    scanUnits (backslash :: letterU :: a :: b :: c :: d :: rest) = prepend [unit] (scanUnits rest) := by
  have other : backslash ≠ quote := by decide
  rw [scanUnits.eq_def]
  simp only [if_neg other, hex, if_true]

theorem scan_unit_escape (unit : CodePoint) (small : unit.val < 0x10000) (rest : Text) :
    scanUnits (unitEscape unit ++ rest) = prepend [unit] (scanUnits rest) := by
  simp only [unitEscape, List.cons_append, List.nil_append]
  exact scan_units_unicode _ _ _ _ unit rest (hex_unit_digits unit small)

theorem prepend_prepend (first second : Text) (scanned : Option (Text × Text)) :
    prepend first (prepend second scanned) = prepend (first ++ second) scanned := by
  cases scanned with
  | none => rfl
  | some pair => simp [prepend, Prod.map]

theorem units_small (point unit : CodePoint) (member : unit ∈ units point) : unit.val < 0x10000 := by
  rw [units] at member
  by_cases small : point.val < 0x10000
  · rw [if_pos small, List.mem_singleton] at member
    exact member ▸ small
  · rw [if_neg small] at member
    have bound := point.isLt
    simp only [List.mem_cons, List.not_mem_nil, or_false] at member
    obtain rfl | rfl := member
    · simp only [Fin.val_ofNat]
      omega
    · simp only [Fin.val_ofNat]
      omega

theorem scan_unit_escapes (units : Text) (small : ∀ unit ∈ units, unit.val < 0x10000) (rest : Text) :
    scanUnits (units.flatMap unitEscape ++ rest) = prepend units (scanUnits rest) := by
  induction units with
  | nil =>
      rw [List.flatMap_nil, List.nil_append]
      cases scanUnits rest with
      | none => rfl
      | some pair => rfl
  | cons unit others ih =>
      rw [List.flatMap_cons, List.append_assoc, scan_unit_escape unit (small unit List.mem_cons_self),
        ih fun other member => small other (List.mem_cons_of_mem _ member), prepend_prepend, List.singleton_append]

theorem short_escape_cases (point letter : CodePoint) (found : shortEscapes.lookup point = some letter) :
    letter ≠ letterU ∧ unescapes.lookup letter = some point ∧ units point = [point] := by
  have row : (point, letter) ∈ shortEscapes := by
    obtain ⟨before, after, whole, _⟩ := List.lookup_eq_some_iff.mp found
    simp [whole]
  have each : (shortEscapes.all fun row =>
      row.2 != letterU && unescapes.lookup row.2 == some row.1 && units row.1 == [row.1]) = true := by
    decide +kernel
  have here := List.all_eq_true.mp each _ row
  rw [Bool.and_eq_true, Bool.and_eq_true, bne_iff_ne, beq_iff_eq, beq_iff_eq] at here
  exact ⟨here.1.1, here.1.2, here.2⟩

theorem plain_escape (point : CodePoint) (found : shortEscapes.lookup point = none) :
    point ≠ quote ∧ point ≠ backslash := by
  constructor
  · rintro rfl
    cases found
  · rintro rfl
    cases found

theorem scan_escape (point : CodePoint) (rest : Text) :
    scanUnits (escape point ++ rest) = prepend (units point) (scanUnits rest) := by
  rw [escape]
  cases found : shortEscapes.lookup point with
  | some letter =>
      obtain ⟨notU, back, one⟩ := short_escape_cases point letter found
      simp only [List.cons_append, List.nil_append]
      rw [scan_units_short letter point rest notU back, one]
  | none =>
      by_cases printable : 0x20 ≤ point.val ∧ point.val ≤ 0x7E
      · obtain ⟨notQuote, notBackslash⟩ := plain_escape point found
        have one : units point = [point] := if_pos (by omega)
        simp only [if_pos printable, List.cons_append, List.nil_append]
        rw [scan_units_plain point rest notQuote notBackslash (by omega), one]
      · simp only [if_neg printable]
        exact scan_unit_escapes (units point) (units_small point) rest

theorem scan_escapes (text rest : Text) :
    scanUnits (text.flatMap escape ++ rest) = prepend (text.flatMap units) (scanUnits rest) := by
  induction text with
  | nil =>
      rw [List.flatMap_nil, List.nil_append]
      cases scanUnits rest with
      | none => rfl
      | some pair => rfl
  | cons point others ih =>
      rw [List.flatMap_cons, List.append_assoc, scan_escape, ih, prepend_prepend, List.flatMap_cons]

end Escapes

section Pairs

theorem join_single (point : CodePoint) (later : Text)
    (apart : ∀ low ∈ later.head?, (point.isHighSurrogate && low.isLowSurrogate) = false) :
    joinUnits (point :: later) = point :: joinUnits later := by
  cases later with
  | nil => rfl
  | cons low rest => rw [joinUnits, if_neg (by simp [apart low rfl])]

theorem astral_units (point : CodePoint) (large : ¬ point.val < 0x10000) :
    ∃ high low, units point = [high, low] ∧ high.isHighSurrogate = true ∧ low.isLowSurrogate = true ∧
      high.isLowSurrogate = false ∧ joinPair high low = point := by
  have bound := point.isLt
  refine ⟨_, _, if_neg large, ?_, ?_, ?_, ?_⟩
  · simp only [CodePoint.isHighSurrogate, Fin.val_ofNat, Bool.and_eq_true, decide_eq_true_eq]
    omega
  · simp only [CodePoint.isLowSurrogate, Fin.val_ofNat, Bool.and_eq_true, decide_eq_true_eq]
    omega
  · simp only [CodePoint.isLowSurrogate, Fin.val_ofNat, Bool.and_eq_false_iff, decide_eq_false_iff_not]
    omega
  · apply Fin.ext
    simp only [joinPair, Fin.val_ofNat]
    omega

theorem units_head (text : Text) (low : CodePoint) (first : low ∈ (text.flatMap units).head?) :
    low.isLowSurrogate = true → low ∈ text.head? := by
  intro surrogate
  cases text with
  | nil => cases first
  | cons point rest =>
      rw [List.flatMap_cons] at first
      by_cases small : point.val < 0x10000
      · have one : units point = [point] := if_pos small
        rw [one] at first
        exact first
      · obtain ⟨high, second, both, _, _, notLow, _⟩ := astral_units point small
        rw [both] at first
        cases first
        rw [notLow] at surrogate
        cases surrogate

theorem has_pair_cons (point : CodePoint) (rest : Text) (apart : hasPair (point :: rest) = false) :
    hasPair rest = false ∧ ∀ low ∈ rest.head?, (point.isHighSurrogate && low.isLowSurrogate) = false := by
  cases rest with
  | nil => exact ⟨rfl, nofun⟩
  | cons low others =>
      rw [hasPair, Bool.or_eq_false_iff] at apart
      refine ⟨apart.2, ?_⟩
      rintro _ ⟨⟩
      exact apart.1

theorem join_units (text : Text) (apart : hasPair text = false) : joinUnits (text.flatMap units) = text := by
  induction text with
  | nil => rfl
  | cons point rest ih =>
      obtain ⟨later, first⟩ := has_pair_cons point rest apart
      rw [List.flatMap_cons]
      by_cases small : point.val < 0x10000
      · have one : units point = [point] := if_pos small
        rw [one, List.singleton_append, join_single, ih later]
        intro low member
        cases surrogate : low.isLowSurrogate with
        | false => exact Bool.and_false _
        | true =>
            have there := first low (units_head rest low member surrogate)
            rwa [surrogate] at there
      · obtain ⟨high, low, both, isHigh, isLow, _, joined⟩ := astral_units point small
        have pair : (high.isHighSurrogate && low.isLowSurrogate) = true := by rw [isHigh, isLow]; rfl
        rw [both, List.cons_append, List.singleton_append, joinUnits, if_pos pair, joined, ih later]

theorem scan_quoted (text rest : Text) (apart : hasPair text = false) :
    scanString (text.flatMap escape ++ quote :: rest) = some (text, rest) := by
  rw [scanString, scan_escapes, scan_units_quote]
  simp [prepend, Prod.map, join_units text apart]

theorem astral_no_surrogate (point : CodePoint) (large : 0x10000 ≤ point.val) :
    point.isHighSurrogate = false ∧ point.isLowSurrogate = false := by
  constructor
  · rw [CodePoint.isHighSurrogate, decide_eq_false (p := point.val ≤ 0xDBFF) (by omega), Bool.and_false]
  · rw [CodePoint.isLowSurrogate, decide_eq_false (p := point.val ≤ 0xDFFF) (by omega), Bool.and_false]

theorem join_pair_astral (high low : CodePoint) (isHigh : high.isHighSurrogate = true)
    (isLow : low.isLowSurrogate = true) :
    (joinPair high low).isHighSurrogate = false ∧ (joinPair high low).isLowSurrogate = false := by
  simp only [CodePoint.isHighSurrogate, CodePoint.isLowSurrogate, Bool.and_eq_true, decide_eq_true_eq] at isHigh isLow
  apply astral_no_surrogate
  rw [joinPair, Fin.val_ofNat]
  omega

theorem join_units_head (units : Text) (low : CodePoint) (first : low ∈ (joinUnits units).head?)
    (surrogate : low.isLowSurrogate = true) : low ∈ units.head? := by
  induction units using joinUnits.induct with
  | case1 high second rest pair ih =>
      rw [joinUnits, if_pos pair, List.head?_cons, Option.mem_some_iff] at first
      rw [Bool.and_eq_true] at pair
      rw [← first, (join_pair_astral high second pair.1 pair.2).2] at surrogate
      cases surrogate
  | case2 high second rest apart ih =>
      rw [joinUnits, if_neg apart] at first
      exact first
  | case3 text short =>
      rw [joinUnits] at first
      · exact first
      · exact short

theorem has_pair_of_cons (point : CodePoint) (rest : Text) (later : hasPair rest = false)
    (apart : ∀ low ∈ rest.head?, (point.isHighSurrogate && low.isLowSurrogate) = false) :
    hasPair (point :: rest) = false := by
  cases rest with
  | nil => rfl
  | cons low others => rw [hasPair, apart low rfl, later, Bool.false_or]

theorem join_units_apart (units : Text) : hasPair (joinUnits units) = false := by
  induction units using joinUnits.induct with
  | case1 high low rest pair ih =>
      rw [joinUnits, if_pos pair]
      rw [Bool.and_eq_true] at pair
      apply has_pair_of_cons _ _ ih
      intro second _
      rw [(join_pair_astral high low pair.1 pair.2).1, Bool.false_and]
  | case2 high low rest apart ih =>
      rw [joinUnits, if_neg apart]
      apply has_pair_of_cons _ _ ih
      intro second first
      cases surrogate : second.isLowSurrogate with
      | false => exact Bool.and_false _
      | true =>
          cases join_units_head _ second first surrogate
          rw [surrogate] at apart
          exact Bool.eq_false_iff.mpr apart
  | case3 text short =>
      cases text with
      | nil => rfl
      | cons point rest =>
          cases rest with
          | nil => rfl
          | cons low others => exact absurd rfl (short point low others)

end Pairs

end SchwabGateway.Json
