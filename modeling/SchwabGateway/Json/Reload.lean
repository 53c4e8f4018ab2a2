import SchwabGateway.Json.RoundTrip

set_option autoImplicit false

namespace SchwabGateway.Json

open SchwabGateway.Python SchwabGateway.Library

section Ascii

theorem ascii_iff (text : Text) : text.isAscii = true ↔ ∀ character ∈ text, character.val < 128 := by
  simp [Text.isAscii]

theorem ascii_append (first second : Text) :
    (first ++ second).isAscii = true ↔ first.isAscii = true ∧ second.isAscii = true := by
  rw [Text.isAscii, List.all_append, Bool.and_eq_true]
  rfl

theorem ascii_cons (character : CodePoint) (rest : Text) :
    (Text.isAscii (character :: rest)) = true ↔ character.val < 128 ∧ rest.isAscii = true := by
  rw [ascii_iff, ascii_iff, List.forall_mem_cons]

theorem hex_digit_ascii (value : Nat) (small : value < 16) : (hexDigit value).val < 128 := by
  have cases : ∀ digit < 16, (hexDigit digit).val < 128 := by decide +kernel
  exact cases value small

theorem unit_escape_ascii (unit : CodePoint) : (unitEscape unit).isAscii = true := by
  rw [ascii_iff]
  simp only [unitEscape, List.forall_mem_cons, List.not_mem_nil, false_implies, implies_true, and_true]
  exact ⟨by decide, by decide, hex_digit_ascii _ (by omega), hex_digit_ascii _ (by omega),
    hex_digit_ascii _ (by omega), hex_digit_ascii _ (by omega)⟩

theorem escape_ascii (character : CodePoint) : (escape character).isAscii = true := by
  rw [escape]
  cases found : shortEscapes.lookup character with
  | some letter =>
      have letters : (Text.isAscii (shortEscapes.map Prod.snd)) = true := by decide +kernel
      obtain ⟨before, after, whole, _⟩ := List.lookup_eq_some_iff.mp found
      have small := (ascii_iff _).mp letters letter (by simp [whole])
      simp only [ascii_cons]
      exact ⟨by decide, small, rfl⟩
  | none =>
      by_cases printable : 0x20 ≤ character.val ∧ character.val ≤ 0x7E
      · simp only [if_pos printable, ascii_cons]
        exact ⟨by omega, rfl⟩
      · simp only [if_neg printable, ascii_iff, List.mem_flatMap]
        rintro part ⟨unit, _, member⟩
        exact (ascii_iff _).mp (unit_escape_ascii unit) part member

theorem quoted_ascii (text : Text) : (quoted text).isAscii = true := by
  rw [quoted, List.cons_append, ascii_cons, ascii_append, ascii_cons]
  refine ⟨by decide, ?_, by decide, rfl⟩
  rw [ascii_iff]
  intro part member
  obtain ⟨character, _, inside⟩ := List.mem_flatMap.mp member
  exact (ascii_iff _).mp (escape_ascii character) part inside

theorem int_text_ascii (value : Int) : (intText value).isAscii = true := by
  rw [intText, ascii_append]
  constructor
  · by_cases negative : value < 0
    · rw [if_pos negative]
      decide
    · rw [if_neg negative]
      rfl
  · rw [ascii_iff]
    intro digit member
    have isOne := decimal_digits value.natAbs digit member
    rw [isDigit, Bool.and_eq_true, decide_eq_true_eq, decide_eq_true_eq] at isOne
    omega

theorem join_ascii (texts : List Text) (each : ∀ text ∈ texts, text.isAscii = true) :
    (joinTexts texts).isAscii = true := by
  induction texts with
  | nil => rfl
  | cons text others ih =>
      have later := ih fun other member => each other (List.mem_cons_of_mem _ member)
      cases others with
      | nil => exact each text List.mem_cons_self
      | cons other others =>
          rw [join_cons _ _ (List.cons_ne_nil _ _), ascii_append, ascii_cons]
          exact ⟨each text List.mem_cons_self, by decide, later⟩

variable (floats : Floats)

theorem scalar_ascii (value : Scalar) (text : Text) (proper : properHere floats (.scalar value) = true)
    (written : scalarText floats value = .ok text) : text.isAscii = true := by
  cases value with
  | none =>
      cases written
      decide
  | bool flag =>
      cases written
      cases flag with
      | true | false => decide
  | int value =>
      rw [scalarText, keyText, wholeText] at written
      · by_cases long : (decimal value.natAbs).length > digitLimit
        · rw [if_pos long] at written
          cases written
        · rw [if_neg long] at written
          cases written
          exact int_text_ascii value
      · intro _ same
        cases same
  | float number =>
      cases number with
      | finite number =>
          cases written
          exact floats.ascii number proper
      | infinity | negInfinity | nan => cases written
  | str string =>
      cases written
      exact quoted_ascii string
  | object => cases written

theorem encoded_ascii (value : Value) : ∀ limit text, value.proper floats = true → value.plain = true →
    value.encode floats limit = .ok text → text.isAscii = true := by
  induction value using Value.induction with
  | scalar value =>
      intro limit text proper _ written
      exact scalar_ascii floats value text proper (by simpa [Value.encode] using written)
  | sequence kind items ih =>
      intro limit text proper plain written
      obtain ⟨_, plainItems⟩ := (everywhere_sequence _ _ _).mp plain
      obtain ⟨_, properItems⟩ := (everywhere_sequence _ _ _).mp proper
      cases limit with
      | zero => cases written
      | succ limit =>
          rw [Value.encode, encode_items] at written
          obtain ⟨texts, encoded, rfl⟩ := (map_ok_iff _ _ _).mp written
          have each := forall_two_results ((map_m_ok_iff _ _ _).mp encoded) (fun text => text.isAscii = true)
            fun item member text encodes => ih item member limit text (properItems item member)
              (plainItems item member) encodes
          rw [List.cons_append, ascii_cons, ascii_append]
          exact ⟨by decide, join_ascii texts each, by decide⟩
  | dict entries ih =>
      intro limit text proper plain written
      obtain ⟨plainKeys, plainValues⟩ := (everywhere_dict _ _).mp plain
      obtain ⟨_, properValues⟩ := (everywhere_dict _ _).mp proper
      cases limit with
      | zero => cases written
      | succ limit =>
          rw [Value.encode, encode_entries] at written
          obtain ⟨rows, ordered, rest⟩ := (bind_ok_iff _ _ _).mp written
          obtain ⟨texts, encoded, whole⟩ := (bind_ok_iff _ _ _).mp rest
          rw [sorted_entries _ _ ordered, sort_map, map_m_ok_iff, List.forall₂_map_left_iff] at encoded
          have each := forall_two_results encoded (fun text => text.isAscii = true) (by
            intro row member written text
            have inside := (List.perm_insertionSort keyOrder entries).subset member
            obtain ⟨name, keyed, rest⟩ := (bind_ok_iff _ _ _).mp text
            obtain ⟨value, encodes, whole⟩ := (bind_ok_iff _ _ _).mp rest
            cases whole
            rw [ascii_append, ascii_cons]
            exact ⟨quoted_ascii name, by decide,
              ih row inside limit value (properValues row inside) (plainValues row inside) encodes⟩)
          cases whole
          rw [List.cons_append, ascii_cons, ascii_append]
          exact ⟨by decide, join_ascii texts each, by decide⟩

end Ascii

section Loading

variable (floats : Floats)

theorem decode_ascii (text : Text) (ascii : text.isAscii = true) : decodeUtf8 (encodeAscii text) = some text := by
  induction text with
  | nil => rfl
  | cons character rest ih =>
      rw [ascii_cons] at ascii
      have byte : (UInt8.ofNat character.val).toNat = character.val := by
        rw [UInt8.toNat_ofNat']
        omega
      rw [encodeAscii, List.map_cons, decodeUtf8.eq_def]
      simp only [byte, if_pos ascii.1]
      change prependPoint _ (decodeUtf8 (encodeAscii rest)) = _
      rw [ih ascii.2]
      simp [prependPoint]

def lineFeed : CodePoint := 0x0A

theorem load_encoded (value : Value) (depth limit : Nat) (text : Text) (proper : value.proper floats = true)
    (plain : value.plain = true) (nested : value.nesting ≤ depth) (written : value.encode floats limit = .ok text) :
    load floats depth (encodeAscii (text ++ [lineFeed])) = .ok value.canonical := by
  obtain ⟨reads, solid⟩ := encoded_reads floats value depth limit text proper plain nested written
  have ascii : (text ++ [lineFeed]).isAscii = true := by
    rw [ascii_append]
    exact ⟨encoded_ascii floats value limit text proper plain written, by decide⟩
  have noMark : (text ++ [lineFeed]).head? ≠ some byteOrderMark := by
    intro mark
    have member := (ascii_iff _).mp ascii byteOrderMark (List.mem_of_mem_head? mark)
    exact absurd member (by decide)
  have scanned := reads [lineFeed] (ends_number_cons lineFeed [] (by decide))
  have blank : skipBlanks [lineFeed] = [] := by decide
  rw [load, decode_ascii _ ascii]
  simp only [if_neg noMark, skip_solid_append text _ solid, scanned, bind, Except.bind, blank, if_true]

end Loading

end SchwabGateway.Json
