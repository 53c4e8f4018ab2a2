import SchwabGateway.Json.Scanner
import SchwabGateway.Library.Except

set_option autoImplicit false

namespace SchwabGateway.Json

open SchwabGateway.Python SchwabGateway.Library

section Series

theorem skip_solid (first : CodePoint) (rest : Text) (solid : isBlank first = false) :
    skipBlanks (first :: rest) = first :: rest := by
  rw [skipBlanks, List.dropWhile_cons, solid]
  rfl

theorem ends_number_cons (first : CodePoint) (rest : Text) (apart : isNumberPart first = false) :
    EndsNumber (first :: rest) := by
  rintro _ ⟨⟩
  exact apart

def ReadsAs {α : Type} (scan : Text → Except ScanError (α × Text)) (text : Text) (item : α) : Prop :=
  ∀ rest, EndsNumber rest → scan (text ++ rest) = .ok (item, rest)

def Solid (text : Text) : Prop :=
  ∃ first rest, text = first :: rest ∧ isBlank first = false ∧ first ≠ closeBracket ∧ first ≠ closeBrace

def isClosing (close : CodePoint) : Prop := close = closeBracket ∨ close = closeBrace

theorem closing_apart (close : CodePoint) (closing : isClosing close) :
    isBlank close = false ∧ isNumberPart close = false ∧ close ≠ comma := by
  obtain rfl | rfl := closing
  · decide
  · decide

theorem solid_not_closing (close : CodePoint) (closing : isClosing close) (text : Text) (solid : Solid text) :
    ∃ first rest, text = first :: rest ∧ isBlank first = false ∧ first ≠ close := by
  obtain ⟨first, rest, whole, notBlank, notBracket, notBrace⟩ := solid
  obtain rfl | rfl := closing
  · exact ⟨first, rest, whole, notBlank, notBracket⟩
  · exact ⟨first, rest, whole, notBlank, notBrace⟩

theorem join_cons (text : Text) (others : List Text) (some : others ≠ []) :
    joinTexts (text :: others) = text ++ comma :: joinTexts others := by
  cases others with
  | nil => exact absurd rfl some
  | cons other others => rfl

theorem join_solid (texts : List Text) (nonempty : texts ≠ []) (solid : ∀ text ∈ texts, Solid text) :
    Solid (joinTexts texts) := by
  cases texts with
  | nil => exact absurd rfl nonempty
  | cons text others =>
      obtain ⟨first, rest, whole, apart⟩ := solid text List.mem_cons_self
      cases others with
      | nil => exact ⟨first, rest, whole, apart⟩
      | cons other others =>
          refine ⟨first, rest ++ comma :: joinTexts (other :: others), ?_, apart⟩
          rw [joinTexts, whole, List.cons_append]
          exact nofun

theorem skip_solid_append (text rest : Text) (solid : Solid text) : skipBlanks (text ++ rest) = text ++ rest := by
  obtain ⟨first, others, rfl, notBlank, _⟩ := solid
  exact skip_solid first _ notBlank

theorem join_length (texts : List Text) (solid : ∀ text ∈ texts, Solid text) :
    texts.length ≤ (joinTexts texts).length := by
  induction texts with
  | nil => exact Nat.le_refl _
  | cons text others ih =>
      obtain ⟨first, rest, whole, _⟩ := solid text List.mem_cons_self
      have later := ih fun other member => solid other (List.mem_cons_of_mem _ member)
      cases others with
      | nil =>
          rw [joinTexts, whole]
          simp
      | cons other others =>
          rw [join_cons _ _ (List.cons_ne_nil _ _), whole, List.length_append, List.length_cons, List.length_cons]
          simp only [List.length_cons] at later ⊢
          omega

variable {α : Type} (close : CodePoint) (closing : isClosing close) (scan : Text → Except ScanError (α × Text))

include closing

theorem scan_series_joined (texts : List Text) (items : List α) (each : List.Forall₂ (ReadsAs scan) texts items)
    (nonempty : texts ≠ []) (solid : ∀ text ∈ texts, Solid text) (fuel : Nat) (enough : texts.length ≤ fuel)
    (rest : Text) : scanSeries close scan fuel (joinTexts texts ++ close :: rest) = .ok (items, rest) := by
  obtain ⟨notBlank, notNumber, notComma⟩ := closing_apart close closing
  induction each generalizing fuel with
  | nil => exact absurd rfl nonempty
  | @cons text item texts items here later ih =>
      cases fuel with
      | zero => exact absurd enough (Nat.not_succ_le_zero _)
      | succ fuel =>
          cases later with
          | nil =>
              have read := here (close :: rest) (ends_number_cons close rest notNumber)
              rw [joinTexts, scanSeries, read]
              simp only [bind, Except.bind, skip_solid close rest notBlank, if_true]
          | @cons other second others seconds next further =>
              have read := here (comma :: (joinTexts (other :: others) ++ close :: rest))
                (ends_number_cons comma _ (by decide))
              have more := ih (List.cons_ne_nil _ _) (fun text member => solid text (List.mem_cons_of_mem _ member)) fuel
                (Nat.le_of_succ_le_succ enough)
              have first : Solid (joinTexts (other :: others)) := join_solid _ (List.cons_ne_nil _ _)
                fun text member => solid text (List.mem_cons_of_mem _ member)
              rw [join_cons _ _ (List.cons_ne_nil _ _), List.append_assoc, List.cons_append, scanSeries, read]
              simp only [bind, Except.bind, skip_solid comma _ (by decide), if_neg (Ne.symm notComma), if_true,
                skip_solid_append _ _ first, more]

theorem scan_container_joined (texts : List Text) (items : List α) (each : List.Forall₂ (ReadsAs scan) texts items)
    (solid : ∀ text ∈ texts, Solid text) (rest : Text) :
    scanContainer close scan (joinTexts texts ++ close :: rest) = .ok (items, rest) := by
  obtain ⟨notBlank, _, _⟩ := closing_apart close closing
  cases texts with
  | nil =>
      cases each
      rw [joinTexts, List.nil_append, scanContainer, skip_solid close rest notBlank]
      exact if_pos rfl
  | cons text others =>
      have whole := join_solid (text :: others) (List.cons_ne_nil _ _) solid
      obtain ⟨first, tail, start, firstSolid, notClose⟩ := solid_not_closing close closing _ whole
      have start' : joinTexts (text :: others) ++ close :: rest = first :: (tail ++ close :: rest) := by
        rw [start, List.cons_append]
      have enough : (text :: others).length ≤ (first :: (tail ++ close :: rest)).length := by
        have longer := join_length (text :: others) solid
        rw [← start', List.length_append]
        omega
      have run := scan_series_joined close closing scan _ _ each (List.cons_ne_nil _ _) solid _ enough rest
      rw [start'] at run
      rw [start', scanContainer, skip_solid first _ firstSolid]
      exact (if_neg notClose).trans run

end Series

section Scalars

variable (floats : Floats)

def Begins (text : Text) : Prop :=
  ∃ first rest, text = first :: rest ∧ isBlank first = false ∧ first ≠ openBracket ∧ first ≠ openBrace ∧
    first ≠ closeBracket ∧ first ≠ closeBrace

theorem begins_solid (text : Text) (begins : Begins text) : Solid text := by
  obtain ⟨first, rest, whole, notBlank, _, _, notBracket, notBrace⟩ := begins
  exact ⟨first, rest, whole, notBlank, notBracket, notBrace⟩

theorem number_first (text : Text) (scanned : NumberText × Text) (found : scanNumber text = some scanned) :
    ∃ first rest, text = first :: rest ∧ isBlank first = false ∧ first ≠ quote ∧ first ≠ openBracket ∧
      first ≠ openBrace ∧ first ≠ closeBracket ∧ first ≠ closeBrace ∧ first.val < 0x61 := by
  have digits : ∀ first : CodePoint, isDigit first = true → isBlank first = false ∧ first ≠ quote ∧
      first ≠ openBracket ∧ first ≠ openBrace ∧ first ≠ closeBracket ∧ first ≠ closeBrace ∧ first.val < 0x61 := by
    intro first digit
    rw [isDigit, Bool.and_eq_true, decide_eq_true_eq, decide_eq_true_eq] at digit
    have apart : ∀ other : CodePoint, ¬ (48 ≤ other.val ∧ other.val ≤ 57) → first ≠ other := by
      rintro other outside rfl
      exact outside digit
    refine ⟨?_, apart quote (by decide), apart openBracket (by decide), apart openBrace (by decide),
      apart closeBracket (by decide), apart closeBrace (by decide), by omega⟩
    rw [isBlank, decide_eq_false (apart 0x20 (by decide)), decide_eq_false (apart 0x09 (by decide)),
      decide_eq_false (apart 0x0A (by decide)), decide_eq_false (apart 0x0D (by decide))]
    rfl
  cases text with
  | nil => cases found
  | cons first rest =>
      refine ⟨first, rest, rfl, ?_⟩
      by_cases sign : first = minus
      · rw [sign]
        decide
      · apply digits
        rw [scanNumber, takeSign, if_neg sign] at found
        cases digit : isDigit first with
        | true => rfl
        | false =>
            have notZero : first ≠ zero := by
              rintro rfl
              cases digit
            simp [takeWhole, notZero, digit] at found

theorem scan_word_number (first : CodePoint) (rest : Text) (small : first.val < 0x61) :
    scanWord (first :: rest) = none := by
  have letters : ∀ row ∈ words, ∃ letter others, row.1 = letter :: others ∧ 0x61 ≤ letter.val := by
    intro row member
    simp only [words, List.mem_cons, List.not_mem_nil, or_false] at member
    obtain rfl | rfl | rfl := member
    · exact ⟨_, _, rfl, by decide⟩
    · exact ⟨_, _, rfl, by decide⟩
    · exact ⟨_, _, rfl, by decide⟩
  rw [scanWord, Option.map_eq_none_iff, List.find?_eq_none]
  intro row member
  obtain ⟨letter, others, word, large⟩ := letters row member
  have other : letter ≠ first := by
    rintro rfl
    omega
  simp [word, List.isPrefixOf, other]

theorem scan_word_found (word rest : Text) (value : Scalar) (row : (word, value) ∈ words) :
    scanWord (word ++ rest) = some (value, rest) := by
  simp only [words, List.mem_cons, List.not_mem_nil, or_false] at row
  obtain row | row | row := row
  · cases row
    rfl
  · cases row
    rfl
  · cases row
    rfl

theorem scan_scalar_word (word : Text) (value : Scalar) (row : (word, value) ∈ words) :
    ReadsAs (scanScalar floats) word value ∧ Begins word := by
  have letters : ∀ row ∈ words, ∃ letter others, row.1 = letter :: others ∧ letter ≠ quote ∧
      isBlank letter = false ∧ letter ≠ openBracket ∧ letter ≠ openBrace ∧ letter ≠ closeBracket ∧
        letter ≠ closeBrace := by
    intro row member
    simp only [words, List.mem_cons, List.not_mem_nil, or_false] at member
    obtain rfl | rfl | rfl := member
    · exact ⟨_, _, rfl, by decide⟩
    · exact ⟨_, _, rfl, by decide⟩
    · exact ⟨_, _, rfl, by decide⟩
  obtain ⟨letter, others, rfl, notQuote, apart⟩ := letters _ row
  refine ⟨fun rest _ => ?_, letter, others, rfl, apart⟩
  have found := scan_word_found (letter :: others) rest value row
  rw [List.cons_append] at found ⊢
  rw [scanScalar]
  simp only [if_neg notQuote, found]

theorem scan_scalar_number (text : Text) (number : NumberText) (value : Scalar)
    (found : scanNumber text = some (number, [])) (read : readNumber floats number = .ok value) :
    ReadsAs (scanScalar floats) text value := by
  obtain ⟨first, others, rfl, _, notQuote, _, _, _, _, small⟩ := number_first text _ found
  intro rest ends
  have whole : scanNumber (first :: others ++ rest) = some (number, rest) := by
    rw [scan_number_append rest ends, found]
    rfl
  rw [List.cons_append] at whole ⊢
  rw [scanScalar]
  simp only [if_neg notQuote, scan_word_number first _ small, whole, read, Except.map]

theorem number_begins (text : Text) (scanned : NumberText × Text) (found : scanNumber text = some scanned) :
    Begins text := by
  obtain ⟨first, rest, whole, notBlank, _, one, two, three, four, _⟩ := number_first text scanned found
  exact ⟨first, rest, whole, notBlank, one, two, three, four⟩

theorem whole_text_reads (value : Int) (text : Text) (written : wholeText value = .ok text) :
    ReadsAs (scanScalar floats) text (.int value) ∧ Begins text := by
  rw [wholeText] at written
  by_cases long : (decimal value.natAbs).length > digitLimit
  · rw [if_pos long] at written
    cases written
  · rw [if_neg long] at written
    cases written
    have signed : (if decide (value < 0) = true then -(numeral (decimal value.natAbs) : Int)
        else (numeral (decimal value.natAbs) : Int)) = value := by
      rw [numeral_decimal]
      by_cases negative : value < 0
      · rw [if_pos (decide_eq_true negative)]
        omega
      · rw [if_neg (by simpa using negative)]
        omega
    have read : readNumber floats (.int (value < 0) (decimal value.natAbs)) = .ok (.int value) := by
      rw [readNumber, if_neg long, signed]
    exact ⟨scan_scalar_number floats _ _ _ (scan_int_text value) read, number_begins _ _ (scan_int_text value)⟩

theorem string_reads (text : Text) (apart : hasPair text = false) :
    ReadsAs (scanScalar floats) (quoted text) (.str text) ∧ Begins (quoted text) := by
  refine ⟨fun rest _ => ?_, quote, _, rfl, by decide⟩
  have whole : quoted text ++ rest = quote :: (text.flatMap escape ++ quote :: rest) := by
    rw [quoted, List.cons_append, List.cons_append, List.append_assoc, List.singleton_append]
  rw [whole, scanScalar, if_pos rfl, scan_quoted text rest apart]

theorem scalar_reads (value : Scalar) (text : Text) (proper : properHere floats (.scalar value) = true)
    (plain : plainHere (.scalar value) = true) (written : scalarText floats value = .ok text) :
    ReadsAs (scanScalar floats) text value ∧ Begins text := by
  cases value with
  | none =>
      cases written
      exact scan_scalar_word floats _ _ (by simp [words])
  | bool flag =>
      cases written
      cases flag with
      | true => exact scan_scalar_word floats _ _ (by simp [words])
      | false => exact scan_scalar_word floats _ _ (by simp [words])
  | int value => exact whole_text_reads floats value text written
  | float number =>
      cases number with
      | finite number =>
          cases written
          have literal := floats.literal number proper
          have read : readNumber floats (.float (floats.repr number)) = .ok (.float (.finite number)) := by
            rw [readNumber, floats.exact number proper]
          exact ⟨scan_scalar_number floats _ _ _ literal read, number_begins _ _ literal⟩
      | infinity | negInfinity | nan => cases written
  | str string =>
      cases written
      exact string_reads floats string (by simpa [plainHere] using plain)
  | object => cases written

end Scalars

section Values

variable (floats : Floats)

theorem scan_once_scalar (depth : Nat) (text : Text) (value : Scalar) (reads : ReadsAs (scanScalar floats) text value)
    (begins : Begins text) : ReadsAs (scanOnce floats depth) text (.scalar value) := by
  obtain ⟨first, others, rfl, _, notBracket, notBrace, _⟩ := begins
  intro rest ends
  have scanned := reads rest ends
  rw [List.cons_append] at scanned ⊢
  rw [scanOnce.eq_def]
  simp only [if_neg notBracket, if_neg notBrace, scanned, Except.map]

theorem pair_reads {α : Type} (scan : Text → Except ScanError (α × Text)) (name text : Text) (value : α)
    (apart : hasPair name = false) (solid : Solid text) (reads : ReadsAs scan text value) :
    ReadsAs (scanPair scan) (quoted name ++ colon :: text) (name, value) := by
  intro rest ends
  have whole : quoted name ++ colon :: text ++ rest =
      quote :: (name.flatMap escape ++ quote :: (colon :: (text ++ rest))) := by
    simp [quoted]
  rw [whole, scanPair, if_pos rfl, scan_quoted name _ apart]
  simp only [skip_solid colon _ (by decide), if_true, skip_solid_append text rest solid, reads rest ends, bind,
    Except.bind]

theorem array_reads (depth : Nat) (texts : List Text) (items : List Value)
    (each : List.Forall₂ (ReadsAs (scanOnce floats depth)) texts items) (solid : ∀ text ∈ texts, Solid text) :
    ReadsAs (scanOnce floats (depth + 1)) (openBracket :: joinTexts texts ++ [closeBracket])
      (.sequence .list items) := by
  intro rest _
  have run := scan_container_joined closeBracket (.inl rfl) (scanOnce floats depth) texts items each solid rest
  have whole : openBracket :: joinTexts texts ++ [closeBracket] ++ rest =
      openBracket :: (joinTexts texts ++ closeBracket :: rest) := by simp
  rw [whole, scanOnce.eq_def]
  simp only [if_true, run, Except.map]

theorem object_reads (depth : Nat) (texts : List Text) (pairs : List (Text × Value))
    (each : List.Forall₂ (ReadsAs (scanPair (scanOnce floats depth))) texts pairs)
    (solid : ∀ text ∈ texts, Solid text) :
    ReadsAs (scanOnce floats (depth + 1)) (openBrace :: joinTexts texts ++ [closeBrace]) (dictOf pairs) := by
  intro rest _
  have run := scan_container_joined closeBrace (.inr rfl) (scanPair (scanOnce floats depth)) texts pairs each solid rest
  have whole : openBrace :: joinTexts texts ++ [closeBrace] ++ rest =
      openBrace :: (joinTexts texts ++ closeBrace :: rest) := by simp
  have other : openBrace ≠ openBracket := by decide
  rw [whole, scanOnce.eq_def]
  simp only [if_neg other, if_true, run, Except.map]

end Values

section Documents

variable (floats : Floats)

def nameOf : Scalar → Text
  | .str text => text
  | _ => []

theorem plain_text_name (key : Scalar) (plain : plainText key = true) :
    key = .str (nameOf key) ∧ hasPair (nameOf key) = false := by
  cases key with
  | str text => exact ⟨rfl, by simpa [plainText, nameOf] using plain⟩
  | none | bool | int | float | object => cases plain

theorem dict_of_named (rows : Entries) (named : ∀ row ∈ rows, row.1 = .str (nameOf row.1))
    (distinct : distinctKeys rows = true) :
    dictOf (rows.map (fun row => (nameOf row.1, row.2))) = .dict rows := by
  have nodup : ((rows.map (fun row => (nameOf row.1, row.2))).map Prod.fst).Nodup := by
    rw [distinctKeys, decide_eq_true_eq] at distinct
    rw [List.map_map, List.Nodup, List.pairwise_map]
    refine distinct.imp_of_mem fun {first second} firstIn secondIn apart same => ?_
    rw [named first firstIn, named second secondIn, show nameOf first.1 = nameOf second.1 from same,
      (Scalar.equals_str _ _).mpr rfl] at apart
    cases apart
  rw [dictOf, OrderedMap.of_pairs_distinct _ nodup, List.map_map]
  congr 1
  refine (List.map_congr_left fun row member => ?_).trans (List.map_id rows)
  exact Prod.ext (named row member).symm rfl

theorem sorted_entries {α : Type} (entries rows : List (Scalar × α)) (sorted : sortEntries entries = .ok rows) :
    rows = entries.insertionSort keyOrder := by
  rw [sortEntries] at sorted
  by_cases can : sortable (entries.map Prod.fst) = true
  · rw [if_pos can] at sorted
    exact (Except.ok.inj sorted).symm
  · rw [if_neg can] at sorted
    cases sorted

theorem named_canonical (entries : Entries) (named : ∀ row ∈ entries, row.1 = .str (nameOf row.1))
    (distinct : distinctKeys entries = true) :
    dictOf ((entries.insertionSort keyOrder).map (fun row => (nameOf row.1, row.2.canonical))) =
      (Value.dict entries).canonical := by
  have perm := List.perm_insertionSort keyOrder entries
  have rows := dict_of_named ((entries.insertionSort keyOrder).map (fun row => (row.1, row.2.canonical))) ?_ ?_
  · rw [canonical_dict, ← rows, List.map_map]
    rfl
  · intro row member
    obtain ⟨source, inSorted, rfl⟩ := List.mem_map.mp member
    exact named source (perm.subset inSorted)
  · rw [← distinct]
    apply distinct_keys_perm
    rw [List.map_map]
    exact perm.map Prod.fst

theorem encoded_scalar (value : Scalar) (depth limit : Nat) (text : Text)
    (proper : (Value.scalar value).proper floats = true) (plain : (Value.scalar value).plain = true)
    (written : (Value.scalar value).encode floats limit = .ok text) :
    ReadsAs (scanOnce floats depth) text (.scalar value) ∧ Solid text := by
  obtain ⟨reads, begins⟩ := scalar_reads floats value text proper plain (by simpa [Value.encode] using written)
  exact ⟨scan_once_scalar floats depth text value reads begins, begins_solid text begins⟩

theorem items_read (items : List Value) (texts : List Text) (depth limit : Nat)
    (written : List.Forall₂ (fun item text => item.encode floats limit = .ok text) items texts)
    (each : ∀ item ∈ items, ∀ text, item.encode floats limit = .ok text →
      ReadsAs (scanOnce floats depth) text item.canonical ∧ Solid text) :
    List.Forall₂ (ReadsAs (scanOnce floats depth)) texts (items.map Value.canonical) ∧ ∀ text ∈ texts, Solid text := by
  induction written with
  | nil => exact ⟨.nil, nofun⟩
  | @cons item text items texts here rest ih =>
      obtain ⟨reads, solid⟩ := each item List.mem_cons_self text here
      obtain ⟨others, solids⟩ := ih fun other member => each other (List.mem_cons_of_mem _ member)
      exact ⟨.cons reads others, List.forall_mem_cons.mpr ⟨solid, solids⟩⟩

theorem entry_reads (entry : Scalar × Value) (written : Text) (depth limit : Nat) (plain : plainText entry.1 = true)
    (text : entryText floats (entry.1, entry.2.encode floats limit) = .ok written)
    (each : ∀ text, entry.2.encode floats limit = .ok text →
      ReadsAs (scanOnce floats depth) text entry.2.canonical ∧ Solid text) :
    ReadsAs (scanPair (scanOnce floats depth)) written (nameOf entry.1, entry.2.canonical) ∧ Solid written := by
  obtain ⟨named, apart⟩ := plain_text_name entry.1 plain
  obtain ⟨name, keyed, rest⟩ := (bind_ok_iff _ _ _).mp text
  obtain ⟨value, encoded, whole⟩ := (bind_ok_iff _ _ _).mp rest
  have same : name = nameOf entry.1 := by
    rw [named] at keyed
    exact (Except.ok.inj keyed).symm
  obtain ⟨reads, solid⟩ := each value encoded
  cases whole
  rw [same]
  exact ⟨pair_reads _ _ _ _ apart solid reads, quote, _, rfl, by decide⟩

theorem entries_read (rows : Entries) (texts : List Text) (depth limit : Nat)
    (plain : ∀ row ∈ rows, plainText row.1 = true)
    (written : List.Forall₂ (fun row text => entryText floats (row.1, row.2.encode floats limit) = .ok text) rows texts)
    (each : ∀ row ∈ rows, ∀ text, row.2.encode floats limit = .ok text →
      ReadsAs (scanOnce floats depth) text row.2.canonical ∧ Solid text) :
    List.Forall₂ (ReadsAs (scanPair (scanOnce floats depth))) texts
        (rows.map (fun row => (nameOf row.1, row.2.canonical))) ∧
      ∀ text ∈ texts, Solid text := by
  induction written with
  | nil => exact ⟨.nil, nofun⟩
  | @cons row text rows texts here rest ih =>
      obtain ⟨reads, solid⟩ := entry_reads floats row text depth limit (plain row List.mem_cons_self) here
        (each row List.mem_cons_self)
      obtain ⟨others, solids⟩ := ih (fun other member => plain other (List.mem_cons_of_mem _ member))
        fun other member => each other (List.mem_cons_of_mem _ member)
      exact ⟨.cons reads others, List.forall_mem_cons.mpr ⟨solid, solids⟩⟩

-- What a plain value is written as reads back as its canonical form.
theorem encoded_reads (value : Value) : ∀ depth limit text, value.proper floats = true → value.plain = true →
    value.nesting ≤ depth → value.encode floats limit = .ok text →
      ReadsAs (scanOnce floats depth) text value.canonical ∧ Solid text := by
  induction value using Value.induction with
  | scalar value =>
      intro depth limit text proper plain _ written
      exact encoded_scalar floats value depth limit text proper plain written
  | sequence kind items ih =>
      intro depth limit text proper plain nested written
      obtain ⟨listed, plainItems⟩ := (everywhere_sequence _ _ _).mp plain
      obtain ⟨_, properItems⟩ := (everywhere_sequence _ _ _).mp proper
      have same : kind = .list := of_decide_eq_true listed
      cases limit with
      | zero => cases written
      | succ limit =>
          cases depth with
          | zero => exact absurd nested (by simp [Value.nesting])
          | succ depth =>
              have inner := (nesting_sequence_le kind items depth).mp nested
              rw [Value.encode, encode_items] at written
              obtain ⟨texts, encoded, whole⟩ := (map_ok_iff _ _ _).mp written
              obtain ⟨reads, solid⟩ := items_read floats items texts depth limit ((map_m_ok_iff _ _ _).mp encoded)
                fun item member text encodes => ih item member depth limit text (properItems item member)
                  (plainItems item member) (inner item member) encodes
              subst whole
              rw [same, Value.canonical, canonical_items]
              exact ⟨array_reads floats depth texts _ reads solid, openBracket, _, rfl, by decide⟩
  | dict entries ih =>
      intro depth limit text proper plain nested written
      obtain ⟨plainKeys, plainValues⟩ := (everywhere_dict _ _).mp plain
      obtain ⟨distinct, properValues⟩ := (everywhere_dict _ _).mp proper
      cases limit with
      | zero => cases written
      | succ limit =>
          cases depth with
          | zero => exact absurd nested (by simp [Value.nesting])
          | succ depth =>
              have inner := (nesting_dict_le entries depth).mp nested
              have sorted : ∀ row ∈ entries.insertionSort keyOrder, row ∈ entries :=
                fun row member => (List.perm_insertionSort keyOrder entries).subset member
              have keys : ∀ row ∈ entries.insertionSort keyOrder, plainText row.1 = true :=
                fun row member => List.all_eq_true.mp plainKeys row (sorted row member)
              rw [Value.encode, encode_entries] at written
              obtain ⟨rows, ordered, rest⟩ := (bind_ok_iff _ _ _).mp written
              obtain ⟨texts, encoded, whole⟩ := (bind_ok_iff _ _ _).mp rest
              rw [sorted_entries _ _ ordered, sort_map, map_m_ok_iff, List.forall₂_map_left_iff] at encoded
              obtain ⟨reads, solid⟩ := entries_read floats _ texts depth limit keys encoded
                fun row member text encodes => ih row (sorted row member) depth limit text
                  (properValues row (sorted row member)) (plainValues row (sorted row member))
                  (inner row (sorted row member)) encodes
              cases whole
              refine ⟨?_, openBrace, _, rfl, by decide⟩
              have object := object_reads floats depth texts _ reads solid
              rwa [named_canonical entries (fun row member => (plain_text_name row.1
                (List.all_eq_true.mp plainKeys row member)).1) distinct] at object

end Documents

end SchwabGateway.Json
