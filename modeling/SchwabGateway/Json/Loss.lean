import SchwabGateway.Json.Reload

set_option autoImplicit false

namespace SchwabGateway.Json

open SchwabGateway.Python SchwabGateway.Library

section Scanned

variable {α : Type}

theorem series_scanned (close : CodePoint) (scan : Text → Except ScanError (α × Text)) (fuel : Nat) (text rest : Text)
    (items : List α) (read : scanSeries close scan fuel text = .ok (items, rest)) :
    ∀ item ∈ items, ∃ before after, scan before = .ok (item, after) := by
  induction fuel generalizing text items with
  | zero => cases read
  | succ fuel ih =>
      obtain ⟨⟨first, after⟩, here, later⟩ := (bind_ok_iff _ _ _).mp read
      dsimp only at later
      cases remaining : skipBlanks after with
      | nil =>
          simp only [remaining] at later
          cases later
      | cons next others =>
          simp only [remaining] at later
          by_cases closes : next = close
          · rw [if_pos closes] at later
            cases later
            exact List.forall_mem_singleton.mpr ⟨text, after, here⟩
          · rw [if_neg closes] at later
            by_cases goes : next = comma
            · rw [if_pos goes] at later
              obtain ⟨⟨more, left⟩, further, whole⟩ := (bind_ok_iff _ _ _).mp later
              cases whole
              exact List.forall_mem_cons.mpr ⟨⟨text, after, here⟩, ih _ more further⟩
            · rw [if_neg goes] at later
              cases later

theorem container_scanned (close : CodePoint) (scan : Text → Except ScanError (α × Text)) (text rest : Text)
    (items : List α) (read : scanContainer close scan text = .ok (items, rest)) :
    ∀ item ∈ items, ∃ before after, scan before = .ok (item, after) := by
  rw [scanContainer] at read
  cases remaining : skipBlanks text with
  | nil =>
      simp only [remaining] at read
      cases read
  | cons first others =>
      simp only [remaining] at read
      by_cases closes : first = close
      · rw [if_pos closes] at read
        cases read
        intro item member
        cases member
      · rw [if_neg closes] at read
        exact series_scanned close scan _ _ rest items read

theorem scan_string_apart (text string rest : Text) (read : scanString text = some (string, rest)) :
    hasPair string = false := by
  rw [scanString, Option.map_eq_some_iff] at read
  obtain ⟨scanned, _, whole⟩ := read
  cases whole
  exact join_units_apart scanned.1

theorem pair_scanned (scan : Text → Except ScanError (α × Text)) (text rest : Text) (pair : Text × α)
    (read : scanPair scan text = .ok (pair, rest)) :
    hasPair pair.1 = false ∧ ∃ before after, scan before = .ok (pair.2, after) := by
  rw [scanPair.eq_def] at read
  cases text with
  | nil => cases read
  | cons first others =>
      dsimp only at read
      by_cases quotes : first = quote
      · rw [if_pos quotes] at read
        cases string : scanString others with
        | none =>
            simp only [string] at read
            cases read
        | some named =>
            obtain ⟨name, after⟩ := named
            simp only [string] at read
            cases remaining : skipBlanks after with
            | nil =>
                simp only [remaining] at read
                cases read
            | cons next tail =>
                simp only [remaining] at read
                by_cases parts : next = colon
                · rw [if_pos parts] at read
                  obtain ⟨⟨value, left⟩, scanned, whole⟩ := (bind_ok_iff _ _ _).mp read
                  cases whole
                  exact ⟨scan_string_apart _ _ _ string, _, _, scanned⟩
                · rw [if_neg parts] at read
                  cases read
      · rw [if_neg quotes] at read
        cases read

variable (floats : Floats)

theorem word_scanned (text rest : Text) (value : Scalar) (found : scanWord text = some (value, rest)) :
    plainHere (.scalar value) = true := by
  rw [scanWord, Option.map_eq_some_iff] at found
  obtain ⟨row, first, whole⟩ := found
  have member := List.mem_of_find?_eq_some first
  cases whole
  simp only [words, List.mem_cons, List.not_mem_nil, or_false] at member
  obtain rfl | rfl | rfl := member
  · rfl
  · rfl
  · rfl

theorem number_scanned (number : NumberText) (value : Scalar) (read : readNumber floats number = .ok value) :
    plainHere (.scalar value) = true := by
  cases number with
  | int negative digits =>
      rw [readNumber] at read
      by_cases long : digits.length > digitLimit
      · rw [if_pos long] at read
        cases read
      · rw [if_neg long] at read
        cases read
        rfl
  | float text =>
      cases read
      rfl

theorem scalar_scanned (text rest : Text) (value : Scalar) (read : scanScalar floats text = .ok (value, rest)) :
    plainHere (.scalar value) = true := by
  rw [scanScalar.eq_def] at read
  cases text with
  | nil => cases read
  | cons first others =>
      dsimp only at read
      by_cases quotes : first = quote
      · rw [if_pos quotes] at read
        cases string : scanString others with
        | none =>
            simp only [string] at read
            cases read
        | some scanned =>
            simp only [string] at read
            cases read
            simp [plainHere, scan_string_apart _ _ _ string]
      · rw [if_neg quotes] at read
        cases word : scanWord (first :: others) with
        | some found =>
            simp only [word] at read
            cases read
            exact word_scanned _ _ _ word
        | none =>
            cases numbered : scanNumber (first :: others) with
            | none =>
                simp only [word, numbered] at read
                cases read
            | some scanned =>
                simp only [word, numbered] at read
                obtain ⟨number, makes, whole⟩ := (map_ok_iff _ _ _).mp read
                cases whole
                exact number_scanned floats scanned.1 _ makes

theorem dict_of_plain (pairs : List (Text × Value)) (depth : Nat)
    (each : ∀ pair ∈ pairs, hasPair pair.1 = false ∧ pair.2.plain = true ∧ pair.2.nesting ≤ depth) :
    (dictOf pairs).plain = true ∧ (dictOf pairs).nesting ≤ depth + 1 := by
  have rows : ∀ row ∈ (OrderedMap.ofPairs pairs).entries.map (fun pair => (Scalar.str pair.1, pair.2)),
      plainText row.1 = true ∧ row.2.plain = true ∧ row.2.nesting ≤ depth := by
    intro row member
    obtain ⟨pair, inside, rfl⟩ := List.mem_map.mp member
    obtain ⟨apart, plain, nested⟩ := each pair (OrderedMap.mem_of_pairs pairs pair inside)
    exact ⟨by simp [plainText, apart], plain, nested⟩
  constructor
  · rw [Value.plain, dictOf, everywhere_dict, plainHere, List.all_eq_true]
    exact ⟨fun row member => (rows row member).1, fun row member => (rows row member).2.1⟩
  · rw [dictOf, nesting_dict_le]
    exact fun row member => (rows row member).2.2

theorem scalar_once (depth : Nat) (text rest : Text) (value : Value)
    (read : (scanScalar floats text).map (fun scanned => (Value.scalar scanned.1, scanned.2)) = .ok (value, rest)) :
    value.plain = true ∧ value.nesting ≤ depth := by
  obtain ⟨⟨scalar, after⟩, scanned, whole⟩ := (map_ok_iff _ _ _).mp read
  cases whole
  exact ⟨scalar_scanned floats _ _ scalar scanned, Nat.zero_le _⟩

theorem scanned_plain (depth : Nat) : ∀ text rest value, scanOnce floats depth text = .ok (value, rest) →
    value.plain = true ∧ value.nesting ≤ depth := by
  induction depth with
  | zero =>
      intro text rest value read
      cases text with
      | nil => cases read
      | cons first others =>
          rw [scanOnce.eq_def] at read
          dsimp only at read
          by_cases array : first = openBracket
          · rw [if_pos array] at read
            cases read
          · rw [if_neg array] at read
            by_cases object : first = openBrace
            · rw [if_pos object] at read
              cases read
            · rw [if_neg object] at read
              exact scalar_once floats 0 _ _ value read
  | succ depth ih =>
      intro text rest value read
      cases text with
      | nil => cases read
      | cons first others =>
          rw [scanOnce.eq_def] at read
          dsimp only at read
          by_cases array : first = openBracket
          · rw [if_pos array] at read
            obtain ⟨⟨items, left⟩, scanned, whole⟩ := (map_ok_iff _ _ _).mp read
            have each : ∀ item ∈ items, item.plain = true ∧ item.nesting ≤ depth := by
              intro item member
              obtain ⟨before, after, here⟩ := container_scanned _ _ _ _ items scanned item member
              exact ih before after item here
            cases whole
            rw [Value.plain, everywhere_sequence, nesting_sequence_le]
            exact ⟨⟨rfl, fun item member => (each item member).1⟩, fun item member => (each item member).2⟩
          · rw [if_neg array] at read
            by_cases object : first = openBrace
            · rw [if_pos object] at read
              obtain ⟨⟨pairs, left⟩, scanned, whole⟩ := (map_ok_iff _ _ _).mp read
              have each : ∀ pair ∈ pairs, hasPair pair.1 = false ∧ pair.2.plain = true ∧ pair.2.nesting ≤ depth := by
                intro pair member
                obtain ⟨before, after, here⟩ := container_scanned _ _ _ _ pairs scanned pair member
                obtain ⟨apart, inner, left, there⟩ := pair_scanned _ _ _ pair here
                exact ⟨apart, ih inner left pair.2 there⟩
              cases whole
              exact dict_of_plain pairs depth each
            · rw [if_neg object] at read
              exact scalar_once floats (depth + 1) _ _ value read

theorem loaded_plain (depth : Nat) (content : List UInt8) (value : Value)
    (read : load floats depth content = .ok value) : value.plain = true ∧ value.nesting ≤ depth := by
  rw [load] at read
  cases decoded : decodeUtf8 content with
  | none =>
      simp only [decoded] at read
      cases read
  | some text =>
      simp only [decoded] at read
      by_cases mark : text.head? = some byteOrderMark
      · rw [if_pos mark] at read
        cases read
      · rw [if_neg mark] at read
        obtain ⟨⟨found, after⟩, scanned, whole⟩ := (bind_ok_iff _ _ _).mp read
        by_cases blank : skipBlanks after = []
        · rw [if_pos blank] at whole
          cases whole
          exact scanned_plain floats depth _ _ _ scanned
        · rw [if_neg blank] at whole
          cases whole

end Scanned

section Equality

theorem equals_plain (floats : Floats) (value : Value) : ∀ (other : Value) (depth : Nat), value.proper floats = true →
    other.plain = true → other.nesting ≤ depth → other.equals value = true →
      value.plain = true ∧ value.nesting ≤ depth := by
  induction value using Value.induction with
  | scalar value =>
      intro other depth _ plain _ same
      refine ⟨?_, Nat.zero_le _⟩
      cases other with
      | scalar other =>
          cases value with
          | str text =>
              have equal : other = .str text := (Scalar.equals_str other text).mp (by simpa [Value.equals] using same)
              rwa [equal] at plain
          | none | bool | int | float | object => rfl
      | sequence kind items => cases same
      | dict entries => cases same
  | sequence kind items ih =>
      intro other depth proper plain nested same
      cases other with
      | scalar other => cases same
      | dict entries => cases same
      | sequence otherKind others =>
          rw [Value.equals, Bool.and_eq_true, decide_eq_true_eq, items_equal_iff] at same
          obtain ⟨sameKind, each⟩ := same
          obtain ⟨listed, plainItems⟩ := (everywhere_sequence _ _ _).mp plain
          obtain ⟨_, properItems⟩ := (everywhere_sequence _ _ _).mp proper
          cases depth with
          | zero => exact absurd nested (by simp [Value.nesting])
          | succ depth =>
              rw [nesting_sequence_le] at nested
              have results := forall_two_results each (fun item => item ∈ items → item.plain = true ∧ item.nesting ≤ depth)
                fun other member item equal inside => ih item inside other depth (properItems item inside)
                  (plainItems other member) (nested other member) equal
              rw [Value.plain, everywhere_sequence, nesting_sequence_le, ← sameKind]
              exact ⟨⟨listed, fun item member => (results item member member).1⟩,
                fun item member => (results item member member).2⟩
  | dict entries ih =>
      intro other depth proper plain nested same
      cases other with
      | scalar other => cases same
      | sequence kind items => cases same
      | dict others =>
          obtain ⟨within, keys⟩ := (dict_equals_iff others entries).mp same
          obtain ⟨plainKeys, plainValues⟩ := (everywhere_dict _ _).mp plain
          obtain ⟨distinct, properValues⟩ := (everywhere_dict _ _).mp proper
          cases depth with
          | zero => exact absurd nested (by simp [Value.nesting])
          | succ depth =>
              rw [nesting_dict_le] at nested
              have each : ∀ entry ∈ entries, plainText entry.1 = true ∧ entry.2.plain = true ∧
                  entry.2.nesting ≤ depth := by
                intro entry member
                obtain ⟨partner, found⟩ := Option.isSome_iff_exists.mp (keys entry member)
                obtain ⟨name, inOthers, named⟩ := lookup_mem _ _ partner found
                have plainName := List.all_eq_true.mp plainKeys _ inOthers
                cases name with
                | str text =>
                    have key : entry.1 = .str text := (Scalar.str_equals entry.1 text).mp named
                    obtain ⟨there, reached, equal⟩ := within _ inOthers
                    have own : lookup (.str text) entries = some entry.2 :=
                      lookup_distinct text entries entry.2 distinct (key ▸ member)
                    rw [own] at reached
                    cases reached
                    obtain ⟨plainValue, shallow⟩ := ih entry member partner depth (properValues entry member)
                      (plainValues _ inOthers) (nested _ inOthers) equal
                    exact ⟨key ▸ plainName, plainValue, shallow⟩
                | none | bool | int | float | object => cases plainName
              rw [Value.plain, everywhere_dict, plainHere, List.all_eq_true, nesting_dict_le]
              exact ⟨⟨fun entry member => (each entry member).1, fun entry member => (each entry member).2.1⟩,
                fun entry member => (each entry member).2.2⟩

end Equality

end SchwabGateway.Json
