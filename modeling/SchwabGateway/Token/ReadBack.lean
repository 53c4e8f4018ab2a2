import SchwabGateway.Token.TextStore

set_option autoImplicit false

namespace SchwabGateway.Token

open SchwabGateway.Python SchwabGateway.Library SchwabGateway.Json

section Validation

theorem check_timestamp_canonical (value : Option Value) :
    checkTimestamp (value.map Value.canonical) = checkTimestamp value := by
  cases value with
  | none => rfl
  | some value =>
      cases value with
      | scalar | sequence | dict => rfl

theorem filled_text_canonical (value : Option Value) : filledText (value.map Value.canonical) = filledText value := by
  cases value with
  | none => rfl
  | some value =>
      cases value with
      | scalar | sequence | dict => rfl

theorem field_canonical (entries : Entries) (name : String) (distinct : distinctKeys entries = true) :
    field ((canonicalEntries entries).insertionSort keyOrder) name = (field entries name).map Value.canonical :=
  lookup_canonical entries (asciiText name) distinct

variable (floats : Floats)

theorem check_payload_canonical (value : Option Value)
    (proper : ∀ payload, value = some payload → payload.proper floats = true) :
    checkPayload (value.map Value.canonical) = checkPayload value := by
  cases value with
  | none => rfl
  | some value =>
      cases value with
      | scalar | sequence => rfl
      | dict payload =>
          have distinct : distinctKeys payload = true := ((everywhere_dict _ _).mp (proper _ rfl)).1
          rw [Option.map_some, Value.canonical, checkPayload, checkPayload, field_canonical payload _ distinct,
            field_canonical payload _ distinct, filled_text_canonical, filled_text_canonical]

variable (limits : Limits)

theorem validate_document_accepts (value document : Value) (valid : validateDocument floats limits value = .ok document) :
    document = value ∧ ∃ entries, value = .dict entries ∧
      checkTimestamp (field entries "creation_timestamp") = .ok () ∧ checkPayload (field entries "token") = .ok () ∧
        value.dumps floats limits.checker = true := by
  cases value with
  | scalar | sequence => cases valid
  | dict entries =>
      obtain ⟨_, timestamp, rest⟩ := (bind_ok_iff _ _ _).mp valid
      obtain ⟨_, payload, last⟩ := (bind_ok_iff _ _ _).mp rest
      by_cases dumps : (Value.dict entries).dumps floats limits.checker = true
      · rw [if_pos dumps] at last
        exact ⟨(Except.ok.inj last).symm, entries, rfl, timestamp, payload, dumps⟩
      · rw [if_neg dumps] at last
        cases last

theorem validate_canonical (value : Value) (proper : value.proper floats = true)
    (valid : validateDocument floats limits value = .ok value) :
    validateDocument floats limits value.canonical = .ok value.canonical := by
  obtain ⟨_, entries, rfl, timestamp, payload, dumps⟩ := validate_document_accepts floats limits value value valid
  obtain ⟨distinct, properValues⟩ := (everywhere_dict _ _).mp proper
  have fields : ∀ held, field entries "token" = some held → held.proper floats = true := by
    intro held found
    obtain ⟨name, member, _⟩ := lookup_mem _ _ held found
    exact properValues _ member
  have again := canonical_dumps floats limits.checker _ dumps
  rw [Value.canonical] at again ⊢
  rw [validateDocument, field_canonical entries _ distinct, field_canonical entries _ distinct,
    check_timestamp_canonical, check_payload_canonical floats _ fields, timestamp, payload]
  exact if_pos again

end Validation

section ReadBack

variable (floats : Floats) (limits : Limits)

def documentSize (document : Value) : Nat :=
  match documentText floats limits document with
  | .ok content => content.length
  | .error _ => 0

def ReadsBack (maxTokenBytes : Nat) (document : Value) (disk : Directory) : Prop :=
  ∃ back, readDocument floats limits maxTokenBytes disk = .ok back ∧
    validateDocument floats limits back = .ok back ∧ back.equals document = true

theorem read_text_regular {α : Type} (load : Bytes → Except ScanError α) (maxTokenBytes : Nat) (disk : Directory)
    (content : Bytes) (stored : disk.token = some (.regular ownerOnly content)) (value : α) :
    readText load maxTokenBytes disk = .ok value ↔ content.length ≤ maxTokenBytes ∧ load content = .ok value := by
  rw [readText, stored]
  simp only [ne_eq, not_true_eq_false, if_false]
  by_cases large : content.length > maxTokenBytes
  · rw [if_pos large]
    simp [not_le.mpr large]
  · rw [if_neg large]
    cases load content with
    | ok found => simp [not_lt.mp large]
    | error failure =>
        cases failure with
        | invalid | recursionError => simp

theorem document_text_ok (document : Value) (content : Bytes)
    (made : documentText floats limits document = .ok content) :
    ∃ text, document.encode floats limits.encoder = .ok text ∧ content = encodeAscii (text ++ [lineFeed]) := by
  obtain ⟨text, encoded, rfl⟩ := (map_ok_iff _ _ _).mp made
  cases encode : document.encode floats limits.encoder with
  | error error =>
      rw [encode] at encoded
      cases encoded
  | ok found =>
      rw [encode] at encoded
      cases encoded
      exact ⟨_, rfl, rfl⟩

-- A document that was written is read back unless it is larger than the
-- reader takes, it holds something that JSON has no form of its own for, or it
-- goes deeper than the scanner does.
theorem written_document_reads_back_iff (value document : Value) (proper : value.proper floats = true)
    (valid : validateDocument floats limits value = .ok document) (fails : Failures) (disk after : Directory)
    (written : writeDocument floats limits fails document disk = (.ok (), after)) (maxTokenBytes : Nat) :
    ReadsBack floats limits maxTokenBytes document after ↔
      documentSize floats limits document ≤ maxTokenBytes ∧ document.plain = true ∧
        document.nesting ≤ limits.scanner := by
  obtain ⟨rfl, _, _, _, _, dumps⟩ := validate_document_accepts floats limits value document valid
  obtain ⟨content, made, stored⟩ := write_text_stores fails _ disk after written
  obtain ⟨text, encoded, rfl⟩ := document_text_ok floats limits document content made
  have size : documentSize floats limits document = (encodeAscii (text ++ [lineFeed])).length := by
    rw [documentSize, made]
  rw [size]
  constructor
  · rintro ⟨back, read, _, same⟩
    obtain ⟨small, loaded⟩ := (read_text_regular _ maxTokenBytes after _ stored back).mp read
    obtain ⟨plain, nested⟩ := loaded_plain floats limits.scanner _ back loaded
    exact ⟨small, equals_plain floats document back limits.scanner proper plain nested same⟩
  · rintro ⟨small, plain, nested⟩
    have loaded := load_encoded floats document limits.scanner limits.encoder text proper plain nested encoded
    rw [Value.dumps, Bool.and_eq_true] at dumps
    refine ⟨document.canonical, ?_, validate_canonical floats limits document proper valid,
      canonical_equals floats document dumps.2 proper plain⟩
    exact (read_text_regular _ maxTokenBytes after _ stored _).mpr ⟨small, loaded⟩

end ReadBack

section Sample

def sampleTime : ℚ := 3400000001 / 2

def sampleFloats : Floats where
  isDouble number := number = sampleTime
  repr _ := asciiText "1700000000.5"
  value text := if text = asciiText "1700000000.5" then .finite sampleTime else .nan
  literal _ _ := by decide +kernel
  ascii _ _ := by decide +kernel
  exact number double := by
    rw [if_pos rfl, of_decide_eq_true double]

def sampleLimits : Limits := ⟨1000, 1000, 1000⟩

def textKey (text : String) : Scalar := .str (asciiText text)

def plainDocument : Value :=
  .dict [(textKey "token", .dict [(textKey "refresh_token", .scalar (textKey "r1")), (textKey "access_token", .scalar (textKey "a1"))]),
    (textKey "creation_timestamp", .scalar (.float (.finite sampleTime)))]

def noFailure : Failures := fun _ => none

def writtenDisk : Directory := (writeDocument sampleFloats sampleLimits noFailure plainDocument ⟨none, none⟩).2

theorem plain_document_valid : validateDocument sampleFloats sampleLimits plainDocument = .ok plainDocument := by
  have accepted : (validateDocument sampleFloats sampleLimits plainDocument).isOk = true := by decide +kernel
  cases valid : validateDocument sampleFloats sampleLimits plainDocument with
  | error error =>
      rw [valid] at accepted
      cases accepted
  | ok document => rw [(validate_document_accepts _ _ _ document valid).1]

theorem plain_document_written :
    writeDocument sampleFloats sampleLimits noFailure plainDocument ⟨none, none⟩ = (.ok (), writtenDisk) := by
  have returned : (writeDocument sampleFloats sampleLimits noFailure plainDocument ⟨none, none⟩).1 = .ok () := by
    decide +kernel
  exact Prod.ext returned rfl

theorem plain_document_reads_back : ReadsBack sampleFloats sampleLimits 1024 plainDocument writtenDisk :=
  (written_document_reads_back_iff sampleFloats sampleLimits plainDocument plainDocument (by decide +kernel)
    plain_document_valid noFailure ⟨none, none⟩ writtenDisk plain_document_written 1024).mpr
      ⟨by decide +kernel, by decide +kernel, by decide +kernel⟩

def refusal (result : Except Exception Value) : Option Exception :=
  match result with
  | .ok _ => none
  | .error error => some error

theorem written_document_too_large :
    validateDocument sampleFloats sampleLimits plainDocument = .ok plainDocument ∧
      writeDocument sampleFloats sampleLimits noFailure plainDocument ⟨none, none⟩ = (.ok (), writtenDisk) ∧
      refusal (readDocument sampleFloats sampleLimits 64 writtenDisk) = some (.token (.corrupt documentTooLarge)) ∧
      ¬ ReadsBack sampleFloats sampleLimits 64 plainDocument writtenDisk := by
  have refused : refusal (readDocument sampleFloats sampleLimits 64 writtenDisk) =
      some (.token (.corrupt documentTooLarge)) := by decide +kernel
  refine ⟨plain_document_valid, plain_document_written, refused, ?_⟩
  rintro ⟨back, read, _⟩
  rw [read] at refused
  cases refused

end Sample

end SchwabGateway.Token
