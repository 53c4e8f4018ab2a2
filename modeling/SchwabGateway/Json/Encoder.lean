import SchwabGateway.Json.Numbers
import SchwabGateway.Json.Strings
import SchwabGateway.Json.Value

set_option autoImplicit false

namespace SchwabGateway.Json

open SchwabGateway.Python

inductive EncodeError where
  | typeError
  | valueError
  | recursionError
deriving DecidableEq

def comma : CodePoint := 0x2C
def colon : CodePoint := 0x3A
def openBracket : CodePoint := 0x5B
def closeBracket : CodePoint := 0x5D
def openBrace : CodePoint := 0x7B
def closeBrace : CodePoint := 0x7D

-- float.__repr__ and float on a text. What repr writes of a double is a number
-- with a fraction or an exponent, and it reads back as that double.
structure Floats where
  isDouble : ℚ → Bool
  repr : ℚ → Text
  value : Text → PyFloat
  literal : ∀ number, isDouble number = true → scanNumber (repr number) = some (.float (repr number), [])
  ascii : ∀ number, isDouble number = true → (repr number).isAscii = true
  exact : ∀ number, isDouble number = true → value (repr number) = .finite number

section Code

variable (floats : Floats)

def floatText : PyFloat → Except EncodeError Text
  | .finite number => .ok (floats.repr number)
  | _ => .error .valueError

def wholeText (value : Int) : Except EncodeError Text :=
  if (decimal value.natAbs).length > digitLimit then .error .valueError else .ok (intText value)

def keyText : Scalar → Except EncodeError Text
  | .none => .ok (asciiText "null")
  | .bool flag => .ok (asciiText (if flag then "true" else "false"))
  | .int value => wholeText value
  | .float value => floatText floats value
  | .str text => .ok text
  | .object => .error .typeError

def scalarText : Scalar → Except EncodeError Text
  | .str text => .ok (quoted text)
  | value => keyText floats value

def Scalar.less : Scalar → Scalar → Bool
  | .str text, .str other => text < other
  | value, other =>
      match value.number, other.number with
      | some left, some right => left.lt right
      | _, _ => false

def keyOrder {α : Type} (entry other : Scalar × α) : Prop := other.1.less entry.1 = false

instance {α : Type} : DecidableRel (keyOrder (α := α)) :=
  fun entry other => inferInstanceAs (Decidable (other.1.less entry.1 = false))

def isText : Scalar → Bool
  | .str _ => true
  | _ => false

-- The keys that sorted can compare: a single one is not compared at all.
def sortable (keys : List Scalar) : Bool :=
  keys.length ≤ 1 || keys.all isText || keys.all (fun key => key.number.isSome)

def sortEntries {α : Type} (entries : List (Scalar × α)) : Except EncodeError (List (Scalar × α)) :=
  if sortable (entries.map Prod.fst) then .ok (entries.insertionSort keyOrder) else .error .typeError

def joinTexts : List Text → Text
  | [] => []
  | [text] => text
  | text :: rest => text ++ comma :: joinTexts rest

def entryText (entry : Scalar × Except EncodeError Text) : Except EncodeError Text := do
  let name ← keyText floats entry.1
  let text ← entry.2
  .ok (quoted name ++ colon :: text)

-- _make_iterencode with sort_keys, the separators without blanks and no NaN.
-- An entry that cannot be written raises when its turn has come.
mutual
def Value.encode : Nat → Value → Except EncodeError Text
  | _, .scalar value => scalarText floats value
  | 0, .sequence _ _ => .error .recursionError
  | depth + 1, .sequence _ items =>
      (encodeItems depth items).map (fun texts => openBracket :: joinTexts texts ++ [closeBracket])
  | 0, .dict _ => .error .recursionError
  | depth + 1, .dict entries => do
      let sorted ← sortEntries (encodeEntries depth entries)
      let texts ← sorted.mapM (entryText floats)
      .ok (openBrace :: joinTexts texts ++ [closeBrace])
def encodeItems : Nat → List Value → Except EncodeError (List Text)
  | _, [] => .ok []
  | depth, item :: rest => do
      let text ← item.encode depth
      let texts ← encodeItems depth rest
      .ok (text :: texts)
def encodeEntries : Nat → Entries → List (Scalar × Except EncodeError Text)
  | _, [] => []
  | depth, (key, value) :: rest => (key, value.encode depth) :: encodeEntries depth rest
end

def writable : Value → Bool
  | .scalar value => (scalarText floats value).isOk
  | .sequence _ _ => true
  | .dict entries => entries.all (fun entry => (keyText floats entry.1).isOk)

def Value.dumps (depth : Nat) (value : Value) : Bool := value.nesting ≤ depth && value.everywhere (writable floats)

end Code

-- A value as Python can have it: a dictionary has no key twice, and a float
-- is a double.
def properHere (floats : Floats) : Value → Bool
  | .scalar (.float (.finite number)) => floats.isDouble number
  | .scalar _ => true
  | .sequence _ _ => true
  | .dict entries => distinctKeys entries

def Value.proper (floats : Floats) (value : Value) : Bool := value.everywhere (properHere floats)

def plainText : Scalar → Bool
  | .str text => !hasPair text
  | _ => false

-- What JSON can tell from what it is not: a list and not a tuple, a string and
-- not another key, and no two surrogates that are one character.
def plainHere : Value → Bool
  | .scalar (.str text) => !hasPair text
  | .scalar _ => true
  | .sequence kind _ => kind = .list
  | .dict entries => entries.all (fun entry => plainText entry.1)

def Value.plain (value : Value) : Bool := value.everywhere plainHere

mutual
def Value.canonical : Value → Value
  | .scalar value => .scalar value
  | .sequence kind items => .sequence kind (canonicalItems items)
  | .dict entries => .dict ((canonicalEntries entries).insertionSort keyOrder)
def canonicalItems : List Value → List Value
  | [] => []
  | item :: rest => item.canonical :: canonicalItems rest
def canonicalEntries : Entries → Entries
  | [] => []
  | (key, value) :: rest => (key, value.canonical) :: canonicalEntries rest
end

section Equations

variable (floats : Floats) (depth : Nat)

theorem canonical_items (items : List Value) : canonicalItems items = items.map Value.canonical := by
  induction items with
  | nil => rfl
  | cons item rest ih => rw [canonicalItems, ih, List.map_cons]

theorem canonical_entries (entries : Entries) :
    canonicalEntries entries = entries.map (fun entry => (entry.1, entry.2.canonical)) := by
  induction entries with
  | nil => rfl
  | cons entry rest ih => rw [canonicalEntries, ih, List.map_cons]

theorem encode_items (items : List Value) : encodeItems floats depth items = items.mapM (Value.encode floats depth) := by
  induction items with
  | nil => rfl
  | cons item rest ih => rw [encodeItems, ih, List.mapM_cons]; rfl

theorem encode_entries (entries : Entries) :
    encodeEntries floats depth entries = entries.map (fun entry => (entry.1, entry.2.encode floats depth)) := by
  induction entries with
  | nil => rfl
  | cons entry rest ih => rw [encodeEntries, ih, List.map_cons]

theorem sort_map {α β : Type} (entries : List (Scalar × α)) (change : α → β) :
    (entries.map (fun entry => (entry.1, change entry.2))).insertionSort keyOrder =
      (entries.insertionSort keyOrder).map (fun entry => (entry.1, change entry.2)) :=
  (List.map_insertionSort keyOrder keyOrder (fun entry => (entry.1, change entry.2)) entries
    fun _ _ _ _ => Iff.rfl).symm

theorem canonical_dict_perm (entries : Entries) :
    ((canonicalEntries entries).insertionSort keyOrder).Perm
      (entries.map (fun entry => (entry.1, entry.2.canonical))) := by
  rw [canonical_entries]
  exact List.perm_insertionSort _ _

theorem canonical_dict (entries : Entries) :
    (Value.dict entries).canonical =
      .dict ((entries.insertionSort keyOrder).map (fun entry => (entry.1, entry.2.canonical))) := by
  rw [Value.canonical, canonical_entries, sort_map]

end Equations

end SchwabGateway.Json
