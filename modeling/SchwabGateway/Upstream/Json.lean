import SchwabGateway.Upstream.Numbers

set_option autoImplicit false

namespace SchwabGateway.Upstream

open SchwabGateway.Python

-- A JSON text as the values it spells. A string that spells a date or a
-- timestamp in the ISO form is kept as what it spells.
inductive Json where
  | null
  | bool (flag : Bool)
  | int (number : Int)
  | float (number : ℚ)
  | text (value : String)
  | date (value : Date)
  | datetime (at_ : Datetime)
  | array (items : List Json)
  | object (fields : List (String × Json))

namespace Json

-- The encoder has no spelling for the values that are not finite: null.
def ofFloat : PyFloat → Json
  | .finite number => .float number
  | _ => .null

def ofOption {α : Type} (write : α → Json) : Option α → Json
  | none => .null
  | some value => write value

abbrev Reader (α : Type) := String → Json → Result α

-- The readers take a value of the field's own kind. Pydantic's lax mode also
-- converts some others (a text of digits, 0 or 1 for a bool, a whole float for an
-- int, a number for a datetime), which no dump of a model holds: these are refused.
def readBool : Reader Bool
  | _, .bool flag => .ok flag
  | field, _ => .error (.validation field "Input should be a valid boolean")

def readInt : Reader Int
  | _, .int number => .ok number
  | field, _ => .error (.validation field "Input should be a valid integer")

def readFloat : Reader PyFloat
  | _, .float number => .ok (.finite number)
  | _, .int number => .ok (.finite (roundDouble number))
  | field, _ => .error (.validation field "Input should be a valid number")

def readText : Reader String
  | _, .text value => .ok value
  | field, _ => .error (.validation field "Input should be a valid string")

def readDate : Reader Date
  | _, .date value => .ok value
  | field, _ => .error (.validation field "Input should be a valid date")

def readDatetime : Reader Datetime
  | _, .datetime at_ => .ok at_
  | field, _ => .error (.validation field "Input should be a valid datetime")

def readNullable {α : Type} (read : Reader α) : Reader (Option α)
  | _, .null => .ok none
  | field, json => (read field json).map some

def readItems {α : Type} (read : Reader α) (field : String) : List Json → Result (List α)
  | [] => return []
  | json :: rest => do
      let value ← read field json
      let values ← readItems read field rest
      return value :: values

def readArray {α : Type} (read : Reader α) : Reader (List α)
  | field, .array items => readItems read field items
  | field, _ => .error (.validation field "Input should be a valid tuple")

def required {α : Type} (fields : List (String × Json)) (name : String) (read : Reader α) : Result α :=
  match fields.lookup name with
  | none => .error (.validation name "Field required")
  | some json => read name json

def defaulted {α : Type} (fields : List (String × Json)) (name : String) (fallback : α)
    (read : Reader α) : Result α :=
  match fields.lookup name with
  | none => .ok fallback
  | some json => read name json

-- extra="forbid".
def onlyFields (known : List String) : List (String × Json) → Result Unit
  | [] => return ()
  | (name, _) :: rest =>
      if known.contains name then onlyFields known rest
      else .error (.validation name "Extra inputs are not permitted")

theorem read_finite (field : String) (price : PyFloat) :
    readFloat field (ofFloat price) =
      if price.isfinite then .ok price
      else .error (.validation field "Input should be a valid number") := by
  cases price with
  | finite number => rfl
  | infinity => rfl
  | negInfinity => rfl
  | nan => rfl

theorem read_finite_only (field : String) (price result : PyFloat)
    (read : readFloat field (ofFloat price) = .ok result) : price.isfinite := by
  rw [read_finite] at read
  split at read
  · assumption
  · cases read

theorem lookup_entries (fields : List (String × Json)) (distinct : (fields.map Prod.fst).Nodup) :
    ∀ entry ∈ fields, fields.lookup entry.1 = some entry.2 := by
  induction fields with
  | nil => simp
  | cons first rest ih =>
      obtain ⟨fresh, distinct⟩ := List.nodup_cons.mp distinct
      intro entry member
      cases member with
      | head => exact List.lookup_cons_self
      | tail _ inside =>
          have other : entry.1 ≠ first.1 := fun same => fresh (same ▸ List.mem_map_of_mem inside)
          rw [List.lookup_cons, beq_eq_false_iff_ne.mpr other]
          exact ih distinct entry inside

theorem known_fields (known : List String) (fields : List (String × Json))
    (inside : ∀ entry ∈ fields, entry.1 ∈ known) : onlyFields known fields = .ok () := by
  induction fields with
  | nil => rfl
  | cons entry rest ih =>
      have here : known.contains entry.1 = true :=
        List.contains_iff_mem.mpr (inside entry (List.mem_cons_self ..))
      rw [onlyFields, if_pos here]
      exact ih (fun other member => inside other (List.mem_cons_of_mem entry member))

theorem whole_object (known : List String) (distinct : known.Nodup) (entries fields : List (String × Json))
    (whole : entries = fields) (names : entries.map Prod.fst = known) :
    (∀ entry ∈ entries, fields.lookup entry.1 = some entry.2) ∧ onlyFields known fields = .ok () := by
  subst whole names
  exact ⟨lookup_entries entries distinct, known_fields _ entries (fun _ member => List.mem_map_of_mem member)⟩

theorem read_items_changed {α : Type} (read : Reader α) (write : α → Json) (field : String) (change : α → α)
    (values : List α) (item : ∀ value ∈ values, read field (write value) = .ok (change value)) :
    readItems read field (values.map write) = .ok (values.map change) := by
  induction values with
  | nil => rfl
  | cons value rest ih =>
      have first := item value (List.mem_cons_self ..)
      have later := ih (fun other member => item other (List.mem_cons_of_mem value member))
      rw [List.map_cons, readItems, first, later]
      rfl

theorem read_items_map {α : Type} (read : Reader α) (write : α → Json) (field : String)
    (values : List α) (faithful : ∀ value ∈ values, read field (write value) = .ok value) :
    readItems read field (values.map write) = .ok values := by
  have whole := read_items_changed read write field id values faithful
  rwa [List.map_id] at whole

theorem read_items_ok {α : Type} (read : Reader α) (write : α → Json) (field : String)
    (values results : List α) (whole : readItems read field (values.map write) = .ok results) :
    ∀ value ∈ values, ∃ result, read field (write value) = .ok result := by
  induction values generalizing results with
  | nil => simp
  | cons value rest ih =>
      rw [List.map_cons, readItems] at whole
      cases first : read field (write value) with
      | error error =>
          rw [first] at whole
          cases whole
      | ok result =>
          rw [first] at whole
          cases later : readItems read field (rest.map write) with
          | error error =>
              rw [later] at whole
              cases whole
          | ok others =>
              intro other member
              cases List.mem_cons.mp member with
              | inl same => exact ⟨result, same ▸ first⟩
              | inr inside => exact ih others later other inside

end Json

end SchwabGateway.Upstream
