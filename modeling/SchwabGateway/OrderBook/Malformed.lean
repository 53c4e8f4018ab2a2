import SchwabGateway.Library.Uncaught
import SchwabGateway.OrderBook.Feed
import SchwabGateway.OrderBook.Reading
import SchwabGateway.Upstream.Extremes

set_option autoImplicit false

namespace SchwabGateway.OrderBook

open SchwabGateway.Library SchwabGateway.Python
open SchwabGateway.Upstream (blank isSpace huge infinite)

def BookError.isMalformed : BookError → Bool
  | .malformed _ => true
  | .validation _ _ => false
  | .overflowError => false

-- How a part of a message ends: with an exception that handle_book lets out,
-- with an OrderBookMalformedError, or read.
abbrev Ends {α : Type} (extreme refused : Bool) (outcome : Except BookError α) : Prop :=
  Courses BookError.isMalformed extreme refused outcome

theorem ends_invalid {α : Type} (name : String) : Ends false true (invalid name : Except BookError α) :=
  courses_refused _ rfl

section Parts

variable (literals : Literals)

def numberOf (value : PyValue) : Option ℚ :=
  match toFloat literals value with
  | .ok (.finite number) => some number
  | _ => none

def countOf (value : PyValue) : Option Int :=
  match toInt literals value with
  | .ok number => if isInteger value ∧ 0 ≤ number then some number else none
  | .error _ => none

variable (payload : Fields) (name : String)

theorem required_number_ends :
    Ends (huge (PyValue.get payload name)) (numberOf literals (PyValue.get payload name)).isNone
      (requiredNumber literals payload name) := by
  rw [requiredNumber]
  cases PyValue.get payload name with
  | int number =>
      by_cases small : number.natAbs < floatLimit
      · have plain : huge (.int number) = false := decide_eq_false (Nat.not_le.mpr small)
        simp only [plain, numberOf, toFloat, floatOfInt, if_pos small]
        exact courses_ok _
      · have large : huge (.int number) = true := decide_eq_true (Nat.not_lt.mp small)
        simp only [large, numberOf, toFloat, floatOfInt, if_neg small]
        exact courses_uncaught _ _ rfl
  | float number =>
      cases number with
      | finite value => exact courses_ok value
      | infinity | negInfinity | nan => exact ends_invalid name
  | str text =>
      simp only [numberOf, toFloat]
      cases literals.float text with
      | none => exact ends_invalid name
      | some number =>
          cases number with
          | finite value => exact courses_ok value
          | infinity | negInfinity | nan => exact ends_invalid name
  | bool flag => exact courses_ok _
  | none | list _ | dict _ | object => exact ends_invalid name

theorem required_count_ends :
    Ends (infinite (PyValue.get payload name)) (countOf literals (PyValue.get payload name)).isNone
      (requiredNonnegativeInt literals payload name) := by
  rw [requiredNonnegativeInt]
  generalize PyValue.get payload name = raw
  have read : ∀ number, toInt literals raw = .ok number → infinite raw = false →
      Ends (infinite raw) (countOf literals raw).isNone
        (if isInteger raw ∧ 0 ≤ number then .ok number.toNat else invalid name) := by
    intro number found plain
    rw [plain, countOf, found]
    by_cases valid : isInteger raw ∧ 0 ≤ number
    · simp only [if_pos valid]
      exact courses_ok _
    · simp only [if_neg valid]
      exact ends_invalid name
  cases raw with
  | bool flag => exact read _ rfl rfl
  | int number => exact read number rfl rfl
  | float number =>
      cases number with
      | finite value => exact read _ rfl rfl
      | infinity | negInfinity => exact courses_uncaught _ _ rfl
      | nan => exact ends_invalid name
  | str text =>
      cases found : literals.int text with
      | none =>
          simp only [countOf, toInt, found]
          exact ends_invalid name
      | some number =>
          have one : toInt literals (.str text) = .ok number := by rw [toInt, found]
          have whole := read number one rfl
          rw [one]
          exact whole
  | none | list _ | dict _ | object => exact ends_invalid name

def refusedOptional (value : PyValue) : Bool :=
  match value with
  | .none => false
  | value => (countOf literals value).isNone

theorem optional_count_ends :
    Ends (infinite (PyValue.get payload name)) (refusedOptional literals (PyValue.get payload name))
      (optionalNonnegativeInt literals payload name) := by
  have one := courses_map _ _ _ some (required_count_ends literals payload name)
  rw [optionalNonnegativeInt]
  cases found : PyValue.get payload name with
  | none => exact courses_ok none
  | bool _ | int _ | float _ | str _ | list _ | dict _ | object =>
      rw [found] at one
      exact one

-- A time that is not there or not a number is missing, and no complaint.
theorem book_timestamp_settles (value : PyValue) :
    Settles BookError.isMalformed (infinite value) (bookTimestamp literals value) := by
  have read : ∀ number, toInt literals value = .ok number → infinite value = false →
      Settles BookError.isMalformed (infinite value) (bookTimestamp literals value) := by
    intro number found plain
    rw [plain, bookTimestamp, found]
    by_cases past : number ≤ 0
    · simp only [if_pos past]
      exact settles_ok none
    · simp only [if_neg past]
      exact settles_ok _
  cases value with
  | bool flag => exact read _ rfl rfl
  | int number => exact read number rfl rfl
  | float number =>
      cases number with
      | finite value => exact read _ rfl rfl
      | infinity | negInfinity => exact .inl ⟨rfl, .overflowError, rfl, rfl⟩
      | nan => exact settles_ok none
  | str text =>
      cases found : literals.int text with
      | none =>
          simp only [bookTimestamp, toInt, found]
          exact settles_ok none
      | some number => exact read number (by rw [toInt, found]) rfl
  | none | list _ | dict _ | object => exact settles_ok none

end Parts

section Rows

variable (literals : Literals)

def namesExchange (payload : Fields) (field : String) : Bool :=
  match PyValue.get payload field with
  | .str text => !blank text
  | _ => false

def extremeParticipant (exchangeField sizeField : String) : PyValue → Bool
  | .dict payload =>
      let size := PyValue.get payload sizeField
      namesExchange payload exchangeField &&
        (infinite size || (!(countOf literals size).isNone && infinite (PyValue.get payload "SEQUENCE")))
  | _ => false

def refusedParticipant (exchangeField sizeField : String) : PyValue → Bool
  | .dict payload =>
      !namesExchange payload exchangeField || ((countOf literals (PyValue.get payload sizeField)).isNone ||
        refusedOptional literals (PyValue.get payload "SEQUENCE"))
  | _ => true

theorem participant_ends (exchangeField sizeField : String) (item : PyValue) :
    Ends (extremeParticipant literals exchangeField sizeField item)
      (refusedParticipant literals exchangeField sizeField item)
      (bookParticipant literals exchangeField sizeField item) := by
  cases item with
  | dict payload =>
      simp only [extremeParticipant, refusedParticipant, namesExchange, bookParticipant]
      cases PyValue.get payload exchangeField with
      | str text =>
          cases empty : blank text with
          | true =>
              simp only [empty, Bool.true_eq_false, dite_false]
              exact courses_refused _ rfl
          | false =>
              simp only [empty, dite_true, Bool.not_false, Bool.true_and, Bool.not_true, Bool.false_or]
              apply courses_bind _ _ _ _ _ _ (required_count_ends literals payload sizeField)
              intro size _
              apply courses_then_ok _ _ _ _ (optional_count_ends literals payload "SEQUENCE")
              intro sequence
              exact ⟨_, rfl⟩
      | none | bool _ | int _ | float _ | list _ | dict _ | object => exact courses_refused _ rfl
  | none | bool _ | int _ | float _ | str _ | list _ | object => exact courses_refused _ rfl

def extremeItems (extreme refused : PyValue → Bool) : PyValue → Bool
  | .list items => firstFault extreme refused items
  | _ => false

def refusedItems (refused : PyValue → Bool) : PyValue → Bool
  | .list items => items.any refused
  | _ => true

def extremeParticipants (exchangeField sizeField : String) : PyValue → Bool :=
  extremeItems (extremeParticipant literals exchangeField sizeField)
    (refusedParticipant literals exchangeField sizeField)

def refusedParticipants (exchangeField sizeField : String) : PyValue → Bool :=
  refusedItems (refusedParticipant literals exchangeField sizeField)

theorem participants_end (exchangeField sizeField : String) (value : PyValue) :
    Ends (extremeParticipants literals exchangeField sizeField value)
      (refusedParticipants literals exchangeField sizeField value)
      (bookParticipants literals exchangeField sizeField value) := by
  cases value with
  | list items => exact courses_map_m _ _ _ (participant_ends literals exchangeField sizeField) items
  | none | bool _ | int _ | float _ | str _ | dict _ | object => exact courses_refused _ rfl

def notPositive (value : PyValue) : Bool := (numberOf literals value).any (fun number => number ≤ 0)

def extremeLevel (side : Side) : PyValue → Bool
  | .dict payload =>
      let participants := PyValue.get payload (side.upper ++ "S")
      let price := PyValue.get payload (side.upper ++ "_PRICE")
      let total := PyValue.get payload "TOTAL_VOLUME"
      let count := PyValue.get payload ("NUM_" ++ side.upper ++ "S")
      extremeParticipants literals "EXCHANGE" (side.upper ++ "_VOLUME") participants ||
        (!refusedParticipants literals "EXCHANGE" (side.upper ++ "_VOLUME") participants &&
          (huge price || (!(numberOf literals price).isNone &&
            (!notPositive literals price &&
              (infinite total || (!(countOf literals total).isNone && infinite count))))))
  | _ => false

def refusedLevel (side : Side) : PyValue → Bool
  | .dict payload =>
      let participants := PyValue.get payload (side.upper ++ "S")
      let price := PyValue.get payload (side.upper ++ "_PRICE")
      let total := PyValue.get payload "TOTAL_VOLUME"
      let count := PyValue.get payload ("NUM_" ++ side.upper ++ "S")
      refusedParticipants literals "EXCHANGE" (side.upper ++ "_VOLUME") participants ||
        ((numberOf literals price).isNone || (notPositive literals price ||
          ((countOf literals total).isNone || (countOf literals count).isNone)))
  | _ => true

theorem level_ends (side : Side) (item : PyValue) :
    Ends (extremeLevel literals side item) (refusedLevel literals side item) (bookLevel literals side item) := by
  cases item with
  | dict payload =>
      rw [extremeLevel, refusedLevel, bookLevel]
      apply courses_bind _ _ _ _ _ _ (participants_end literals _ _ _)
      intro participants _
      apply courses_bind _ _ _ _ _ _ (required_number_ends literals payload _)
      intro price priced
      have number := (required_number_ok literals payload _ price).mp priced
      have found : numberOf literals (PyValue.get payload (side.upper ++ "_PRICE")) = some price := by
        rw [numberOf, number]
      by_cases above : 0 < price
      · have positive : notPositive literals (PyValue.get payload (side.upper ++ "_PRICE")) = false := by
          rw [notPositive, found]
          exact decide_eq_false (not_le.mpr above)
        rw [dif_pos above, positive, Bool.not_false, Bool.true_and, Bool.false_or]
        apply courses_bind _ _ _ _ _ _ (required_count_ends literals payload _)
        intro totalSize _
        apply courses_then_ok _ _ _ _ (required_count_ends literals payload _)
        intro participantCount
        exact ⟨_, rfl⟩
      · have negative : notPositive literals (PyValue.get payload (side.upper ++ "_PRICE")) = true := by
          rw [notPositive, found]
          exact decide_eq_true (not_lt.mp above)
        rw [dif_neg above, negative, Bool.not_true, Bool.false_and, Bool.true_or]
        exact courses_refused _ rfl
  | none | bool _ | int _ | float _ | str _ | list _ | object => exact courses_refused _ rfl

def extremeSide (side : Side) : PyValue → Bool :=
  extremeItems (extremeLevel literals side) (refusedLevel literals side)

def refusedSide (side : Side) : PyValue → Bool := refusedItems (refusedLevel literals side)

theorem side_ends (side : Side) (value : PyValue) :
    Ends (extremeSide literals side value) (refusedSide literals side value) (bookLevels literals side value) := by
  cases value with
  | list items =>
      exact courses_map _ _ _ side.sorted (courses_map_m _ _ _ (level_ends literals side) items)
  | none | bool _ | int _ | float _ | str _ | dict _ | object => exact courses_refused _ rfl

end Rows

section Symbols

theorem mem_drop_while {α : Type} (drop : α → Bool) (items : List α) (item : α) (member : item ∈ items)
    (kept : drop item = false) : item ∈ items.dropWhile drop := by
  rw [← List.takeWhile_append_dropWhile (p := drop) (l := items), List.mem_append] at member
  rcases member with taken | rest
  · rw [List.mem_takeWhile_imp taken] at kept
    cases kept
  · exact rest

theorem strip_not_blank (text : String) (named : blank text = false) : blank (strip text) = false := by
  simp only [blank, List.all_eq_false, Bool.not_eq_true] at named
  obtain ⟨c, member, visible⟩ := named
  have left := mem_drop_while isSpace _ c member visible
  have right := mem_drop_while isSpace _ c (List.mem_reverse.mpr left) visible
  rw [strip, blank, String.toList_ofList, List.all_eq_false]
  exact ⟨c, List.mem_reverse.mpr right, by simp [visible]⟩

def KeepsVisible (upper : String → String) : Prop := ∀ text, blank text = false → blank (upper text) = false

end Symbols

section Messages

variable (literals : Literals) (upper : String → String) (venue : Venue) (gatewayReceivedAt : Datetime)

def namesSymbol (payload : Fields) : Bool :=
  match PyValue.get payload "key" with
  | .str key => !blank key
  | _ => false

def extremeEntry : PyValue → Bool
  | .dict payload =>
      let sequence := PyValue.get payload "seq"
      let bids := PyValue.get payload "BIDS"
      namesSymbol payload &&
        (infinite sequence || (!refusedOptional literals sequence &&
          (infinite (PyValue.get payload "BOOK_TIME") || (extremeSide literals .bid bids ||
            (!refusedSide literals .bid bids && extremeSide literals .ask (PyValue.get payload "ASKS"))))))
  | _ => false

def refusedEntry : PyValue → Bool
  | .dict payload =>
      !namesSymbol payload || (refusedOptional literals (PyValue.get payload "seq") ||
        (refusedSide literals .bid (PyValue.get payload "BIDS") ||
          refusedSide literals .ask (PyValue.get payload "ASKS")))
  | _ => true

def extremeMessage : PyValue → Bool
  | .dict fields =>
      isText venue.service (PyValue.get fields "service") &&
        extremeItems (extremeEntry literals) (refusedEntry literals) (PyValue.get fields "content")
  | _ => false

section Reporting

variable (visible : KeepsVisible upper)

include visible

theorem entry_ends (entry : PyValue) :
    Ends (extremeEntry literals entry) (refusedEntry literals entry)
      (bookEntry literals upper venue gatewayReceivedAt entry) := by
  cases entry with
  | dict payload =>
      rw [extremeEntry, refusedEntry, bookEntry, namesSymbol]
      cases PyValue.get payload "key" with
      | str key =>
          cases named : blank key with
          | true =>
              simp only [named, if_true, Bool.not_true, Bool.false_and, Bool.not_false, Bool.true_or]
              exact courses_refused _ rfl
          | false =>
              simp only [named, Bool.false_eq_true, if_false, Bool.not_false, Bool.true_and, Bool.not_true,
                Bool.false_or]
              apply courses_bind _ _ _ _ _ _ (optional_count_ends literals payload "seq")
              intro sequence _
              apply courses_after_settles _ _ _ _ _ (book_timestamp_settles literals _)
              intro eventTimestamp _
              apply courses_bind _ _ _ _ _ _ (side_ends literals .bid _)
              intro bids _
              apply courses_then_ok _ _ _ _ (side_ends literals .ask _)
              intro asks
              rw [bookSnapshot, visible _ (strip_not_blank key named)]
              exact ⟨_, rfl⟩
      | none | bool _ | int _ | float _ | list _ | dict _ | object => exact courses_refused _ rfl
  | none | bool _ | int _ | float _ | str _ | list _ | object => exact courses_refused _ rfl

theorem message_uncaught_iff (message : PyValue) :
    Uncaught BookError.isMalformed (normalizeSchwabBookMessage literals upper venue gatewayReceivedAt message) ↔
      extremeMessage literals venue message = true := by
  cases message with
  | dict fields =>
      rw [extremeMessage, normalizeSchwabBookMessage]
      cases isText venue.service (PyValue.get fields "service") with
      | false => simp [uncaught_error, BookError.isMalformed]
      | true =>
          rw [if_pos rfl, Bool.true_and]
          cases PyValue.get fields "content" with
          | list entries =>
              cases entries with
              | nil => simp [uncaught_error, BookError.isMalformed, extremeItems, firstFault]
              | cons entry rest =>
                  have ends := courses_map_m _ _ _ (entry_ends literals upper venue gatewayReceivedAt visible)
                    (entry :: rest)
                  exact ends.uncaught
          | none | bool _ | int _ | float _ | str _ | dict _ | object =>
              simp [uncaught_error, BookError.isMalformed, extremeItems]
  | none | bool _ | int _ | float _ | str _ | list _ | object =>
      simp [normalizeSchwabBookMessage, extremeMessage, uncaught_error, BookError.isMalformed]

end Reporting

def Reported {α : Type} (outcome : Except BookError α) : Prop :=
  (∃ result, outcome = .ok result) ∨ ∃ text, outcome = .error (.malformed text)

theorem reported_iff {α : Type} (outcome : Except BookError α) :
    Reported outcome ↔ ¬ Uncaught BookError.isMalformed outcome := by
  cases outcome with
  | ok result => simp [Reported, Uncaught]
  | error error => cases error <;> simp [Reported, Uncaught, BookError.isMalformed]

variable (clock : Nat → ℚ)

theorem publish_all_place (snapshots : List (Snapshot Depth)) (feed : OrderBookLiveFeed) :
    (snapshots.foldl (OrderBookLiveFeed.publish clock) feed).place = feed.place := by
  induction snapshots generalizing feed with
  | nil => rfl
  | cons snapshot rest ih => exact ih (feed.publish clock snapshot)

-- The connection outlives a message exactly when the handler has a name for it.
theorem handle_book_receiving_iff (feed : OrderBookLiveFeed) (receiving : feed.place = .receiving)
    (receivedAt : Datetime) (received : feed.lastReceivedAt = some receivedAt) (message : PyValue) :
    (feed.handleBook literals upper venue clock message).place = .receiving ↔
      Reported (normalizeSchwabBookMessage literals upper venue receivedAt message) := by
  rw [OrderBookLiveFeed.handleBook, received]
  dsimp only
  cases normalizeSchwabBookMessage literals upper venue receivedAt message with
  | ok snapshots =>
      simp only [Reported, Except.ok.injEq, exists_eq', true_or, iff_true]
      rw [publish_all_place]
      cases snapshots with
      | nil => exact receiving
      | cons snapshot rest => exact receiving
  | error error =>
      cases error with
      | malformed text => simp [Reported, receiving]
      | validation _ _ | overflowError => simp [Reported, OrderBookLiveFeed.raised]

theorem book_message_reported_iff (visible : KeepsVisible upper) (message : PyValue) :
    (Reported (normalizeSchwabBookMessage literals upper venue gatewayReceivedAt message) ↔
      extremeMessage literals venue message = false) ∧
    ∀ feed : OrderBookLiveFeed, feed.place = .receiving → feed.lastReceivedAt = some gatewayReceivedAt →
      ((feed.handleBook literals upper venue clock message).place = .receiving ↔
        extremeMessage literals venue message = false) := by
  have whole : Reported (normalizeSchwabBookMessage literals upper venue gatewayReceivedAt message) ↔
      extremeMessage literals venue message = false := by
    rw [reported_iff, message_uncaught_iff literals upper venue gatewayReceivedAt visible, Bool.not_eq_true]
  refine ⟨whole, ?_⟩
  intro feed receiving received
  rw [handle_book_receiving_iff literals upper venue clock feed receiving gatewayReceivedAt received, whole]

end Messages

section Sample

def plainLiterals : Literals := ⟨fun _ => none, fun _ => none⟩

def sequencedBook (sequence : PyValue) : PyValue :=
  .dict [(.str "service", .str "NASDAQ_BOOK"),
    (.str "content", .list [.dict [(.str "key", .str "AAPL"), (.str "seq", sequence),
      (.str "BOOK_TIME", .int 1000), (.str "BIDS", .list []), (.str "ASKS", .list [])]])]

theorem book_message_reported_plain :
    Reported (normalizeSchwabBookMessage plainLiterals (fun text => text) .nasdaq 2000000
      (sequencedBook (.int 7))) :=
  (book_message_reported_iff plainLiterals (fun text => text) .nasdaq 2000000 (fun _ => 0)
    (fun _ named => named) (sequencedBook (.int 7))).1.mpr (by decide +kernel)

theorem book_message_infinite_sequence :
    normalizeSchwabBookMessage plainLiterals (fun text => text) .nasdaq 2000000
        (sequencedBook (.float .infinity)) = .error .overflowError := by
  decide +kernel

end Sample

end SchwabGateway.OrderBook
