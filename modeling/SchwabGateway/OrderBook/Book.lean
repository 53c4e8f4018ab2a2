import Mathlib.Data.List.DropRight
import Mathlib.Data.List.Sort
import SchwabGateway.OrderBook.Store
import SchwabGateway.Python.Number
import SchwabGateway.Python.Time
import SchwabGateway.Upstream.OptionContract

set_option autoImplicit false

namespace SchwabGateway.OrderBook

open SchwabGateway.Library SchwabGateway.Python
open SchwabGateway.Upstream (blank isSpace flagIf mem_flag_if)

-- What normalize_schwab_book_message can raise: OrderBookMalformedError, the
-- ValidationError of a model, or the OverflowError that no helper catches.
inductive BookError where
  | malformed (message : String)
  | validation (field message : String)
  | overflowError
deriving DecidableEq

def Venue.service : Venue → String
  | .nasdaq => "NASDAQ_BOOK"
  | .nyse => "NYSE_BOOK"

inductive Side where
  | bid
  | ask
deriving DecidableEq

def Side.text : Side → String
  | .bid => "bid"
  | .ask => "ask"

def Side.upper : Side → String
  | .bid => "BID"
  | .ask => "ASK"

structure OrderBookParticipantV1 where
  exchange : String
  size : Nat
  sequence : Option Nat
  exchangeNotEmpty : blank exchange = false

theorem OrderBookParticipantV1.eq_iff (first second : OrderBookParticipantV1) :
    (first.exchange = second.exchange ∧ first.size = second.size ∧ first.sequence = second.sequence) ↔
      first = second := by
  cases first
  cases second
  simp only [mk.injEq]

instance : DecidableEq OrderBookParticipantV1 := fun first second =>
  decidable_of_iff _ (OrderBookParticipantV1.eq_iff first second)

structure OrderBookLevelV1 where
  price : {price : ℚ // 0 < price}
  totalSize : Nat
  participantCount : Nat
  participants : List OrderBookParticipantV1
deriving DecidableEq

def Side.before (side : Side) (first second : OrderBookLevelV1) : Prop :=
  match side with
  | .bid => second.price ≤ first.price
  | .ask => first.price ≤ second.price

instance (side : Side) : DecidableRel side.before := fun first second =>
  match side with
  | .bid => inferInstanceAs (Decidable (second.price ≤ first.price))
  | .ask => inferInstanceAs (Decidable (first.price ≤ second.price))

instance (side : Side) : Std.Total side.before where
  total first second := by
    cases side with
    | bid => exact le_total second.price first.price
    | ask => exact le_total first.price second.price

instance (side : Side) : IsTrans OrderBookLevelV1 side.before where
  trans first second third early late := by
    cases side with
    | bid => exact le_trans late early
    | ask => exact le_trans early late

abbrev Side.Levels (side : Side) := {levels : List OrderBookLevelV1 // levels.Pairwise side.before}

-- sorted with a key keeps levels of one price in their order, also in reverse.
def Side.sorted (side : Side) (levels : List OrderBookLevelV1) : side.Levels :=
  ⟨levels.insertionSort side.before, List.pairwise_insertionSort side.before levels⟩

-- OrderBookSnapshotV1 apart from its symbol and its venue.
structure Depth where
  service : String
  connectionId : Nat
  continuityEpoch : Nat
  sequence : Option Nat
  eventTimestamp : Option Datetime
  gatewayReceivedAt : Datetime
  bids : Side.bid.Levels
  asks : Side.ask.Levels
  dataQualityFlags : List String
deriving DecidableEq

def strip (text : String) : String :=
  String.ofList ((text.toList.dropWhile isSpace).rdropWhile isSpace)

section Normalizing

-- upper is str.upper.
variable (literals : Literals) (upper : String → String)

abbrev Fields := List (PyValue × PyValue)

def invalid {α : Type} (name : String) : Except BookError α :=
  .error (.malformed ("order-book " ++ name ++ " is invalid"))

-- A missing field reads as None, which float and int refuse too.
def requiredNumber (payload : Fields) (name : String) : Except BookError ℚ :=
  match toFloat literals (PyValue.get payload name) with
  | .ok (.finite value) => .ok value
  | .error .overflowError => .error .overflowError
  | _ => invalid name

def isInteger : PyValue → Bool
  | .float (.finite value) => value.den = 1
  | _ => true

def requiredNonnegativeInt (payload : Fields) (name : String) : Except BookError Nat :=
  let raw := PyValue.get payload name
  match toInt literals raw with
  | .error .overflowError => .error .overflowError
  | .error _ => invalid name
  | .ok value => if isInteger raw ∧ 0 ≤ value then .ok value.toNat else invalid name

def optionalNonnegativeInt (payload : Fields) (name : String) : Except BookError (Option Nat) :=
  match PyValue.get payload name with
  | .none => .ok none
  | _ => (requiredNonnegativeInt literals payload name).map some

-- _event_timestamp.
def bookTimestamp (value : PyValue) : Except BookError (Option Datetime) :=
  match toInt literals value with
  | .error .overflowError => .error .overflowError
  | .error _ => .ok none
  | .ok millis => if millis ≤ 0 then .ok none else .ok (fromMillis millis).toOption

def bookParticipant (exchangeField sizeField : String) :
    PyValue → Except BookError OrderBookParticipantV1
  | .dict payload =>
      match PyValue.get payload exchangeField with
      | .str exchange =>
          if named : blank exchange = false then do
            let size ← requiredNonnegativeInt literals payload sizeField
            let sequence ← optionalNonnegativeInt literals payload "SEQUENCE"
            return ⟨exchange, size, sequence, named⟩
          else .error (.malformed "order-book participant exchange is invalid")
      | _ => .error (.malformed "order-book participant exchange is invalid")
  | _ => .error (.malformed "order-book participant is invalid")

def bookParticipants (exchangeField sizeField : String) :
    PyValue → Except BookError (List OrderBookParticipantV1)
  | .list items => items.mapM (bookParticipant literals exchangeField sizeField)
  | _ => .error (.malformed "order-book participant list is invalid")

def bookLevel (side : Side) : PyValue → Except BookError OrderBookLevelV1
  | .dict payload => do
      let participants ←
        bookParticipants literals "EXCHANGE" (side.upper ++ "_VOLUME")
          (PyValue.get payload (side.upper ++ "S"))
      let price ← requiredNumber literals payload (side.upper ++ "_PRICE")
      if above : 0 < price then do
        let totalSize ← requiredNonnegativeInt literals payload "TOTAL_VOLUME"
        let participantCount ← requiredNonnegativeInt literals payload ("NUM_" ++ side.upper ++ "S")
        return ⟨⟨price, above⟩, totalSize, participantCount, participants⟩
      else .error (.malformed ("order-book " ++ side.text ++ " price is invalid"))
  | _ => .error (.malformed ("order-book " ++ side.text ++ " level is invalid"))

def bookLevels (side : Side) : PyValue → Except BookError side.Levels
  | .list items => (items.mapM (bookLevel literals side)).map side.sorted
  | _ => .error (.malformed ("order-book " ++ side.text ++ " levels are invalid"))

def countMismatch (level : OrderBookLevelV1) : Bool :=
  level.participantCount ≠ level.participants.length

def sizeMismatch (level : OrderBookLevelV1) : Bool :=
  level.totalSize ≠ (level.participants.map OrderBookParticipantV1.size).sum

def bookFlags (eventTimestamp : Option Datetime) (bids asks : List OrderBookLevelV1) : List String :=
  flagIf eventTimestamp.isNone "missing_book_timestamp" ++ flagIf bids.isEmpty "empty_bid_book" ++
    flagIf asks.isEmpty "empty_ask_book" ++
    flagIf ((bids ++ asks).any countMismatch) "participant_count_mismatch" ++
    flagIf ((bids ++ asks).any sizeMismatch) "participant_size_mismatch"

variable (venue : Venue) (gatewayReceivedAt : Datetime)

-- The constructor call of one entry. Everything that the validators check is
-- already so, except that the upper-case symbol is not blank.
def bookSnapshot (symbol : String) (depth : Depth) : Except BookError (Snapshot Depth) :=
  if blank symbol then .error (.validation "symbol" "order-book symbol must not be empty")
  else .ok ⟨symbol, venue, depth⟩

def bookEntry : PyValue → Except BookError (Snapshot Depth)
  | .dict entry =>
      match PyValue.get entry "key" with
      | .str symbol =>
          if blank symbol then .error (.malformed "order-book symbol is invalid")
          else do
            let sequence ← optionalNonnegativeInt literals entry "seq"
            let eventTimestamp ← bookTimestamp literals (PyValue.get entry "BOOK_TIME")
            let bids ← bookLevels literals .bid (PyValue.get entry "BIDS")
            let asks ← bookLevels literals .ask (PyValue.get entry "ASKS")
            bookSnapshot venue (upper (strip symbol)) {
              service := venue.service
              connectionId := 1
              continuityEpoch := 1
              dataQualityFlags := bookFlags eventTimestamp bids.1 asks.1
              sequence, eventTimestamp, gatewayReceivedAt, bids, asks }
      | _ => .error (.malformed "order-book symbol is invalid")
  | _ => .error (.malformed "order-book content entry is invalid")

def isText (text : String) : PyValue → Bool
  | .str value => value = text
  | _ => false

def normalizeSchwabBookMessage : PyValue → Except BookError (List (Snapshot Depth))
  | .dict message =>
      if isText venue.service (PyValue.get message "service") then
        match PyValue.get message "content" with
        | .list (entry :: rest) =>
            (entry :: rest).mapM (bookEntry literals upper venue gatewayReceivedAt)
        | _ => .error (.malformed "order-book content is empty or invalid")
      else .error (.malformed "order-book service does not match venue")
  | _ => .error (.malformed "order-book message is not an object")

end Normalizing

theorem book_flags_known (eventTimestamp : Option Datetime) (bids asks : List OrderBookLevelV1)
    (flag : String) (member : flag ∈ bookFlags eventTimestamp bids asks) :
    flag ∈ ["missing_book_timestamp", "empty_bid_book", "empty_ask_book", "participant_count_mismatch",
      "participant_size_mismatch"] := by
  simp only [bookFlags, List.mem_append, mem_flag_if] at member
  obtain ((((⟨-, rfl⟩ | ⟨-, rfl⟩) | ⟨-, rfl⟩) | ⟨-, rfl⟩) | ⟨-, rfl⟩) := member <;> decide

section Normalized

variable (literals : Literals) (upper : String → String) (venue : Venue) (gatewayReceivedAt : Datetime)

-- What a normalized snapshot is before the feed labels it.
structure Normalized (snapshot : Snapshot Depth) : Prop where
  service : snapshot.depth.service = venue.service
  venue : snapshot.venue = venue
  received : snapshot.depth.gatewayReceivedAt = gatewayReceivedAt
  flags : snapshot.depth.dataQualityFlags =
    bookFlags snapshot.depth.eventTimestamp snapshot.depth.bids.1 snapshot.depth.asks.1

theorem book_entry_normalized (entry : PyValue) (snapshot : Snapshot Depth)
    (done : bookEntry literals upper venue gatewayReceivedAt entry = .ok snapshot) :
    Normalized venue gatewayReceivedAt snapshot := by
  unfold bookEntry at done
  split at done
  · split at done
    · split at done
      · cases done
      · obtain ⟨sequence, -, done⟩ := (bind_ok_iff _ _ _).mp done
        obtain ⟨eventTimestamp, -, done⟩ := (bind_ok_iff _ _ _).mp done
        obtain ⟨bids, -, done⟩ := (bind_ok_iff _ _ _).mp done
        obtain ⟨asks, -, done⟩ := (bind_ok_iff _ _ _).mp done
        unfold bookSnapshot at done
        split at done
        · cases done
        · cases done
          exact ⟨rfl, rfl, rfl, rfl⟩
    · cases done
  · cases done

theorem entries_normalized (entries : List PyValue) (snapshots : List (Snapshot Depth))
    (each : List.Forall₂
      (fun entry snapshot => bookEntry literals upper venue gatewayReceivedAt entry = .ok snapshot)
      entries snapshots) : ∀ snapshot ∈ snapshots, Normalized venue gatewayReceivedAt snapshot := by
  induction each with
  | nil => nofun
  | cons here rest ih =>
      intro snapshot member
      rcases List.mem_cons.mp member with rfl | later
      · exact book_entry_normalized literals upper venue gatewayReceivedAt _ snapshot here
      · exact ih snapshot later

theorem normalize_normalized (message : PyValue) (snapshots : List (Snapshot Depth))
    (done : normalizeSchwabBookMessage literals upper venue gatewayReceivedAt message = .ok snapshots) :
    snapshots ≠ [] ∧ ∀ snapshot ∈ snapshots, Normalized venue gatewayReceivedAt snapshot := by
  unfold normalizeSchwabBookMessage at done
  split at done
  · split at done
    · split at done
      · have each := (map_m_ok_iff _ _ _).mp done
        refine ⟨?_, entries_normalized literals upper venue gatewayReceivedAt _ snapshots each⟩
        rintro rfl
        cases each
      · cases done
    · cases done
  · cases done

end Normalized

end SchwabGateway.OrderBook
