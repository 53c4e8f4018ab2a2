import SchwabGateway.OrderBook.Book
import SchwabGateway.Upstream.WireLoss

set_option autoImplicit false

namespace SchwabGateway.OrderBook

open SchwabGateway.Library SchwabGateway.Python SchwabGateway.Upstream

def Venue.text : Venue → String
  | .nasdaq => "NASDAQ"
  | .nyse => "NYSE"

def Venue.read : Json.Reader Venue
  | _, .text "NASDAQ" => .ok .nasdaq
  | _, .text "NYSE" => .ok .nyse
  | field, _ => .error (.validation field "Input should be 'NASDAQ' or 'NYSE'")

def readService : Json.Reader String
  | _, .text "NASDAQ_BOOK" => .ok "NASDAQ_BOOK"
  | _, .text "NYSE_BOOK" => .ok "NYSE_BOOK"
  | field, _ => .error (.validation field "Input should be 'NASDAQ_BOOK' or 'NYSE_BOOK'")

def readExactly (text : String) : Json.Reader String
  | field, .text value =>
      if value = text then .ok value else .error (.validation field ("Input should be '" ++ text ++ "'"))
  | field, _ => .error (.validation field ("Input should be '" ++ text ++ "'"))

def readFalse : Json.Reader Bool
  | _, .bool false => .ok false
  | field, _ => .error (.validation field "Input should be False")

section Fields

variable (fields : List (String × Json))

def sequenceMessage : String := "order-book sequence must be nonnegative"

-- The field is a plain int. The gateway sends no negative one, and a negative
-- one has no counterpart here.
def readSequence : Result (Option Nat) := do
  let number ← optionalInt fields "sequence"
  nullable (count "sequence" sequenceMessage) number

def connectionMessage : String := "order-book connection fields must be positive"

def readConnectionField (name : String) : Result Nat := do
  let number ← Json.defaulted fields name 1 Json.readInt
  if 1 ≤ number then return number.toNat else .error (.validation name connectionMessage)

end Fields

namespace OrderBookParticipantV1

def entries (participant : OrderBookParticipantV1) : List (String × Json) :=
  [("exchange", .text participant.exchange),
    ("size", .int participant.size),
    ("sequence", countOrNull participant.sequence)]

def modelDump (participant : OrderBookParticipantV1) : Json := .object participant.entries

def fieldNames : List String := ["exchange", "size", "sequence"]

def modelValidate : Json.Reader OrderBookParticipantV1
  | _, .object fields => do
      let exchange ← Json.required fields "exchange" Json.readText
      let size ← requiredCount fields "order-book participant size must be nonnegative" "size"
      let sequence ← readSequence fields
      Json.onlyFields fieldNames fields
      if named : blank exchange = false then return ⟨exchange, size, sequence, named⟩
      else .error (.validation "exchange" "order-book participant exchange must not be empty")
  | field, _ => .error (notObject field)

end OrderBookParticipantV1

namespace OrderBookLevelV1

def entries (level : OrderBookLevelV1) : List (String × Json) :=
  [("price", .float level.price),
    ("total_size", .int level.totalSize),
    ("participant_count", .int level.participantCount),
    ("participants", .array (level.participants.map OrderBookParticipantV1.modelDump))]

def modelDump (level : OrderBookLevelV1) : Json := .object level.entries

def fieldNames : List String := ["price", "total_size", "participant_count", "participants"]

def countsMessage : String := "order-book counts must be nonnegative"

def modelValidate : Json.Reader OrderBookLevelV1
  | _, .object fields => do
      let number ← Json.required fields "price" Json.readFloat
      let price ← positive "price" "order-book price must be finite and positive" number
      let totalSize ← requiredCount fields countsMessage "total_size"
      let participantCount ← requiredCount fields countsMessage "participant_count"
      let participants ←
        Json.defaulted fields "participants" [] (Json.readArray OrderBookParticipantV1.modelValidate)
      Json.onlyFields fieldNames fields
      return ⟨price, totalSize, participantCount, participants⟩
  | field, _ => .error (notObject field)

end OrderBookLevelV1

def readSide (side : Side) (message : String) (levels : List OrderBookLevelV1) : Result side.Levels :=
  if sorted : levels.Pairwise side.before then .ok ⟨levels, sorted⟩ else .error (.validation "" message)

namespace OrderBookSnapshotV1

def entries (snapshot : Snapshot Depth) : List (String × Json) :=
  [("schema_version", .text "1.0"),
    ("symbol", .text snapshot.symbol),
    ("venue", .text snapshot.venue.text),
    ("service", .text snapshot.depth.service),
    ("connection_id", .int snapshot.depth.connectionId),
    ("continuity_epoch", .int snapshot.depth.continuityEpoch),
    ("sequence", countOrNull snapshot.depth.sequence),
    ("event_timestamp", timeOrNull snapshot.depth.eventTimestamp),
    ("gateway_received_at", .datetime snapshot.depth.gatewayReceivedAt),
    ("source", .text "schwab_streaming"),
    ("is_consolidated", .bool false),
    ("bids", .array (snapshot.depth.bids.1.map OrderBookLevelV1.modelDump)),
    ("asks", .array (snapshot.depth.asks.1.map OrderBookLevelV1.modelDump)),
    ("data_quality_flags", flagsArray snapshot.depth.dataQualityFlags)]

def modelDump (snapshot : Snapshot Depth) : Json := .object (entries snapshot)

def fieldNames : List String :=
  ["schema_version", "symbol", "venue", "service", "connection_id", "continuity_epoch", "sequence",
    "event_timestamp", "gateway_received_at", "source", "is_consolidated", "bids", "asks",
    "data_quality_flags"]

-- What the validators of the model check of a snapshot with sorted levels.
structure Valid (snapshot : Snapshot Depth) : Prop where
  symbol : blank snapshot.symbol = false
  service : snapshot.depth.service = snapshot.venue.service
  connectionId : 1 ≤ snapshot.depth.connectionId
  continuityEpoch : 1 ≤ snapshot.depth.continuityEpoch

def modelValidate : Json.Reader (Snapshot Depth)
  | _, .object fields => do
      let _ ← Json.defaulted fields "schema_version" "1.0" readVersion
      let symbol ← Json.required fields "symbol" Json.readText
      if blank symbol then .error (.validation "symbol" "order-book symbol must not be empty")
      else do
        let venue ← Json.required fields "venue" Venue.read
        let service ← Json.required fields "service" readService
        let connectionId ← readConnectionField fields "connection_id"
        let continuityEpoch ← readConnectionField fields "continuity_epoch"
        let sequence ← readSequence fields
        let eventTimestamp ← optionalTime fields
        let gatewayReceivedAt ← Json.required fields "gateway_received_at" Json.readDatetime
        let _ ← Json.defaulted fields "source" "schwab_streaming" (readExactly "schwab_streaming")
        let _ ← Json.defaulted fields "is_consolidated" false readFalse
        let bidLevels ← Json.required fields "bids" (Json.readArray OrderBookLevelV1.modelValidate)
        let askLevels ← Json.required fields "asks" (Json.readArray OrderBookLevelV1.modelValidate)
        let dataQualityFlags ← qualityFlags fields
        Json.onlyFields fieldNames fields
        if service ≠ venue.service then
          .error (.validation "" "order-book venue must match the Schwab service")
        else do
          let bids ← readSide .bid "order-book bids must be sorted highest first" bidLevels
          let asks ← readSide .ask "order-book asks must be sorted lowest first" askLevels
          return ⟨symbol, venue, {
            service, connectionId, continuityEpoch, sequence, eventTimestamp, gatewayReceivedAt, bids, asks,
            dataQualityFlags }⟩
  | field, _ => .error (notObject field)

end OrderBookSnapshotV1

namespace OrderBookStreamEnvelopeV1

def modelDump (snapshot : Snapshot Depth) : Json :=
  .object [
    ("schema_version", .text "1.0"),
    ("type", .text "order_book_snapshot"),
    ("snapshot", OrderBookSnapshotV1.modelDump snapshot)]

def fieldNames : List String := ["schema_version", "type", "snapshot"]

-- What is left of an envelope is its snapshot.
def modelValidate : Json → Result (Snapshot Depth)
  | .object fields => do
      let _ ← Json.defaulted fields "schema_version" "1.0" readVersion
      let _ ← Json.defaulted fields "type" "order_book_snapshot" (readExactly "order_book_snapshot")
      let snapshot ← Json.required fields "snapshot" OrderBookSnapshotV1.modelValidate
      Json.onlyFields fieldNames fields
      return snapshot
  | _ => .error (notObject "")

end OrderBookStreamEnvelopeV1

section RoundTrip

variable (field : String)

theorem read_venue (venue : Venue) : Venue.read field (.text venue.text) = .ok venue := by
  cases venue with
  | nasdaq => rfl
  | nyse => rfl

theorem read_service (venue : Venue) : readService field (.text venue.service) = .ok venue.service := by
  cases venue with
  | nasdaq => rfl
  | nyse => rfl

theorem read_exactly (text : String) : readExactly text field (.text text) = .ok text := by
  rw [readExactly, if_pos rfl]

theorem read_sequence (fields : List (String × Json)) (sequence : Option Nat)
    (found : fields.lookup "sequence" = some (countOrNull sequence)) : readSequence fields = .ok sequence := by
  rw [readSequence, optionalInt, Json.defaulted, found]
  exact (congrArg (fun read => read >>= nullable (count "sequence" sequenceMessage))
    (read_count "sequence" sequence)).trans (nullable_count "sequence" sequenceMessage sequence)

theorem read_connection_field (fields : List (String × Json)) (name : String) (number : Nat)
    (found : fields.lookup name = some (.int number)) (some_ : 1 ≤ number) :
    readConnectionField fields name = .ok number := by
  have positive : (1 : Int) ≤ number := by omega
  rw [readConnectionField, Json.defaulted, found]
  exact if_pos positive

theorem read_side (side : Side) (message : String) (levels : side.Levels) :
    readSide side message levels.1 = .ok levels := by
  rw [readSide, dif_pos levels.2]

theorem participant_round_trip (participant : OrderBookParticipantV1) :
    OrderBookParticipantV1.modelValidate field participant.modelDump = .ok participant := by
  obtain ⟨fields, whole⟩ : ∃ fields, participant.entries = fields := ⟨_, rfl⟩
  obtain ⟨found, known⟩ :=
    Json.whole_object OrderBookParticipantV1.fieldNames (by decide +kernel) participant.entries fields whole rfl
  simp only [OrderBookParticipantV1.entries, List.forall_mem_cons] at found
  rw [OrderBookParticipantV1.modelDump, whole]
  simp only [OrderBookParticipantV1.modelValidate, Json.required, requiredCount, found, known, Json.readText,
    Json.readInt, count_written, read_sequence fields participant.sequence found.2.2.1, bind, Except.bind]
  rw [dif_pos participant.exchangeNotEmpty]
  rfl

theorem level_round_trip (level : OrderBookLevelV1) :
    OrderBookLevelV1.modelValidate field level.modelDump = .ok level := by
  obtain ⟨fields, whole⟩ : ∃ fields, level.entries = fields := ⟨_, rfl⟩
  obtain ⟨found, known⟩ :=
    Json.whole_object OrderBookLevelV1.fieldNames (by decide +kernel) level.entries fields whole rfl
  have participants : Json.readArray OrderBookParticipantV1.modelValidate "participants"
      (.array (level.participants.map OrderBookParticipantV1.modelDump)) = .ok level.participants :=
    Json.read_items_map _ _ _ _ (fun participant _ => participant_round_trip "participants" participant)
  simp only [OrderBookLevelV1.entries, List.forall_mem_cons] at found
  rw [OrderBookLevelV1.modelDump, whole]
  simp only [OrderBookLevelV1.modelValidate, Json.required, Json.defaulted, requiredCount, found, known,
    Json.readFloat, Json.readInt, count_written, positive_finite, participants, bind, Except.bind]
  rfl

theorem levels_round_trip (levels : List OrderBookLevelV1) :
    Json.readArray OrderBookLevelV1.modelValidate field (.array (levels.map OrderBookLevelV1.modelDump)) =
      .ok levels :=
  Json.read_items_map _ _ _ _ (fun level _ => level_round_trip field level)

theorem snapshot_round_trip (snapshot : Snapshot Depth) (valid : OrderBookSnapshotV1.Valid snapshot) :
    OrderBookSnapshotV1.modelValidate field (OrderBookSnapshotV1.modelDump snapshot) = .ok snapshot := by
  obtain ⟨fields, whole⟩ : ∃ fields, OrderBookSnapshotV1.entries snapshot = fields := ⟨_, rfl⟩
  obtain ⟨found, known⟩ := Json.whole_object OrderBookSnapshotV1.fieldNames (by decide +kernel)
    (OrderBookSnapshotV1.entries snapshot) fields whole rfl
  simp only [OrderBookSnapshotV1.entries, List.forall_mem_cons] at found
  obtain ⟨version, symbol, venue, service, connectionId, continuityEpoch, sequence, eventTimestamp, received,
    source, consolidated, bids, asks, flags, -⟩ := found
  have named : blank snapshot.symbol = true ↔ False := by rw [valid.symbol]; simp
  have matched := read_service "service" snapshot.venue
  rw [← valid.service] at matched
  rw [OrderBookSnapshotV1.modelDump, whole]
  simp only [OrderBookSnapshotV1.modelValidate, Json.required, Json.defaulted, optionalTime, qualityFlags, version,
    symbol, venue, service, eventTimestamp, received, source, consolidated, bids, asks, flags, known, readVersion,
    Json.readText, Json.readDatetime, read_venue, matched, read_exactly, readFalse, read_time, read_flags,
    read_sequence fields _ sequence, read_connection_field fields _ _ connectionId valid.connectionId,
    read_connection_field fields _ _ continuityEpoch valid.continuityEpoch, levels_round_trip, read_side, named,
    if_false, valid.service.symm, ne_eq, not_true_eq_false, bind, Except.bind]
  rfl

theorem envelope_round_trip (snapshot : Snapshot Depth) (valid : OrderBookSnapshotV1.Valid snapshot) :
    OrderBookStreamEnvelopeV1.modelValidate (OrderBookStreamEnvelopeV1.modelDump snapshot) = .ok snapshot := by
  have body := snapshot_round_trip "snapshot" snapshot valid
  rw [OrderBookStreamEnvelopeV1.modelDump, OrderBookStreamEnvelopeV1.modelValidate]
  simp [Json.required, Json.defaulted, List.lookup_cons, readVersion, read_exactly, body, Json.onlyFields,
    OrderBookStreamEnvelopeV1.fieldNames, bind, Except.bind, pure, Except.pure]

end RoundTrip

end SchwabGateway.OrderBook
