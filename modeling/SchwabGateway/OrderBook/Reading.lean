import SchwabGateway.Library.Sorting
import SchwabGateway.OrderBook.Book

set_option autoImplicit false

namespace SchwabGateway.OrderBook

open SchwabGateway.Library SchwabGateway.Python
open SchwabGateway.Upstream (blank mem_flag_if)

section Fields

variable (literals : Literals) (payload : Fields) (name : String)

def HoldsCount (count : Nat) : Prop :=
  toInt literals (PyValue.get payload name) = .ok (count : Int) ∧ isInteger (PyValue.get payload name) = true

def HoldsOptional (count : Option Nat) : Prop :=
  (PyValue.get payload name = .none ∧ none = count) ∨
    ∃ number, HoldsCount literals payload name number ∧ some number = count

theorem required_number_ok (value : ℚ) :
    requiredNumber literals payload name = .ok value ↔
      toFloat literals (PyValue.get payload name) = .ok (.finite value) := by
  rw [requiredNumber]
  cases read : toFloat literals (PyValue.get payload name) with
  | error error => cases error <;> simp [invalid]
  | ok number => cases number <;> simp [invalid]

theorem required_count_ok (count : Nat) :
    requiredNonnegativeInt literals payload name = .ok count ↔ HoldsCount literals payload name count := by
  rw [requiredNonnegativeInt, HoldsCount]
  cases read : toInt literals (PyValue.get payload name) with
  | error error => cases error <;> simp [invalid]
  | ok value =>
      by_cases valid : isInteger (PyValue.get payload name) = true ∧ 0 ≤ value
      · simp only [if_pos valid, Except.ok.injEq]
        have back := Int.toNat_of_nonneg valid.2
        exact ⟨fun same => ⟨by rw [← same, back], valid.1⟩, fun held => by omega⟩
      · simp only [if_neg valid, invalid]
        refine ⟨nofun, ?_⟩
        rintro ⟨same, whole⟩
        cases Except.ok.inj same
        exact absurd ⟨whole, Int.natCast_nonneg count⟩ valid

theorem optional_count_ok (count : Option Nat) :
    optionalNonnegativeInt literals payload name = .ok count ↔ HoldsOptional literals payload name count := by
  have present : (requiredNonnegativeInt literals payload name).map some = .ok count ↔
      ∃ number, HoldsCount literals payload name number ∧ some number = count := by
    simp only [map_ok_iff, required_count_ok]
  cases found : PyValue.get payload name with
  | none => simp [optionalNonnegativeInt, HoldsOptional, HoldsCount, found, toInt]
  | bool _ | int _ | float _ | str _ | list _ | dict _ | object =>
      simp only [optionalNonnegativeInt, HoldsOptional, found, present, reduceCtorEq, false_and, false_or]

end Fields

section Rows

variable (literals : Literals)

structure ParticipantRead (exchangeField sizeField : String) (item : PyValue)
    (participant : OrderBookParticipantV1) : Prop where
  fields : ∃ payload, item = .dict payload ∧
    PyValue.get payload exchangeField = .str participant.exchange ∧
    HoldsCount literals payload sizeField participant.size ∧
    HoldsOptional literals payload "SEQUENCE" participant.sequence

def ParticipantsRead (exchangeField sizeField : String) (value : PyValue)
    (participants : List OrderBookParticipantV1) : Prop :=
  ∃ items, value = .list items ∧
    List.Forall₂ (ParticipantRead literals exchangeField sizeField) items participants

structure LevelRead (side : Side) (item : PyValue) (level : OrderBookLevelV1) : Prop where
  fields : ∃ payload, item = .dict payload ∧
    ParticipantsRead literals "EXCHANGE" (side.upper ++ "_VOLUME") (PyValue.get payload (side.upper ++ "S"))
      level.participants ∧
    toFloat literals (PyValue.get payload (side.upper ++ "_PRICE")) = .ok (.finite level.price.1) ∧
    HoldsCount literals payload "TOTAL_VOLUME" level.totalSize ∧
    HoldsCount literals payload ("NUM_" ++ side.upper ++ "S") level.participantCount

-- The levels of a side are those that stand in its list, best price first and
-- levels of one price in the order of the list.
structure SideRead (side : Side) (value : PyValue) (levels : List OrderBookLevelV1) : Prop where
  items : ∃ items read, value = .list items ∧ List.Forall₂ (LevelRead literals side) items read ∧
    levels.Perm read ∧
    ∀ price, levels.filter (fun level => level.price = price) = read.filter (fun level => level.price = price)
  bestFirst : levels.Pairwise side.before

theorem participant_read (exchangeField sizeField : String) (item : PyValue)
    (participant : OrderBookParticipantV1) :
    bookParticipant literals exchangeField sizeField item = .ok participant ↔
      ParticipantRead literals exchangeField sizeField item participant := by
  constructor
  · intro read
    cases item with
    | dict payload =>
        rw [bookParticipant] at read
        cases named : PyValue.get payload exchangeField with
        | str exchange =>
            rw [named] at read
            dsimp only at read
            by_cases empty : blank exchange = false
            · rw [dif_pos empty] at read
              obtain ⟨size, sized, read⟩ := (bind_ok_iff _ _ _).mp read
              obtain ⟨sequence, sequenced, read⟩ := (bind_ok_iff _ _ _).mp read
              cases read
              exact ⟨payload, rfl, named, (required_count_ok literals payload sizeField size).mp sized,
                (optional_count_ok literals payload "SEQUENCE" sequence).mp sequenced⟩
            · rw [dif_neg empty] at read
              cases read
        | none | bool _ | int _ | float _ | list _ | dict _ | object =>
            rw [named] at read
            cases read
    | none | bool _ | int _ | float _ | str _ | list _ | object => cases read
  · rintro ⟨payload, rfl, named, sized, sequenced⟩
    obtain ⟨exchange, size, sequence, empty⟩ := participant
    rw [bookParticipant, named]
    dsimp only
    rw [dif_pos empty, (required_count_ok literals payload sizeField size).mpr sized,
      (optional_count_ok literals payload "SEQUENCE" sequence).mpr sequenced]
    rfl

theorem participants_read (exchangeField sizeField : String) (value : PyValue)
    (participants : List OrderBookParticipantV1) :
    bookParticipants literals exchangeField sizeField value = .ok participants ↔
      ParticipantsRead literals exchangeField sizeField value participants := by
  cases value with
  | list items =>
      simp only [bookParticipants, map_m_ok_iff, participant_read, ParticipantsRead, PyValue.list.injEq,
        exists_eq_left']
  | none | bool _ | int _ | float _ | str _ | dict _ | object =>
      simp [bookParticipants, ParticipantsRead]

theorem level_read (side : Side) (item : PyValue) (level : OrderBookLevelV1) :
    bookLevel literals side item = .ok level ↔ LevelRead literals side item level := by
  constructor
  · intro read
    cases item with
    | dict payload =>
        rw [bookLevel] at read
        obtain ⟨participants, listed, read⟩ := (bind_ok_iff _ _ _).mp read
        obtain ⟨price, priced, read⟩ := (bind_ok_iff _ _ _).mp read
        by_cases above : 0 < price
        · rw [dif_pos above] at read
          obtain ⟨totalSize, total, read⟩ := (bind_ok_iff _ _ _).mp read
          obtain ⟨participantCount, counted, read⟩ := (bind_ok_iff _ _ _).mp read
          cases read
          exact ⟨payload, rfl, (participants_read literals _ _ _ _).mp listed,
            (required_number_ok literals payload _ price).mp priced,
            (required_count_ok literals payload _ totalSize).mp total,
            (required_count_ok literals payload _ participantCount).mp counted⟩
        · rw [dif_neg above] at read
          cases read
    | none | bool _ | int _ | float _ | str _ | list _ | object => cases read
  · rintro ⟨payload, rfl, listed, priced, total, counted⟩
    obtain ⟨⟨price, above⟩, totalSize, participantCount, participants⟩ := level
    rw [bookLevel, (participants_read literals _ _ _ _).mpr listed,
      (required_number_ok literals payload _ price).mpr priced]
    change (if above : 0 < price then _ else _) = _
    rw [dif_pos above, (required_count_ok literals payload _ totalSize).mpr total,
      (required_count_ok literals payload _ participantCount).mpr counted]
    rfl

theorem levels_read (side : Side) (value : PyValue) (levels : side.Levels)
    (read : bookLevels literals side value = .ok levels) : SideRead literals side value levels.1 := by
  cases value with
  | list items =>
      rw [bookLevels] at read
      obtain ⟨inOrder, each, rfl⟩ := (map_ok_iff _ _ _).mp read
      simp only [map_m_ok_iff, level_read] at each
      refine ⟨⟨items, inOrder, rfl, each, List.perm_insertionSort _ _, ?_⟩, (side.sorted inOrder).2⟩
      intro price
      apply insertion_sort_stable
      intro first second same other
      have equal := (of_decide_eq_true same).trans (of_decide_eq_true other).symm
      cases side with
      | bid => exact equal.ge
      | ask => exact equal.le
  | none | bool _ | int _ | float _ | str _ | dict _ | object => cases read

end Rows

structure FlagsHold (depth : Depth) : Prop where
  missingTimestamp : "missing_book_timestamp" ∈ depth.dataQualityFlags ↔ depth.eventTimestamp = none
  emptyBids : "empty_bid_book" ∈ depth.dataQualityFlags ↔ depth.bids.1 = []
  emptyAsks : "empty_ask_book" ∈ depth.dataQualityFlags ↔ depth.asks.1 = []
  participantCount : "participant_count_mismatch" ∈ depth.dataQualityFlags ↔
    ∃ level ∈ depth.bids.1 ++ depth.asks.1, level.participantCount ≠ level.participants.length
  participantSize : "participant_size_mismatch" ∈ depth.dataQualityFlags ↔
    ∃ level ∈ depth.bids.1 ++ depth.asks.1,
      level.totalSize ≠ (level.participants.map OrderBookParticipantV1.size).sum

theorem book_flags_hold (depth : Depth)
    (flags : depth.dataQualityFlags = bookFlags depth.eventTimestamp depth.bids.1 depth.asks.1) :
    FlagsHold depth := by
  have member : ∀ name, name ∈ depth.dataQualityFlags ↔
      name ∈ bookFlags depth.eventTimestamp depth.bids.1 depth.asks.1 := fun name => by rw [flags]
  simp only [bookFlags, List.mem_append, mem_flag_if] at member
  constructor
  · rw [member]
    simp
  · rw [member]
    simp
  · rw [member]
    simp
  · rw [member]
    simp [countMismatch, or_and_right, exists_or]
  · rw [member]
    simp [sizeMismatch, or_and_right, exists_or]

section Messages

variable (literals : Literals) (upper : String → String) (venue : Venue) (gatewayReceivedAt : Datetime)

structure EntryRead (entry : PyValue) (snapshot : Snapshot Depth) : Prop where
  fields : ∃ payload key, entry = .dict payload ∧ PyValue.get payload "key" = .str key ∧
    snapshot.symbol = upper (strip key) ∧
    HoldsOptional literals payload "seq" snapshot.depth.sequence ∧
    bookTimestamp literals (PyValue.get payload "BOOK_TIME") = .ok snapshot.depth.eventTimestamp ∧
    SideRead literals .bid (PyValue.get payload "BIDS") snapshot.depth.bids.1 ∧
    SideRead literals .ask (PyValue.get payload "ASKS") snapshot.depth.asks.1
  normalized : Normalized venue gatewayReceivedAt snapshot
  flags : FlagsHold snapshot.depth

theorem entry_read (entry : PyValue) (snapshot : Snapshot Depth)
    (read : bookEntry literals upper venue gatewayReceivedAt entry = .ok snapshot) :
    EntryRead literals upper venue gatewayReceivedAt entry snapshot := by
  have normalized := book_entry_normalized literals upper venue gatewayReceivedAt entry snapshot read
  refine ⟨?_, normalized, book_flags_hold snapshot.depth normalized.flags⟩
  cases entry with
  | dict payload =>
      rw [bookEntry] at read
      cases named : PyValue.get payload "key" with
      | str key =>
          rw [named] at read
          dsimp only at read
          by_cases empty : blank key = true
          · rw [if_pos empty] at read
            cases read
          · rw [if_neg empty] at read
            obtain ⟨sequence, sequenced, read⟩ := (bind_ok_iff _ _ _).mp read
            obtain ⟨eventTimestamp, stamped, read⟩ := (bind_ok_iff _ _ _).mp read
            obtain ⟨bids, bidsRead, read⟩ := (bind_ok_iff _ _ _).mp read
            obtain ⟨asks, asksRead, read⟩ := (bind_ok_iff _ _ _).mp read
            rw [bookSnapshot] at read
            by_cases unnamed : blank (upper (strip key)) = true
            · rw [if_pos unnamed] at read
              cases read
            · rw [if_neg unnamed] at read
              cases read
              exact ⟨payload, key, rfl, named, rfl, (optional_count_ok literals payload "seq" _).mp sequenced,
                stamped, levels_read literals .bid _ bids bidsRead, levels_read literals .ask _ asks asksRead⟩
      | none | bool _ | int _ | float _ | list _ | dict _ | object =>
          rw [named] at read
          cases read
  | none | bool _ | int _ | float _ | str _ | list _ | object => cases read

inductive MalformedWithin : PyValue → Prop where
  | entry (entry : PyValue)
      (unread : ∀ snapshot, ¬ EntryRead literals upper venue gatewayReceivedAt entry snapshot) :
      MalformedWithin entry
  | level (side : Side) (payload : Fields) (items : List PyValue) (item : PyValue)
      (listed : PyValue.get payload (side.upper ++ "S") = .list items) (member : item ∈ items)
      (unread : ∀ level, ¬ LevelRead literals side item level) : MalformedWithin (.dict payload)
  | participant (side : Side) (payload row : Fields) (levels items : List PyValue) (item : PyValue)
      (levelsListed : PyValue.get payload (side.upper ++ "S") = .list levels) (level : .dict row ∈ levels)
      (listed : PyValue.get row (side.upper ++ "S") = .list items) (member : item ∈ items)
      (unread : ∀ participant,
        ¬ ParticipantRead literals "EXCHANGE" (side.upper ++ "_VOLUME") item participant) :
      MalformedWithin (.dict payload)

theorem entry_side (payload : Fields) (snapshot : Snapshot Depth)
    (read : EntryRead literals upper venue gatewayReceivedAt (.dict payload) snapshot) (side : Side) :
    ∃ levels, SideRead literals side (PyValue.get payload (side.upper ++ "S")) levels := by
  obtain ⟨other, key, same, -, -, -, -, bids, asks⟩ := read.fields
  cases same
  cases side with
  | bid => exact ⟨_, bids⟩
  | ask => exact ⟨_, asks⟩

theorem side_levels (side : Side) (value : PyValue) (levels : List OrderBookLevelV1)
    (read : SideRead literals side value levels) (items : List PyValue) (listed : value = .list items)
    (item : PyValue) (member : item ∈ items) : ∃ level, LevelRead literals side item level := by
  obtain ⟨others, inOrder, same, each, -, -⟩ := read.items
  cases same.symm.trans listed
  obtain ⟨level, -, found⟩ := forall_two_partner each item member
  exact ⟨level, found⟩

theorem malformed_unread (entry : PyValue)
    (malformed : MalformedWithin literals upper venue gatewayReceivedAt entry) (snapshot : Snapshot Depth) :
    ¬ EntryRead literals upper venue gatewayReceivedAt entry snapshot := by
  intro read
  cases malformed with
  | entry _ unread => exact unread snapshot read
  | level side payload items item listed member unread =>
      obtain ⟨levels, levelsRead⟩ := entry_side literals upper venue gatewayReceivedAt payload snapshot read side
      obtain ⟨level, found⟩ := side_levels literals side _ levels levelsRead items listed item member
      exact unread level found
  | participant side payload row levels items item levelsListed level listed member unread =>
      obtain ⟨others, levelsRead⟩ := entry_side literals upper venue gatewayReceivedAt payload snapshot read side
      obtain ⟨found, fields⟩ := side_levels literals side _ others levelsRead levels levelsListed _ level
      obtain ⟨other, same, ⟨listedItems, listedSame, each⟩, -⟩ := fields.fields
      cases same
      cases listedSame.symm.trans listed
      obtain ⟨participant, -, one⟩ := forall_two_partner each item member
      exact unread participant one

theorem normalize_entries (message : PyValue) (snapshots : List (Snapshot Depth))
    (done : normalizeSchwabBookMessage literals upper venue gatewayReceivedAt message = .ok snapshots) :
    ∃ fields entries, message = .dict fields ∧ PyValue.get fields "content" = .list entries ∧
      List.Forall₂ (fun entry snapshot => bookEntry literals upper venue gatewayReceivedAt entry = .ok snapshot)
        entries snapshots := by
  cases message with
  | dict fields =>
      rw [normalizeSchwabBookMessage] at done
      cases service : isText venue.service (PyValue.get fields "service") with
      | false =>
          rw [service] at done
          cases done
      | true =>
          rw [service, if_pos rfl] at done
          cases content : PyValue.get fields "content" with
          | list entries =>
              rw [content] at done
              cases entries with
              | nil => cases done
              | cons entry rest => exact ⟨fields, entry :: rest, rfl, content, (map_m_ok_iff _ _ _).mp done⟩
          | none | bool _ | int _ | float _ | str _ | dict _ | object =>
              rw [content] at done
              cases done
  | none | bool _ | int _ | float _ | str _ | list _ | object => cases done

-- Every entry has its snapshot, and one that cannot be read leaves none.
theorem normalize_faithful (message : PyValue) :
    (∀ snapshots, normalizeSchwabBookMessage literals upper venue gatewayReceivedAt message = .ok snapshots →
      ∃ fields entries, message = .dict fields ∧ PyValue.get fields "content" = .list entries ∧
        List.Forall₂ (EntryRead literals upper venue gatewayReceivedAt) entries snapshots) ∧
    (∀ fields entries entry, message = .dict fields → PyValue.get fields "content" = .list entries →
      entry ∈ entries → MalformedWithin literals upper venue gatewayReceivedAt entry →
      ∀ snapshots, normalizeSchwabBookMessage literals upper venue gatewayReceivedAt message ≠ .ok snapshots) := by
  have faithful : ∀ snapshots,
      normalizeSchwabBookMessage literals upper venue gatewayReceivedAt message = .ok snapshots →
      ∃ fields entries, message = .dict fields ∧ PyValue.get fields "content" = .list entries ∧
        List.Forall₂ (EntryRead literals upper venue gatewayReceivedAt) entries snapshots := by
    intro snapshots done
    obtain ⟨fields, entries, same, content, each⟩ :=
      normalize_entries literals upper venue gatewayReceivedAt message snapshots done
    exact ⟨fields, entries, same, content, each.imp (entry_read literals upper venue gatewayReceivedAt)⟩
  refine ⟨faithful, ?_⟩
  intro fields entries entry same content member malformed snapshots done
  obtain ⟨others, otherEntries, otherSame, otherContent, each⟩ := faithful snapshots done
  cases same.symm.trans otherSame
  cases content.symm.trans otherContent
  obtain ⟨snapshot, -, read⟩ := forall_two_partner each entry member
  exact malformed_unread literals upper venue gatewayReceivedAt entry malformed snapshot read

end Messages

section Sample

def pricedBid (price : ℚ) (total : Int) : PyValue :=
  .dict [(.str "BIDS", .list []), (.str "BID_PRICE", .float (.finite price)),
    (.str "TOTAL_VOLUME", .int total), (.str "NUM_BIDS", .int 0)]

-- Two bids of one price behind a lower one.
def tiedBook : PyValue :=
  .dict [(.str "service", .str "NYSE_BOOK"),
    (.str "content", .list [.dict [(.str "key", .str " IBM "), (.str "BOOK_TIME", .int 1000),
      (.str "BIDS", .list [pricedBid 9 1, pricedBid 10 2, pricedBid 10 3]), (.str "ASKS", .list [])]])]

def tiedBookSnapshots : Except BookError (List (Snapshot Depth)) :=
  normalizeSchwabBookMessage ⟨fun _ => none, fun _ => none⟩ (fun text => text) .nyse 2000000 tiedBook

theorem normalize_faithful_tied_book :
    ∃ snapshots fields entries, tiedBookSnapshots = .ok snapshots ∧ tiedBook = .dict fields ∧
      PyValue.get fields "content" = .list entries ∧
      List.Forall₂ (EntryRead ⟨fun _ => none, fun _ => none⟩ (fun text => text) .nyse 2000000)
        entries snapshots := by
  have accepted : tiedBookSnapshots.isOk = true := by decide +kernel
  cases done : tiedBookSnapshots with
  | error error =>
      rw [done] at accepted
      cases accepted
  | ok snapshots =>
      obtain ⟨fields, entries, same, content, each⟩ := (normalize_faithful _ _ _ _ tiedBook).1 snapshots done
      exact ⟨snapshots, fields, entries, rfl, same, content, each⟩

end Sample

end SchwabGateway.OrderBook
