import SchwabGateway.OrderBook.BookWire
import SchwabGateway.OrderBook.Feed

set_option autoImplicit false

namespace SchwabGateway.OrderBook

open SchwabGateway.Library SchwabGateway.Python
open SchwabGateway.Upstream (blank)

section Entries

variable (literals : Literals) (upper : String → String) (venue : Venue) (gatewayReceivedAt : Datetime)

theorem book_entry_named (entry : PyValue) (snapshot : Snapshot Depth)
    (done : bookEntry literals upper venue gatewayReceivedAt entry = .ok snapshot) :
    blank snapshot.symbol = false := by
  rw [bookEntry.eq_def] at done
  split at done
  · split at done
    · split at done
      · cases done
      · obtain ⟨sequence, -, done⟩ := (bind_ok_iff _ _ _).mp done
        obtain ⟨eventTimestamp, -, done⟩ := (bind_ok_iff _ _ _).mp done
        obtain ⟨bids, -, done⟩ := (bind_ok_iff _ _ _).mp done
        obtain ⟨asks, -, done⟩ := (bind_ok_iff _ _ _).mp done
        rw [bookSnapshot] at done
        split at done
        · cases done
        · rename_i named
          cases done
          exact Bool.eq_false_iff.mpr named
    · cases done
  · cases done

structure Sound (snapshot : Snapshot Depth) : Prop where
  service : snapshot.depth.service = venue.service
  venue : snapshot.venue = venue
  named : blank snapshot.symbol = false

theorem normalize_sound (message : PyValue) (snapshots : List (Snapshot Depth))
    (done : normalizeSchwabBookMessage literals upper venue gatewayReceivedAt message = .ok snapshots) :
    ∀ snapshot ∈ snapshots, Sound venue snapshot := by
  rw [normalizeSchwabBookMessage.eq_def] at done
  split at done
  · split at done
    · split at done
      · have each := (map_m_ok_iff _ _ _).mp done
        apply forall_two_results each
        intro entry _ snapshot read
        have normalized := book_entry_normalized literals upper venue gatewayReceivedAt entry snapshot read
        exact ⟨normalized.service, normalized.venue,
          book_entry_named literals upper venue gatewayReceivedAt entry snapshot read⟩
      · cases done
    · cases done
  · cases done

end Entries

section Runs

variable (literals : Literals) (upper : String → String) (venue : Venue) (clock : Nat → ℚ)

def Publication (venue : Venue) (snapshot : Snapshot Depth) : Prop :=
  OrderBookSnapshotV1.Valid snapshot ∧ snapshot.venue = venue

structure Publishes (venue : Venue) (feed : OrderBookLiveFeed) : Prop where
  logged : ∀ snapshot, .published snapshot ∈ feed.log → Publication venue snapshot
  numbered : feed.place = .subscribing ∨ feed.place = .receiving → 1 ≤ feed.connectionId

variable {venue}

theorem publishes_aside (feed : OrderBookLiveFeed) (publishes : Publishes venue feed) (place : FeedPlace)
    (other : place ≠ .subscribing ∧ place ≠ .receiving) (after : OrderBookLiveFeed)
    (log : ∀ snapshot, .published snapshot ∈ after.log → .published snapshot ∈ feed.log)
    (same : after.place = place) : Publishes venue after where
  logged snapshot member := publishes.logged snapshot (log snapshot member)
  numbered busy := by
    rw [same] at busy
    cases busy with
    | inl subscribing => exact absurd subscribing other.1
    | inr receiving => exact absurd receiving other.2

theorem publishes_publish (feed : OrderBookLiveFeed) (publishes : Publishes venue feed)
    (receiving : feed.place = .receiving) (snapshot : Snapshot Depth) (sound : Sound venue snapshot) :
    Publishes venue (feed.publish clock snapshot) where
  logged other member := by
    rcases List.mem_cons.mp member with new | old
    · cases new
      have connected := publishes.numbered (.inr receiving)
      have matched : snapshot.depth.service = snapshot.venue.service := by rw [sound.venue, sound.service]
      exact ⟨⟨sound.named, matched, connected, connected⟩, sound.venue⟩
    · exact publishes.logged other old
  numbered busy := publishes.numbered busy

theorem publishes_all (snapshots : List (Snapshot Depth)) (sound : ∀ snapshot ∈ snapshots, Sound venue snapshot)
    (feed : OrderBookLiveFeed) (publishes : Publishes venue feed) (receiving : feed.place = .receiving) :
    Publishes venue (snapshots.foldl (OrderBookLiveFeed.publish clock) feed) := by
  induction snapshots generalizing feed with
  | nil => exact publishes
  | cons snapshot rest ih =>
      obtain ⟨here, later⟩ := List.forall_mem_cons.mp sound
      exact ih later (feed.publish clock snapshot)
        (publishes_publish clock feed publishes receiving snapshot here) receiving

theorem publishes_raised (feed : OrderBookLiveFeed) (publishes : Publishes venue feed) :
    Publishes venue (feed.raised venue) := by
  refine publishes_aside feed publishes (.sleeping _) ⟨nofun, nofun⟩ _ ?_ rfl
  intro snapshot member
  rcases List.mem_cons.mp member with new | old
  · cases new
  · exact old

theorem publishes_handled (feed : OrderBookLiveFeed) (publishes : Publishes venue feed)
    (receiving : feed.place = .receiving) (message : PyValue) :
    Publishes venue (feed.handleBook literals upper venue clock message) := by
  rw [OrderBookLiveFeed.handleBook]
  cases received : feed.lastReceivedAt with
  | none => exact publishes
  | some receivedAt =>
      dsimp only
      cases done : normalizeSchwabBookMessage literals upper venue receivedAt message with
      | error error =>
          cases error with
          | malformed text => exact publishes
          | validation field text => exact publishes_raised feed publishes
          | overflowError => exact publishes_raised feed publishes
      | ok snapshots =>
          have sound := normalize_sound literals upper venue receivedAt message snapshots done
          apply publishes_all clock snapshots sound
          · cases snapshots.isEmpty with
            | true => exact publishes
            | false =>
                refine ⟨fun snapshot member => ?_, publishes.numbered⟩
                rcases List.mem_cons.mp member with new | old
                · cases new
                · exact publishes.logged snapshot old
          · cases snapshots.isEmpty <;> exact receiving

theorem publishes_attempt (feed : OrderBookLiveFeed) (publishes : Publishes venue feed) :
    Publishes venue (feed.attempt venue) :=
  publishes_aside feed publishes .loggingIn ⟨nofun, nofun⟩ _ (fun _ member => member) rfl

theorem publishes_continue (raising : Bool) (feed : OrderBookLiveFeed) (publishes : Publishes venue feed) :
    Publishes venue (feed.continue_ venue raising) := by
  rw [OrderBookLiveFeed.continue_]
  cases raising with
  | true => exact publishes_aside feed publishes .ended ⟨nofun, nofun⟩ _ (fun _ member => member) rfl
  | false => exact publishes_attempt feed publishes

theorem publishes_leave (raising : Bool) (feed : OrderBookLiveFeed) (publishes : Publishes venue feed) :
    Publishes venue (feed.leave venue raising) := by
  rw [OrderBookLiveFeed.leave]
  cases feed.stream with
  | true => exact publishes_aside feed publishes (.loggingOut raising) ⟨nofun, nofun⟩ _ (fun _ member => member) rfl
  | false =>
      exact publishes_continue raising (feed.mark venue .disconnected) ⟨publishes.logged, publishes.numbered⟩

theorem publishes_interrupted (feed : OrderBookLiveFeed) (publishes : Publishes venue feed) :
    Publishes venue (feed.interrupted venue) := by
  have older : ∀ snapshot, .published snapshot ∈ (feed.note .interrupted).log → .published snapshot ∈ feed.log := by
    intro snapshot member
    rcases List.mem_cons.mp member with new | old
    · cases new
    · exact old
  have noted : Publishes venue (feed.note .interrupted) :=
    ⟨fun snapshot member => publishes.logged snapshot (older snapshot member), publishes.numbered⟩
  rw [OrderBookLiveFeed.interrupted.eq_def]
  cases place : feed.place with
  | loggingOut raising => exact publishes_aside feed publishes .ended ⟨nofun, nofun⟩ _ older rfl
  | _ => exact publishes_leave true _ noted

theorem publishes_step (feed : OrderBookLiveFeed) (event : FeedEvent) (publishes : Publishes venue feed)
    (enabled : (liveFeed literals upper venue clock).enabled feed event) :
    Publishes venue ((liveFeed literals upper venue clock).perform feed event) := by
  cases event with
  | loggedIn =>
      refine ⟨fun snapshot member => ?_, fun _ => Nat.le_add_left 1 _⟩
      rcases List.mem_cons.mp member with new | old
      · cases new
      · exact publishes.logged snapshot old
  | subscribed =>
      refine ⟨fun snapshot member => ?_, fun _ => publishes.numbered (.inl enabled)⟩
      rcases List.mem_cons.mp member with new | old
      · cases new
      · exact publishes.logged snapshot old
  | frame payload at_ =>
      change Publishes venue (feed.decoded venue payload at_)
      rw [OrderBookLiveFeed.decoded]
      cases frameHasService payload [venue.service] with
      | true => exact ⟨publishes.logged, publishes.numbered⟩
      | false => exact publishes
  | message value => exact publishes_handled literals upper clock feed publishes enabled value
  | raised => exact publishes_raised feed publishes
  | slept => exact publishes_leave false feed publishes
  | loggedOut =>
      change Publishes venue (feed.loggedOut venue)
      rw [OrderBookLiveFeed.loggedOut.eq_def]
      cases feed.place with
      | loggingOut raising => exact publishes_continue raising feed publishes
      | _ => exact publishes
  | interrupted => exact publishes_interrupted feed publishes
  | elsewhere store => exact ⟨publishes.logged, publishes.numbered⟩

-- Nothing that a feed publishes is refused by the model of the wire.
theorem feed_publications_valid (before : Store Depth) (feed : OrderBookLiveFeed)
    (reached : (liveFeed literals upper venue clock).Reaches Set.univ (.start venue before) feed) :
    ∀ snapshot, .published snapshot ∈ feed.log → Publication venue snapshot := by
  have held := (liveFeed literals upper venue clock).reaches_invariant Set.univ (Publishes venue)
    (fun feed event _ publishes enabled => publishes_step literals upper clock feed event publishes enabled)
    _ feed reached ⟨fun _ member => (nomatch member), fun busy => by cases busy <;> contradiction⟩
  exact held.logged

end Runs

end SchwabGateway.OrderBook
