import SchwabGateway.Api.Mediation
import Mathlib.Tactic.Linarith
import Mathlib.Tactic.NormNum

set_option autoImplicit false

namespace SchwabGateway.Api

open SchwabGateway.Library SchwabGateway.Python SchwabGateway.Keys
open SchwabGateway.OrderBook (Sockets SocketEvent StreamSymbols Limits Venue sockets)
open SchwabGateway.Token (ManagerState)

variable {V β : Type}

def Configuration.grace (config : Configuration) : ℚ := min tokenRefreshGraceSeconds config.reads.upstreamTimeout

structure Waiting (config : Configuration) (call : Call) (wakeAt : ℚ) : Prop where
  polled : call.polls ≠ []
  refreshing : ∀ poll ∈ call.polls, poll.state = .refreshing ∧ poll.checkedAt < call.deadline
  wakes : wakeAt ≤ call.deadline
  paced : wakeAt = call.deadline ∨ call.deadline - config.grace + call.polls.length * pollSeconds ≤ wakeAt
  few : call.polls.length ≤ 25

-- A call reads the health again only while it says REFRESHING and the grace
-- lasts.
structure Graced (config : Configuration) (call : Call) : Prop where
  few : call.polls.length ≤ 26
  before : ∀ poll ∈ call.polls.tail, poll.state = .refreshing ∧ poll.checkedAt < call.deadline
  started : ∀ first ∈ call.polls.getLast?,
    first.polledAt + config.grace ≤ call.deadline ∧ call.deadline ≤ first.checkedAt + config.grace

def Call.passed (call : Call) : Prop := ∃ poll earlier, call.polls = poll :: earlier ∧ poll.state = .ready

def Call.failed (call : Call) : Prop :=
  ∃ poll earlier, call.polls = poll :: earlier ∧ poll.state ≠ .ready ∧
    (poll.state = .refreshing → call.deadline ≤ poll.checkedAt)

def Reply.unready : Reply V β → Bool
  | .answer (.error code _ _ _) => code = "gateway_not_ready"
  | _ => false

def Place.unready : Place V β → Bool
  | .answered reply => reply.unready
  | _ => false

def Place.isAsleep : Place V β → Bool
  | .asleep _ _ => true
  | _ => false

def Place.halted : Place V β → Bool
  | .asleep _ _ => true
  | .answered reply => reply.unready
  | .cancelled => true
  | _ => false

def Passage.turn : Passage → Nat
  | .side => 1
  | .main => 2

def Place.rounds : Place V β → Nat
  | .gate passage => passage.turn - 1
  | .asleep passage _ => passage.turn
  | .passed passage => passage.turn
  | _ => 2

theorem turn_twice (passage : Passage) : passage.turn ≤ 2 := by
  cases passage <;> decide

theorem rounds_twice (place : Place V β) : place.rounds ≤ 2 := by
  cases place with
  | gate passage => exact le_trans (Nat.sub_le _ _) (turn_twice passage)
  | asleep passage wakeAt => exact turn_twice passage
  | passed passage => exact turn_twice passage
  | _ => exact le_refl 2

-- What holds of all calls of a request: it goes on from one only at READY, and
-- is refused only for what the last one read last.
structure Patient (config : Configuration) (visit : Visit V β) : Prop where
  rounds : visit.calls.length ≤ visit.place.rounds
  graced : ∀ call ∈ visit.calls, Graced config call
  onward : ∀ call earlier, visit.calls = call :: earlier →
    (∀ past ∈ earlier, past.passed) ∧ (visit.place.halted = false → call.passed)
  asleep : ∀ passage wakeAt, visit.place = .asleep passage wakeAt →
    ∃ call earlier, visit.calls = call :: earlier ∧ Waiting config call wakeAt
  refused : visit.place = .answered notReady → ∃ call earlier, visit.calls = call :: earlier ∧ call.failed

section Gates

variable (state : ManagerState) (deadline checkedAt : ℚ)

theorem gate_asleep (wakeAt : ℚ) (asleep : gate state deadline checkedAt = .asleep wakeAt) :
    state = .refreshing ∧ checkedAt < deadline ∧ wakeAt = checkedAt + min pollSeconds (deadline - checkedAt) := by
  cases state with
  | refreshing =>
      simp only [gate] at asleep
      split at asleep
      · cases asleep
      · rename_i remaining
        cases asleep
        exact ⟨rfl, by linarith only [remaining], rfl⟩
  | _ => cases asleep

theorem gate_refused (refused : gate state deadline checkedAt = .refused) :
    state ≠ .ready ∧ (state = .refreshing → deadline ≤ checkedAt) := by
  cases state with
  | refreshing =>
      simp only [gate] at refused
      split at refused
      · rename_i past
        exact ⟨(fun same => by cases same), fun _ => by linarith only [past]⟩
      · cases refused
  | ready => cases refused
  | _ => exact ⟨(fun same => by cases same), fun same => by cases same⟩

end Gates

def Call.read (call : Call) (poll : Poll) : Call := { call with polls := poll :: call.polls }

def Visit.polled (visit : Visit V β) (passage : Passage) (earlier : List Call) (call : Call) (poll : Poll) :
    Visit V β :=
  { visit with
    place := Door.gatePlace passage (gate poll.state call.deadline poll.checkedAt)
    calls := call.read poll :: earlier }

theorem polled_place (visit : Visit V β) (passage : Passage) (earlier : List Call) (call : Call) (poll : Poll) :
    (visit.polled passage earlier call poll).place =
      Door.gatePlace passage (gate poll.state call.deadline poll.checkedAt) := rfl

section Polls

variable (config : Configuration)

theorem few_polls (deadline checkedAt : ℚ) (count : Nat)
    (paced : deadline - config.grace + count * pollSeconds ≤ checkedAt) (within : checkedAt < deadline) :
    count ≤ 24 := by
  have short : config.grace ≤ 1 / 4 := min_le_left _ _
  have scaled : (count : ℚ) * pollSeconds < 1 / 4 := by linarith only [paced, within, short]
  have below : (count : ℚ) < 25 := by
    rw [pollSeconds] at scaled
    linarith only [scaled]
  exact Nat.le_of_lt_succ (by exact_mod_cast below)

structure Pending (call : Call) (checkedAt : ℚ) : Prop where
  few : call.polls.length ≤ 25
  refreshing : ∀ past ∈ call.polls, past.state = .refreshing ∧ past.checkedAt < call.deadline
  paced : checkedAt < call.deadline → call.deadline - config.grace + call.polls.length * pollSeconds ≤ checkedAt

theorem waiting_read (call : Call) (poll : Poll) (pending : Pending config call poll.checkedAt) (wakeAt : ℚ)
    (asleep : gate poll.state call.deadline poll.checkedAt = .asleep wakeAt) :
    Waiting config (call.read poll) wakeAt := by
  obtain ⟨refreshing, within, wakes⟩ := gate_asleep poll.state call.deadline poll.checkedAt wakeAt asleep
  have spaced := pending.paced within
  have counted := few_polls config call.deadline poll.checkedAt call.polls.length spaced within
  refine
    { polled := List.cons_ne_nil _ _
      refreshing := ?_
      wakes := ?_
      paced := ?_
      few := Nat.succ_le_succ counted }
  · intro past member
    rcases List.mem_cons.mp member with rfl | member
    · exact ⟨refreshing, within⟩
    · exact pending.refreshing past member
  · have short := min_le_right pollSeconds (call.deadline - poll.checkedAt)
    change wakeAt ≤ call.deadline
    linarith only [wakes, short]
  · rcases min_choice pollSeconds (call.deadline - poll.checkedAt) with step | rest
    · right
      rw [step] at wakes
      change call.deadline - config.grace + ((poll :: call.polls).length : ℚ) * pollSeconds ≤ wakeAt
      rw [List.length_cons, Nat.cast_succ, add_mul, one_mul]
      linarith only [wakes, spaced]
    · left
      rw [rest] at wakes
      change wakeAt = call.deadline
      linarith only [wakes]

theorem patient_polled (visit : Visit V β) (passage : Passage) (earlier : List Call) (call : Call) (poll : Poll)
    (rounds : earlier.length < passage.turn) (graced : ∀ past ∈ earlier, Graced config past)
    (passed : ∀ past ∈ earlier, past.passed) (pending : Pending config call poll.checkedAt)
    (started : ∀ first ∈ (poll :: call.polls).getLast?,
      first.polledAt + config.grace ≤ call.deadline ∧ call.deadline ≤ first.checkedAt + config.grace) :
    Patient config (visit.polled passage earlier call poll) := by
  have here : Graced config (call.read poll) := ⟨Nat.succ_le_succ pending.few, pending.refreshing, started⟩
  have place := polled_place visit passage earlier call poll
  have calls : (visit.polled passage earlier call poll).calls = call.read poll :: earlier := rfl
  have every : ∀ past ∈ call.read poll :: earlier, Graced config past := by
    intro past member
    rcases List.mem_cons.mp member with rfl | member
    · exact here
    · exact graced past member
  cases outcome : gate poll.state call.deadline poll.checkedAt with
  | passed =>
      rw [outcome] at place
      have ready := gate_passed poll.state call.deadline poll.checkedAt outcome
      refine ⟨?_, every, ?_, ?_, ?_⟩
      · rw [place]
        exact rounds
      · rintro _ _ ⟨⟩
        exact ⟨passed, fun _ => ⟨poll, call.polls, rfl, ready⟩⟩
      · intro other wakeAt asleep
        rw [place] at asleep
        cases asleep
      · intro refused
        rw [place] at refused
        cases refused
  | refused =>
      rw [outcome] at place
      refine ⟨?_, every, ?_, ?_, ?_⟩
      · rw [place]
        exact le_trans rounds (turn_twice passage)
      · rintro _ _ ⟨⟩
        refine ⟨passed, fun onward => ?_⟩
        rw [place] at onward
        cases onward
      · intro other wakeAt asleep
        rw [place] at asleep
        cases asleep
      · intro _
        exact ⟨_, earlier, calls, poll, call.polls, rfl, gate_refused poll.state call.deadline poll.checkedAt outcome⟩
  | asleep wakeAt =>
      rw [outcome] at place
      refine ⟨?_, every, ?_, ?_, ?_⟩
      · rw [place]
        exact rounds
      · rintro _ _ ⟨⟩
        refine ⟨passed, fun onward => ?_⟩
        rw [place] at onward
        cases onward
      · intro other wake asleep
        rw [place] at asleep
        cases asleep
        exact ⟨_, earlier, calls, waiting_read config call poll pending wakeAt outcome⟩
      · intro refused
        rw [place] at refused
        cases refused

theorem patient_first (visit : Visit V β) (patient : Patient config visit) (passage : Passage)
    (waits : visit.place = .gate passage) (poll : Poll) (startedAt : ℚ) (after : poll.polledAt ≤ startedAt)
    (soon : startedAt ≤ poll.checkedAt) :
    Patient config (visit.polled passage visit.calls ⟨startedAt + config.grace, []⟩ poll) := by
  have rounds := patient.rounds
  rw [waits] at rounds
  apply patient_polled config visit passage visit.calls ⟨startedAt + config.grace, []⟩ poll
  · cases passage with
    | side => exact Nat.lt_succ_of_le rounds
    | main => exact Nat.lt_succ_of_le rounds
  · exact patient.graced
  · intro past member
    cases calls : visit.calls with
    | nil =>
        rw [calls] at member
        cases member
    | cons call earlier =>
        rw [calls] at member
        obtain ⟨passed, last⟩ := patient.onward call earlier calls
        rcases List.mem_cons.mp member with rfl | member
        · exact last (by rw [waits]; rfl)
        · exact passed past member
  · refine ⟨Nat.zero_le _, ?_, ?_⟩
    · intro past member
      cases member
    · intro _
      rw [List.length_nil, Nat.cast_zero, zero_mul]
      linarith only [soon]
  · intro first same
    cases same
    exact ⟨add_le_add_left after config.grace, add_le_add_left soon config.grace⟩

theorem patient_again (visit : Visit V β) (patient : Patient config visit) (passage : Passage) (wakeAt : ℚ)
    (asleep : visit.place = .asleep passage wakeAt) (call : Call) (earlier : List Call)
    (calls : visit.calls = call :: earlier) (poll : Poll) (woken : wakeAt ≤ poll.checkedAt) :
    Patient config (visit.polled passage earlier call poll) := by
  obtain ⟨_, _, same, waiting⟩ := patient.asleep passage wakeAt asleep
  cases calls.symm.trans same
  have graced := patient.graced
  rw [calls, List.forall_mem_cons] at graced
  have rounds := patient.rounds
  rw [calls, asleep] at rounds
  apply patient_polled config visit passage earlier call poll rounds graced.2 (patient.onward call earlier calls).1
  · refine ⟨waiting.few, waiting.refreshing, ?_⟩
    intro within
    rcases waiting.paced with last | paced
    · rw [last] at woken
      exact absurd within (not_lt.mpr woken)
    · exact le_trans paced woken
  · intro first same
    rw [List.getLast?_cons_of_ne_nil waiting.polled] at same
    exact graced.1.started first same

end Polls

structure Unread (before after : Visit V β) : Prop where
  calls : after.calls = before.calls
  place : after.place = before.place ∨
    (after.place.isAsleep = false ∧ after.place.unready = false ∧
      (before.calls = [] ∨
        ((after.place.halted = false → before.place.halted = false) ∧ before.place.rounds ≤ after.place.rounds)))

theorem patient_unread (config : Configuration) (before after : Visit V β) (unread : Unread before after)
    (patient : Patient config before) : Patient config after := by
  obtain ⟨calls, place⟩ := unread
  refine ⟨?_, ?_, ?_, ?_, ?_⟩
  · rw [calls]
    rcases place with same | ⟨_, _, none_ | ⟨_, more⟩⟩
    · rw [same]
      exact patient.rounds
    · rw [none_]
      exact Nat.zero_le _
    · exact le_trans patient.rounds more
  · rw [calls]
    exact patient.graced
  · intro call earlier some_
    rw [calls] at some_
    obtain ⟨passed, last⟩ := patient.onward call earlier some_
    refine ⟨passed, fun onward => ?_⟩
    rcases place with same | ⟨_, _, none_ | ⟨halted, _⟩⟩
    · exact last (same ▸ onward)
    · cases none_.symm.trans some_
    · exact last (halted onward)
  · intro passage wakeAt asleep
    rcases place with same | ⟨awake, _⟩
    · rw [calls]
      exact patient.asleep passage wakeAt (same ▸ asleep)
    · rw [asleep] at awake
      cases awake
  · intro refused
    rcases place with same | ⟨_, ready, _⟩
    · rw [calls]
      exact patient.refused (same ▸ refused)
    · rw [refused] at ready
      cases ready

section Steps

variable (config : Configuration) (s : Door V β)

theorem unread_same (visit : Visit V β) : Unread visit visit := ⟨rfl, .inl rfl⟩

theorem unread_place (id : Nat) (place : Place V β) (awake : place.isAsleep = false) (ready : place.unready = false)
    (onward : (s.visits id).calls = [] ∨
      ((place.halted = false → (s.visits id).place.halted = false) ∧ (s.visits id).place.rounds ≤ place.rounds))
    (j : Nat) : Unread (s.visits j) ((s.setPlace id place).visits j) := by
  revert j
  apply (Function.forall_update_iff s.visits (fun j visit => Unread (s.visits j) visit)).mpr
  exact ⟨⟨rfl, .inr ⟨awake, ready, onward⟩⟩, fun j _ => unread_same (s.visits j)⟩

theorem failure_unready (cooldownUntil : ℚ) (failure : Reads.Failure) (message : String) (now wall : ℚ) :
    (.answered (.answer (Reads.failureResponse cooldownUntil failure message now wall).2) : Place V β).unready =
      false := by
  rw [Reads.failureResponse]
  split <;> rfl

theorem unread_join_ends (id : Nat) (ending : Joined V) (now wall : ℚ)
    (joining : (s.visits id).place.isJoining = true) (j : Nat) :
    Unread (s.visits j) ((s.joinEnds config id ending now wall).visits j) := by
  obtain ⟨expires, place⟩ := is_joining _ joining
  have answered : ∀ reply : Reply V β, reply.unready = false →
      Unread (s.visits j) ((s.setPlace id (.answered reply)).visits j) := by
    intro reply ready
    exact unread_place s id (.answered reply) rfl ready
      (.inr ⟨fun _ => by rw [place]; rfl, by rw [place]; exact le_refl 2⟩) j
  cases ending with
  | value value => exact answered _ rfl
  | timeout => exact answered _ rfl
  | failed failure =>
      rw [Door.joinEnds]
      split
      · exact answered _ (failure_unready (V := V) (β := β) _ _ _ _ _)
      · exact answered _ rfl
      · exact answered _ rfl
      · exact answered _ rfl

theorem unread_lookup (id : Nat) (found : Lookup V) (now : ℚ) (passed : (s.visits id).place.isPassed .side = true)
    (j : Nat) : Unread (s.visits j) ((s.lookup config id found now).visits j) := by
  have place := is_passed _ _ passed
  have onward : ∀ next : Place V β, next.isAsleep = false → next.unready = false → 1 ≤ next.rounds →
      Unread (s.visits j) ((s.setPlace id next).visits j) := by
    intro next awake ready rounds
    exact unread_place s id next awake ready (.inr ⟨fun _ => by rw [place]; rfl, by rw [place]; exact rounds⟩) j
  cases found with
  | hit value => exact onward _ rfl rfl (Nat.le_succ 1)
  | malformed => exact onward _ rfl rfl (Nat.le_succ 1)
  | joined => exact onward _ rfl rfl (Nat.le_succ 1)
  | missed => exact onward _ rfl rfl (le_refl 1)

theorem unread_serve (id : Nat) (startedAt checkedAt enqueuedAt now observedAt wall : ℚ)
    (passed : (s.visits id).place.isPassed .main = true) (j : Nat) :
    Unread (s.visits j) ((s.serve config id startedAt checkedAt enqueuedAt now observedAt wall).visits j) := by
  have place := is_passed _ _ passed
  rw [Door.serve]
  split
  · exact unread_same _
  · exact unread_place s id _ rfl rfl (.inr ⟨fun _ => by rw [place]; rfl, by rw [place]; exact le_refl 2⟩) j

theorem unread_handle (id : Nat) (principal : InternalPrincipal) (asked : Asked) (now : ℚ)
    (uncalled : (s.visits id).calls = []) (j : Nat) :
    Unread (s.visits j) ((s.handle config id principal asked now).visits j) := by
  cases asked with
  | streamOrderBook symbols venue =>
      rw [Door.handle]
      split
      · exact unread_place s id _ rfl rfl (.inl uncalled) j
      · exact unread_place s id _ rfl rfl (.inl uncalled) j
  | recentOrderBook symbol venue limit => exact unread_place s id _ rfl rfl (.inl uncalled) j
  | quotes | spot | chain | optionChain | history | movers | sessionHistory =>
      exact unread_place s id _ rfl rfl (.inl uncalled) j

theorem early_unready (reply : Reply V β) (early : reply.early = true) : reply.unready = false := by
  cases reply with
  | answer response =>
      cases response with
      | error code message status retryAfter =>
          have codes : code ∈ ["authentication_required", "capability_denied", "invalid_request"] :=
            of_decide_eq_true early
          apply decide_eq_false
          intro same
          rw [same] at codes
          exact absurd codes (by decide)
      | json | serverError => rfl
  | health | readiness | metrics | notFound | recent => rfl

theorem patient_absent : Patient config (.absent : Visit V β) where
  rounds := Nat.zero_le _
  graced := by
    intro call member
    cases member
  onward := by
    intro call earlier some_
    cases some_
  asleep := by
    intro passage wakeAt asleep
    cases asleep
  refused := by
    intro refused
    cases refused

theorem patient_request (patient : ∀ id, Patient config (s.visits id))
    (path : String) (apiKey : Text) (query : Query) (reading : Option ManagerState) (now : ℚ) (j : Nat) :
    Patient config ((s.request config path apiKey query reading now).visits j) := by
  have arrived : ∀ visit : Visit V β, Unread .absent visit →
      Patient config (({ s with next := s.next + 1 }.setVisit s.next visit).visits j) := by
    intro visit unread
    exact (Function.forall_update_iff s.visits (fun _ visit => Patient config visit)).mpr
      ⟨patient_unread config _ visit unread (patient_absent config), fun j _ => patient j⟩ j
  rw [Door.request]
  cases entered : enter (V := V) (β := β) config path apiKey query
      ({ s with next := s.next + 1 }.health reading) with
  | reply reply =>
      have early := enter_reply config path query _ apiKey reply entered
      exact arrived _ ⟨rfl, .inr ⟨rfl, early_unready reply early, .inl rfl⟩⟩
  | handle principal asked =>
      dsimp only
      have uncalled : (({ s with next := s.next + 1 }.setVisit s.next
          { (Visit.absent : Visit V β) with
            path := path, apiKey := apiKey, query := query, principal := some principal,
            asked := some asked }).visits s.next).calls = [] := by
        rw [Door.setVisit]
        dsimp only
        rw [Function.update_self]
        rfl
      exact patient_unread config _ _ (unread_handle config _ s.next principal asked now uncalled j)
        (arrived _ ⟨rfl, .inl rfl⟩)

theorem patient_poll (patient : ∀ id, Patient config (s.visits id)) (id : Nat) (reading : Option ManagerState)
    (polledAt startedAt checkedAt : ℚ) (guard : doorEnabled config s (.poll id reading polledAt startedAt checkedAt))
    (j : Nat) : Patient config ((s.poll config id reading polledAt startedAt checkedAt).visits j) := by
  obtain ⟨pollable, _, after, soon⟩ := guard
  have polled : ∀ (passage : Passage) (earlier : List Call) (call : Call) (poll : Poll),
      Patient config ((s.visits id).polled passage earlier call poll) →
        Patient config ((s.polled id passage earlier call poll).visits j) := by
    intro passage earlier call poll held
    exact (Function.forall_update_iff s.visits (fun _ visit => Patient config visit)).mpr
      ⟨held, fun j _ => patient j⟩ j
  rw [Door.poll]
  cases place : (s.visits id).place with
  | gate passage =>
      exact polled passage _ _ _ (patient_first config (s.visits id) (patient id) passage place
        ⟨polledAt, checkedAt, _⟩ startedAt after soon)
  | asleep passage wakeAt =>
      rw [place] at pollable
      have woken : wakeAt ≤ polledAt := of_decide_eq_true pollable
      cases calls : (s.visits id).calls with
      | nil => exact patient j
      | cons call earlier =>
          exact polled passage earlier call _ (patient_again config (s.visits id) (patient id) passage wakeAt place
            call earlier calls ⟨polledAt, checkedAt, _⟩ (le_trans woken (le_trans after soon)))
  | _ =>
      rw [place] at pollable
      cases pollable

theorem patient_perform (event : DoorEvent V β)
    (patient : ∀ id, Patient config (s.visits id)) (guard : doorEnabled config s event) (j : Nat) :
    Patient config ((doorPerform config s event).visits j) := by
  cases event with
  | request path apiKey query reading now =>
      exact patient_request config s patient path apiKey query reading now j
  | poll id reading polledAt startedAt checkedAt =>
      exact patient_poll config s patient id reading polledAt startedAt checkedAt guard j
  | lookup id found now =>
      exact patient_unread config _ _ (unread_lookup config s id found now guard.1 j) (patient j)
  | joinEnds id ending now wall =>
      exact patient_unread config _ _ (unread_join_ends config s id ending now wall guard.1 j) (patient j)
  | serve id startedAt checkedAt enqueuedAt now observedAt wall =>
      exact patient_unread config _ _
        (unread_serve config s id startedAt checkedAt enqueuedAt now observedAt wall guard.1 j) (patient j)
  | cancel id =>
      have halts : (.cancelled : Place V β).halted = false → (s.visits id).place.halted = false := by
        intro onward
        cases onward
      exact patient_unread config _ _
        (unread_place s id .cancelled rfl rfl (.inr ⟨halts, rounds_twice _⟩) j) (patient j)
  | warmedUp => exact patient j
  | reads event => exact patient j
  | streams event => exact patient j

end Steps

-- A refresh ends at the last reading of the first call; a second one, which the
-- second call meets, does not end.
def graceEvents : List (DoorEvent Nat Nat) :=
  .request "/v1/option-chain" existingKey [("symbol", "spy"), ("expiration", "2026-08-12")] (some .ready) 0 ::
    (List.range 25).map (fun k => .poll 0 (some .refreshing) (k / 100) (k / 100) (k / 100)) ++
      [.poll 0 (some .ready) (1 / 4) (1 / 4) (1 / 4), .lookup 0 .missed (1 / 4)] ++
      (List.range 26).map (fun k => .poll 0 (some .refreshing) (1 + k / 100) (1 + k / 100) (1 + k / 100))

def graceState : Door Nat Nat :=
  (door Nat Nat sampleConfiguration).performAll
    (Door.opened Scheduler.samplePolicy OrderBook.samplePolicy OrderBook.sampleLimits 0 false) graceEvents

end SchwabGateway.Api
