import SchwabGateway.OrderBook.PermitLaw
import SchwabGateway.OrderBook.Requested

set_option autoImplicit false

namespace SchwabGateway.OrderBook

open SchwabGateway.Library

variable {β : Type}

structure Asks (s : State β) (k : Nat) (symbols : List String) (venue : Venue) : Prop where
  opened : (s.connections k).stage.isAbsent = false
  symbols : (s.connections k).symbols = symbols
  venue : (s.connections k).venue = venue

section Steps

variable (s : State β) (k : Nat) (symbols : List String) (venue : Venue)

theorem asks_opened (stage : Stage β) (present : stage.isAbsent = false) :
    Asks (s.setConnection k ⟨symbols, venue, stage, []⟩) k symbols venue := by
  have own := set_connection_self s k ⟨symbols, venue, stage, []⟩
  constructor
  · rw [own]
    exact present
  · rw [own]
  · rw [own]

theorem asks_frame (t : State β) (asks : Asks s k symbols venue) (same : t.connections k = s.connections k) :
    Asks t k symbols venue := by
  constructor
  · rw [same]
    exact asks.opened
  · rw [same]
    exact asks.symbols
  · rw [same]
    exact asks.venue

variable (asks : Asks s k symbols venue)

include asks

theorem asks_move (stage : Stage β) (sent : List (Published β)) (present : stage.isAbsent = false) :
    Asks (s.setConnection k { s.connections k with stage := stage, sent := sent }) k symbols venue := by
  have own := set_connection_self s k { s.connections k with stage := stage, sent := sent }
  constructor
  · rw [own]
    exact present
  · rw [own]
    exact asks.symbols
  · rw [own]
    exact asks.venue

theorem asks_continue (pending : List String) : Asks (s.continueReplay k pending) k symbols venue := by
  rw [State.continueReplay]
  split
  · exact asks_move s k symbols venue asks _ _ rfl
  · exact asks_move s k symbols venue asks .waiting _ rfl

theorem asks_admitted : Asks (s.admitted k) k symbols venue := by
  rw [State.admitted]
  split
  · exact asks_move s k symbols venue asks .closed _ rfl
  · rename_i store _
    exact asks_continue { s with store := store } k symbols venue (asks_frame s k symbols venue _ asks rfl) _

theorem asks_sent : Asks (s.sendReturned k) k symbols venue := by
  rw [State.sendReturned]
  split
  · exact asks_continue s k symbols venue asks _
  · exact asks_move s k symbols venue asks .waiting _ rfl
  · exact asks

theorem asks_take : Asks (s.take k) k symbols venue := by
  rw [State.take]
  split
  · exact asks
  · rename_i entry rest _
    exact asks_move (s.setQueue k rest) k symbols venue (asks_frame s k symbols venue _ asks rfl) (.taken entry) _ rfl

theorem asks_deliver : Asks (s.deliver k) k symbols venue := by
  rw [State.deliver]
  split
  · exact asks_move s k symbols venue asks .sending _ rfl
  · exact asks

theorem asks_leave : Asks (s.leave k) k symbols venue := by
  rw [State.leave]
  exact asks_move { s with store := s.store.unsubscribe k } k symbols venue (asks_frame s k symbols venue _ asks rfl)
    .closed _ rfl

omit asks in
theorem asks_other (t : State β) (j : Nat) (asks : Asks s k symbols venue) (different : k ≠ j)
    (same : Local j s t) : Asks t k symbols venue :=
  asks_frame s k symbols venue t asks (same.others k different).1

theorem asks_step (event : Event β) (guarded : (streams β).enabled s event) :
    Asks ((streams β).perform s event) k symbols venue := by
  have later : ∀ now, Asks { s with clock := now } k symbols venue :=
    fun now => asks_frame s k symbols venue _ asks rfl
  cases event with
  | publish snapshot now => exact asks_frame s k symbols venue _ asks rfl
  | markFeedState place state now => exact asks_frame s k symbols venue _ asks rfl
  | openStream j others place now =>
      have different : k ≠ j := by
        intro same
        have absent := guarded.2
        rw [guard, ← same, asks.opened] at absent
        cases absent
      exact asks_other _ k symbols venue _ j (later now) different (local_open _ j _ place)
  | admitted j now =>
      by_cases own : k = j
      · subst own
        exact asks_admitted _ k symbols venue (later now)
      · exact asks_other _ k symbols venue _ j (later now) own (local_admitted _ j)
  | sent j now =>
      by_cases own : k = j
      · subst own
        exact asks_sent _ k symbols venue (later now)
      · exact asks_other _ k symbols venue _ j (later now) own (local_sent _ j)
  | take j now =>
      by_cases own : k = j
      · subst own
        exact asks_take _ k symbols venue (later now)
      · exact asks_other _ k symbols venue _ j (later now) own (local_take _ j)
  | deliver j now =>
      by_cases own : k = j
      · subst own
        exact asks_deliver _ k symbols venue (later now)
      · exact asks_other _ k symbols venue _ j (later now) own (local_deliver _ j)
  | leave j now =>
      by_cases own : k = j
      · subst own
        exact asks_leave _ k symbols venue (later now)
      · exact asks_other _ k symbols venue _ j (later now) own (local_leave _ j)
  | tick now => exact later now

theorem asks_reaches (t : State β) (reached : (streams β).Reaches Set.univ s t) : Asks t k symbols venue :=
  (streams β).reaches_invariant Set.univ (fun a => Asks a k symbols venue)
    (fun a event _ held guarded => asks_step a k symbols venue held event guarded) s t reached asks

end Steps

section Sockets

variable (s : Sockets β) (permitted : Permitted s)

include permitted

theorem asks_socket_step (event : SocketEvent β) (enabled : (sockets β).enabled s event) (k : Nat)
    (symbols : List String) (venue : Venue) (asks : Asks s.book k symbols venue) :
    Asks ((sockets β).perform s event).book k symbols venue :=
  asks_reaches s.book k symbols venue asks _
    (sockets_step_reaches s permitted Set.univ (fun _ _ => trivial) event (fun _ _ _ => trivial) enabled)

theorem asks_request (priority : PriorityClass) (symbols : StreamSymbols) (venue : Venue) (now : ℚ) :
    Asks ((sockets β).perform s (.request priority symbols venue now)).book s.next symbols.symbols venue := by
  have unlocked := permitted.unlocked
  have performed : (sockets β).perform s (.request priority symbols venue now) =
      (s.act (.tick now)).request priority symbols venue now := rfl
  rw [performed, Sockets.request]
  have opened : Asks (((s.act (.tick now)).arrive priority).act
      (.openStream s.next symbols venue now)).book s.next symbols.symbols venue := by
    dsimp only [Sockets.act, Sockets.arrive, streams, effect, State.openStream]
    split
    · exact asks_opened _ s.next symbols.symbols venue .admitting rfl
    · exact asks_opened _ s.next symbols.symbols venue .refused rfl
  split
  · rw [Sockets.enter_free (((s.act (.tick now)).arrive priority).act
      (.openStream (s.act (.tick now)).next symbols venue now)) _ now unlocked]
    split
    · exact asks_leave _ s.next symbols.symbols venue (asks_frame _ s.next symbols.symbols venue _ opened rfl)
    · exact opened
  · exact opened

end Sockets

structure SameStreams (s t : Sockets β) : Prop where
  next : t.next = s.next
  classes : t.classes = s.classes

theorem depart_same (s : Sockets β) (k : Nat) (ending : Ending) : SameStreams s (s.depart k ending) := by
  rw [Sockets.depart]
  split
  · exact ⟨rfl, rfl⟩
  · exact ⟨rfl, rfl⟩

theorem enter_same (s : Sockets β) (k : Nat) (now : ℚ) : SameStreams s (s.enter k now) := by
  rw [Sockets.enter]
  split
  · exact ⟨rfl, rfl⟩
  · split
    · exact ⟨rfl, rfl⟩
    · exact ⟨rfl, rfl⟩

theorem cancel_same (s : Sockets β) (k : Nat) (now : ℚ) : SameStreams s (s.cancel k now) := by
  rw [Sockets.cancel]
  split
  · exact ⟨rfl, rfl⟩
  · have same := depart_same (s.act (.leave k now)) k .cancelled
    exact ⟨same.next, same.classes⟩
  · exact ⟨rfl, rfl⟩
  · exact depart_same s k .cancelled
  · exact ⟨rfl, rfl⟩
  · exact ⟨rfl, rfl⟩

theorem same_later (s t : Sockets β) (now : ℚ) (same : SameStreams (s.act (.tick now)) t) : SameStreams s t :=
  ⟨same.next, same.classes⟩

def SocketEvent.opens : SocketEvent β → Bool
  | .request _ _ _ _ => true
  | _ => false

theorem socket_same (s : Sockets β) (event : SocketEvent β) (later : event.opens = false) :
    SameStreams s ((sockets β).perform s event) := by
  have performed : (sockets β).perform s event = (s.act (.tick event.now)).effect event := rfl
  rw [performed]
  cases event with
  | publish snapshot now => exact ⟨rfl, rfl⟩
  | markFeedState venue state now => exact ⟨rfl, rfl⟩
  | tick now => exact ⟨rfl, rfl⟩
  | request priority symbols venue now => cases later
  | lockAcquired k now =>
      rw [Sockets.effect]
      split
      · exact same_later s _ now (enter_same (s.act (.tick now)) k now)
      · exact same_later s _ now (depart_same (s.act (.tick now)) k _)
  | prepared k now => exact ⟨rfl, rfl⟩
  | prepareFailed k now =>
      have same := depart_same ((s.act (.tick now)).act (.leave k now)) k .raised
      exact ⟨same.next, same.classes⟩
  | sent k now => exact ⟨rfl, rfl⟩
  | take k now => exact ⟨rfl, rfl⟩
  | deliver k now => exact ⟨rfl, rfl⟩
  | leave k ending now => exact ⟨rfl, rfl⟩
  | closed k now => exact same_later s _ now (depart_same (s.act (.tick now)) k _)
  | closeFailed k now => exact same_later s _ now (depart_same (s.act (.tick now)) k .raised)
  | cancel k now => exact same_later s _ now (cancel_same (s.act (.tick now)) k now)

theorem socket_opened (s : Sockets β) (priority : PriorityClass) (symbols : StreamSymbols) (venue : Venue) (now : ℚ) :
    ((sockets β).perform s (.request priority symbols venue now)).next = s.next + 1 ∧
      ((sockets β).perform s (.request priority symbols venue now)).classes =
        Function.update s.classes s.next priority := by
  have performed : (sockets β).perform s (.request priority symbols venue now) =
      (s.act (.tick now)).request priority symbols venue now := rfl
  rw [performed, Sockets.request]
  split
  · have same := enter_same (((s.act (.tick now)).arrive priority).act (.openStream s.next symbols venue now)) s.next now
    exact ⟨same.next, same.classes⟩
  · exact ⟨rfl, rfl⟩

end SchwabGateway.OrderBook
