import SchwabGateway.OrderBook.Order

set_option autoImplicit false

namespace SchwabGateway.OrderBook

open SchwabGateway.Library

variable {β : Type}

def Connection.wanted (connection : Connection β) (store : Store β) (entry : Published β) : Prop :=
  entry ∈ store.published ∧ entry.snapshot.venue = connection.venue ∧ entry.snapshot.symbol ∈ connection.symbols

structure Requested (s : State β) (k : Nat) : Prop where
  pipeline : ∀ entry ∈ s.pipeline k, (s.connections k).wanted s.store entry
  pending : ∀ pending, (s.connections k).stage = .replaying pending → pending ⊆ (s.connections k).symbols
  subscription : ∀ subscription, s.store.subscriptions k = some subscription →
    subscription.venue = (s.connections k).venue ∧ subscription.symbols = (s.connections k).symbols
  early : (s.connections k).stage.isAbsent = true ∨ (s.connections k).stage.isAdmitting = true →
    (s.connections k).sent = [] ∧ s.store.subscriptions k = none

theorem requested_initial (limits : Limits) (clock : ℚ) (k : Nat) :
    Requested (initial limits clock : State β) k where
  pipeline _ member := nomatch member
  pending _ stage := nomatch stage
  subscription _ known := nomatch known
  early _ := ⟨rfl, rfl⟩

theorem requested_frame (s t : State β) (k : Nat) (requested : Requested s k)
    (connection : t.connections k = s.connections k)
    (subscription : t.store.subscriptions k = s.store.subscriptions k)
    (published : s.store.published ⊆ t.store.published) : Requested t k where
  pipeline := by
    rw [State.pipeline, State.queue, connection, subscription]
    intro entry member
    obtain ⟨logged, venue, symbol⟩ := requested.pipeline entry member
    exact ⟨published logged, venue, symbol⟩
  pending := by rw [connection]; exact requested.pending
  subscription := by rw [connection, subscription]; exact requested.subscription
  early := by rw [connection, subscription]; exact requested.early

section Own

variable (s : State β) (k : Nat)

def Standing (s : State β) (k : Nat) : Prop :=
  ∀ subscription, s.store.subscriptions k = some subscription →
    subscription.venue = (s.connections k).venue ∧ subscription.symbols = (s.connections k).symbols

theorem requested_move (stage : Stage β) (sent : List (Published β))
    (kept : ∀ entry ∈ sent ++ (stage.hand ++ s.queue k), (s.connections k).wanted s.store entry)
    (asked : ∀ pending, stage = .replaying pending → pending ⊆ (s.connections k).symbols)
    (later : stage.isAbsent = false ∧ stage.isAdmitting = false) (standing : Standing s k) :
    Requested (s.setConnection k { s.connections k with stage := stage, sent := sent }) k := by
  have own : (s.setConnection k { s.connections k with stage := stage, sent := sent }).connections k =
      { s.connections k with stage := stage, sent := sent } := Function.update_self ..
  refine ⟨?_, ?_, ?_, ?_⟩
  · rw [State.pipeline, own]
    exact kept
  · rw [own]
    exact asked
  · rw [own]
    exact standing
  · rw [own]
    intro early
    cases early with
    | inl absent => cases later.1.symm.trans absent
    | inr admitting => cases later.2.symm.trans admitting

theorem requested_continue (clock : ℚ) (pending : List String) (logged : Logged s.store clock)
    (kept : ∀ entry ∈ (s.connections k).sent ++ s.queue k, (s.connections k).wanted s.store entry)
    (asked : pending ⊆ (s.connections k).symbols) (standing : Standing s k) :
    Requested (s.continueReplay k pending) k := by
  rw [State.continueReplay]
  cases next : replayNext s.store (s.connections k).venue pending with
  | none =>
      exact requested_move s k .waiting (s.connections k).sent kept (fun _ same => by cases same)
        ⟨rfl, rfl⟩ standing
  | some found =>
      obtain ⟨entry, rest⟩ := found
      obtain ⟨passed, symbol, split, stored⟩ := replay_next_spec s.store _ pending entry rest next
      obtain ⟨key, before, log⟩ := stored_last s.store clock logged (symbol, (s.connections k).venue) entry stored
      have published : entry ∈ s.store.published := by
        have member : entry ∈ s.store.publishedOf (symbol, (s.connections k).venue) := by simp [log]
        exact List.mem_of_mem_filter member
      have turn : symbol ∈ pending := by simp [split]
      have later : rest ⊆ pending := by
        rw [split]
        intro other member
        simp [member]
      have own : (s.connections k).wanted s.store entry := by
        have named : entry.snapshot.symbol = symbol := congrArg Prod.fst key
        exact ⟨published, congrArg Prod.snd key, named ▸ asked turn⟩
      apply requested_move s k (.replaying rest) _ _ _ ⟨rfl, rfl⟩ standing
      · intro other member
        rw [show (Stage.replaying rest : Stage β).hand = [] from rfl, List.nil_append, List.append_assoc,
          List.mem_append, List.mem_append] at member
        rcases member with sent | new | queued
        · exact kept other (List.mem_append_left _ sent)
        · exact List.mem_singleton.mp new ▸ own
        · exact kept other (List.mem_append_right _ queued)
      · intro others same
        cases same
        exact fun symbol member => asked (later member)

variable (requested : Requested s k)

include requested

theorem requested_kept (entry : Published β)
    (member : entry ∈ (s.connections k).sent ∨ entry ∈ (s.connections k).stage.hand ∨ entry ∈ s.queue k) :
    (s.connections k).wanted s.store entry := by
  apply requested.pipeline
  rw [State.pipeline, List.mem_append, List.mem_append]
  exact member

theorem requested_open (symbols : List String) (venue : Venue)
    (absent : (s.connections k).stage.isAbsent = true) : Requested (s.openStream k symbols venue) k := by
  obtain ⟨_, none⟩ := requested.early (.inl absent)
  have opened : ∀ stage : Stage β, stage.hand = [] → (∀ pending, stage ≠ .replaying pending) →
      Requested (s.setConnection k ⟨symbols, venue, stage, []⟩) k := by
    intro stage hand plain
    have own : (s.setConnection k ⟨symbols, venue, stage, []⟩).connections k = ⟨symbols, venue, stage, []⟩ :=
      Function.update_self ..
    have empty : (s.setConnection k ⟨symbols, venue, stage, []⟩).queue k = [] := by
      simp [State.queue, State.setConnection, none]
    refine ⟨?_, ?_, ?_, ?_⟩
    · rw [State.pipeline, own, empty, hand]
      exact List.forall_mem_nil _
    · rw [own]
      exact fun pending same => absurd same (plain pending)
    · intro subscription known
      cases none.symm.trans known
    · rw [own]
      exact fun _ => ⟨rfl, none⟩
  rw [State.openStream]
  by_cases connected : s.store.feedState venue = .connected
  · rw [if_pos connected]
    exact opened .admitting rfl (fun _ same => by cases same)
  · rw [if_neg connected]
    exact opened .refused rfl (fun _ same => by cases same)

theorem requested_admitted (clock : ℚ) (logged : Logged s.store clock)
    (admitting : (s.connections k).stage.isAdmitting = true) : Requested (s.admitted k) k := by
  obtain ⟨sent, none⟩ := requested.early (.inr admitting)
  rw [State.admitted]
  cases subscribed : s.store.subscribe k (s.connections k).symbols (s.connections k).venue with
  | error message =>
      refine requested_move s k .closed _ ?_ (fun _ same => by cases same) ⟨rfl, rfl⟩ requested.subscription
      simp [sent, Stage.hand, State.queue, none]
  | ok store =>
      rw [Store.subscribe] at subscribed
      by_cases missing : (s.connections k).symbols = []
      · rw [if_pos missing] at subscribed
        cases subscribed
      · rw [if_neg missing] at subscribed
        cases subscribed
        apply requested_continue _ k clock
        · exact logged_frame s.store _ clock logged rfl rfl rfl
        · simp [sent, State.queue]
        · exact fun _ member => member
        · intro subscription known
          cases (Function.update_self ..).symm.trans known
          exact ⟨rfl, rfl⟩

theorem requested_sent (clock : ℚ) (logged : Logged s.store clock) : Requested (s.sendReturned k) k := by
  rw [State.sendReturned]
  have standing : ∀ entry ∈ (s.connections k).sent ++ s.queue k, (s.connections k).wanted s.store entry := by
    intro entry member
    rcases List.mem_append.mp member with sent | queued
    · exact requested_kept s k requested entry (.inl sent)
    · exact requested_kept s k requested entry (.inr (.inr queued))
  cases stage : (s.connections k).stage with
  | replaying pending =>
      exact requested_continue s k clock pending logged standing (requested.pending pending stage)
        requested.subscription
  | sending =>
      exact requested_move s k .waiting _ standing (fun _ same => by cases same) ⟨rfl, rfl⟩
        requested.subscription
  | _ => exact requested

theorem requested_take : Requested (s.take k) k := by
  rw [State.take]
  cases queue : s.queue k with
  | nil => exact requested
  | cons entry rest =>
      cases known : s.store.subscriptions k with
      | none =>
          rw [State.queue, known] at queue
          cases queue
      | some subscription =>
          have rested : (s.setQueue k rest).queue k = rest := by
            simp [State.queue, State.setQueue, known]
          apply requested_move (s.setQueue k rest) k (.taken entry) _ _ (fun _ same => by cases same) ⟨rfl, rfl⟩
          · intro other same
            simp only [State.setQueue, Function.update_self, known, Option.map_some, Option.some.injEq] at same
            rw [← same]
            exact requested.subscription subscription known
          · rw [rested]
            intro other member
            apply requested_kept s k requested other
            rw [queue]
            exact (List.mem_append.mp member).imp id .inr

theorem requested_deliver : Requested (s.deliver k) k := by
  rw [State.deliver]
  cases stage : (s.connections k).stage with
  | taken entry =>
      apply requested_move s k .sending _ _ (fun _ same => by cases same) ⟨rfl, rfl⟩ requested.subscription
      intro other member
      apply requested_kept s k requested other
      rw [stage, Stage.hand]
      rw [show (Stage.sending : Stage β).hand = [] from rfl, List.nil_append, List.append_assoc, List.mem_append,
        List.mem_append] at member
      exact member
  | _ => exact requested

theorem requested_leave : Requested (s.leave k) k := by
  apply requested_move { s with store := s.store.unsubscribe k } k .closed _ _ (fun _ same => by cases same)
    ⟨rfl, rfl⟩
  · intro subscription known
    simp [Store.unsubscribe] at known
  · intro entry member
    have empty : State.queue { s with store := s.store.unsubscribe k } k = [] := by
      simp [State.queue, Store.unsubscribe]
    rw [show (Stage.closed : Stage β).hand = [] from rfl, empty, List.append_nil, List.append_nil] at member
    exact requested_kept s k requested entry (.inl member)

theorem requested_publish (snapshot : Snapshot β) (now : ℚ) :
    Requested { s with store := s.store.publish snapshot now } k := by
  have grown : s.store.published ⊆ (s.store.publish snapshot now).published := List.subset_append_left _ _
  have standing : Standing { s with store := s.store.publish snapshot now } k := by
    intro subscription known
    obtain ⟨old, was, offered⟩ := Option.map_eq_some_iff.mp known
    have same : subscription.venue = old.venue ∧ subscription.symbols = old.symbols := by
      rw [← offered, Subscription.offer]
      by_cases wants : old.wants snapshot
      · rw [if_pos wants]
        exact ⟨rfl, rfl⟩
      · rw [if_neg wants]
        exact ⟨rfl, rfl⟩
    rw [same.1, same.2]
    exact requested.subscription old was
  have queued : ∀ entry ∈ State.queue { s with store := s.store.publish snapshot now } k,
      (s.connections k).wanted (s.store.publish snapshot now) entry := by
    intro entry member
    rw [State.queue] at member
    cases known : s.store.subscriptions k with
    | none =>
        rw [show (s.store.publish snapshot now).subscriptions k = none by simp [Store.publish, known]] at member
        cases member
    | some subscription =>
        obtain ⟨venue, symbols⟩ := requested.subscription subscription known
        have old : ∀ entry ∈ subscription.queue, (s.connections k).wanted (s.store.publish snapshot now) entry := by
          intro entry member
          have held : (s.connections k).wanted s.store entry := by
            apply requested_kept s k requested entry
            rw [State.queue, known]
            exact .inr (.inr member)
          exact ⟨grown held.1, held.2⟩
        rw [show (s.store.publish snapshot now).subscriptions k =
          some (subscription.offer s.store.limits.subscriberQueueLimit ⟨s.store.published.length, now, snapshot⟩) by
            simp [Store.publish, known]] at member
        dsimp only at member
        rw [Subscription.offer] at member
        by_cases wants : subscription.wants snapshot
        · rw [if_pos wants] at member
          have either := (push_bounded_suffix _ _ _).subset member
          rcases List.mem_append.mp either with kept | new
          · exact old entry kept
          · rw [List.mem_singleton.mp new]
            refine ⟨by simp [Store.publish], ?_, ?_⟩
            · exact wants.1.symm.trans venue
            · exact symbols ▸ wants.2
        · rw [if_neg wants] at member
          exact old entry member
  refine ⟨?_, requested.pending, standing, ?_⟩
  · intro entry member
    rw [State.pipeline, List.mem_append, List.mem_append] at member
    rcases member with sent | hand | queue
    · have held := requested_kept s k requested entry (.inl sent)
      exact ⟨grown held.1, held.2⟩
    · have held := requested_kept s k requested entry (.inr (.inl hand))
      exact ⟨grown held.1, held.2⟩
    · exact queued entry queue
  · intro before
    obtain ⟨sent, none⟩ := requested.early before
    refine ⟨sent, ?_⟩
    simp [Store.publish, none]

end Own

theorem requested_other (s t : State β) (j k : Nat) (requested : Requested s k) (different : k ≠ j)
    (same : Local j s t) : Requested t k :=
  requested_frame s t k requested (same.others k different).1 (same.others k different).2
    (same.published ▸ fun _ member => member)

theorem requested_step (s : State β) (event : Event β) (k : Nat) (logged : Logged s.store s.clock)
    (requested : Requested s k) (guarded : (streams β).enabled s event) :
    Requested ((streams β).perform s event) k := by
  have later : ∀ now, Requested { s with clock := now } k := by
    intro now
    exact requested_frame s _ k requested rfl rfl (fun _ member => member)
  cases event with
  | publish snapshot now => exact requested_publish { s with clock := now } k (later now) snapshot now
  | markFeedState venue state now => exact requested_frame s _ k requested rfl rfl (fun _ member => member)
  | openStream j symbols venue now =>
      by_cases own : k = j
      · subst own
        exact requested_open { s with clock := now } k (later now) _ venue guarded.2
      · exact requested_other { s with clock := now } _ j k (later now) own (local_open _ j _ venue)
  | admitted j now =>
      by_cases own : k = j
      · subst own
        exact requested_admitted { s with clock := now } k (later now) s.clock logged guarded.2
      · exact requested_other { s with clock := now } _ j k (later now) own (local_admitted _ j)
  | sent j now =>
      by_cases own : k = j
      · subst own
        exact requested_sent { s with clock := now } k (later now) s.clock logged
      · exact requested_other { s with clock := now } _ j k (later now) own (local_sent _ j)
  | take j now =>
      by_cases own : k = j
      · subst own
        exact requested_take { s with clock := now } k (later now)
      · exact requested_other { s with clock := now } _ j k (later now) own (local_take _ j)
  | deliver j now =>
      by_cases own : k = j
      · subst own
        exact requested_deliver { s with clock := now } k (later now)
      · exact requested_other { s with clock := now } _ j k (later now) own (local_deliver _ j)
  | leave j now =>
      by_cases own : k = j
      · subst own
        exact requested_leave { s with clock := now } k (later now)
      · exact requested_other { s with clock := now } _ j k (later now) own (local_leave _ j)
  | tick now => exact later now

-- A stream sends nothing but published snapshots that were asked for.
theorem reachable_requested (limits : Limits) (clock : ℚ) (s : State β) (reached : Reachable limits clock s)
    (k : Nat) : Requested s k := by
  have held := (streams β).reaches_invariant Set.univ
    (fun a : State β => Logged a.store a.clock ∧ Requested a k)
    (fun a event _ before guarded => ⟨logged_step a event before.1 guarded,
      requested_step a event k before.1 before.2 guarded⟩)
    _ s reached ⟨logged_empty limits clock, requested_initial limits clock k⟩
  exact held.2

end SchwabGateway.OrderBook
