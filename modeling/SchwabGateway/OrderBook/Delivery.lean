import Mathlib.Algebra.GroupWithZero.Nat
import SchwabGateway.OrderBook.Fanout

set_option autoImplicit false

namespace SchwabGateway.OrderBook

open SchwabGateway.Library

variable {β : Type}

-- What the holder of one subscription has, against what it asked for: in the
-- order of publication, nothing twice, and nothing missing but what is in lost.
structure Delivered (b : Broker β) (k : Nat) (ticket : Ticket) : Prop where
  inOrder : (b.read k ++ b.queue k).Sublist (ticket.window b.store.published)
  complete : (b.lost k ++ (b.read k ++ b.queue k)).Perm (ticket.window b.store.published)
  bounded : (b.queue k).length ≤ b.store.limits.subscriberQueueLimit

structure Tracked (b : Broker β) : Prop where
  numbered : b.store.published.map Published.number = List.range b.store.published.length
  history : ∀ key, b.store.history key = (b.store.publishedOf key).rtake b.store.limits.historyLimit
  standing : ∀ k subscription, b.store.subscriptions k = some subscription →
    ∃ since, b.tickets k = some ⟨subscription.symbols, subscription.venue, since, none⟩
  discarded : ∀ k ticket, b.tickets k = some ticket → b.store.subscriptions k = none →
    ∃ count, ticket.until_ = some count ∧ count ≤ b.store.published.length
  begun : ∀ k ticket, b.tickets k = some ticket → ticket.since ≤ b.store.published.length
  unmade : ∀ k, b.tickets k = none →
    b.left k = [] ∧ b.read k = [] ∧ b.lost k = [] ∧ b.store.subscriptions k = none
  delivered : ∀ k ticket, b.tickets k = some ticket → Delivered b k ticket
  members : ∀ k, k ∈ b.made ↔ b.tickets k ≠ none
  distinct : b.made.Nodup
  counted : b.subscriberDropCount = (b.made.map fun k => (b.lost k).length).sum

theorem tracked_empty (limits : Limits) : Tracked (Broker.empty limits : Broker β) where
  numbered := rfl
  history _ := by simp [Broker.empty, Store.empty, Store.publishedOf]
  standing _ _ none_ := nomatch none_
  discarded _ _ none_ := nomatch none_
  begun _ _ none_ := nomatch none_
  unmade _ _ := ⟨rfl, rfl, rfl, rfl⟩
  delivered _ _ none_ := nomatch none_
  members _ := by simp [Broker.empty]
  distinct := List.nodup_nil
  counted := rfl

theorem published_nodup (b : Broker β) (tracked : Tracked b) : b.store.published.Nodup := by
  apply List.Nodup.of_map Published.number
  rw [tracked.numbered]
  exact List.nodup_range

theorem window_sublist (ticket : Ticket) (published : List (Published β)) :
    (ticket.window published).Sublist published := by
  unfold Ticket.window
  dsimp only
  refine List.Sublist.trans List.filter_sublist (List.Sublist.trans (List.drop_sublist _ _) ?_)
  split
  · exact List.Sublist.refl _
  · exact List.take_sublist _ _

theorem window_publish (ticket : Ticket) (published : List (Published β)) (entry : Published β)
    (standing : ticket.until_ = none) (begun : ticket.since ≤ published.length) :
    ticket.window (published ++ [entry]) =
      ticket.window published ++ if ticket.wants entry.snapshot then [entry] else [] := by
  unfold Ticket.window
  rw [standing]
  dsimp only
  rw [List.drop_append_of_le_length begun, List.filter_append]
  congr 1
  by_cases wants : ticket.wants entry.snapshot <;> simp [wants]

theorem window_discarded (ticket : Ticket) (published : List (Published β)) (entry : Published β)
    (count : Nat) (discarded : ticket.until_ = some count) (within : count ≤ published.length) :
    ticket.window (published ++ [entry]) = ticket.window published := by
  unfold Ticket.window
  rw [discarded]
  dsimp only
  rw [List.take_append_of_le_length within]

theorem push_bounded_cases (limit : Nat) (queue : List (Published β)) (entry : Published β) :
    queue.length < limit ∧ pushBounded limit queue entry = queue ++ [entry] ∨
      limit ≤ queue.length ∧ pushBounded limit queue entry = queue.tail ++ [entry] := by
  by_cases full : limit ≤ queue.length
  · exact .inr ⟨full, by rw [pushBounded, if_pos full]⟩
  · exact .inl ⟨by omega, by rw [pushBounded, if_neg full]⟩

theorem window_push (limit : Nat) (read lost queue window : List (Published β)) (entry : Published β)
    (inOrder : (read ++ queue).Sublist window) (complete : (lost ++ (read ++ queue)).Perm window) :
    (read ++ pushBounded limit queue entry).Sublist (window ++ [entry]) ∧
      ((lost ++ if limit ≤ queue.length then queue.take 1 else []) ++
        (read ++ pushBounded limit queue entry)).Perm (window ++ [entry]) := by
  rcases push_bounded_cases limit queue entry with ⟨room, pushed⟩ | ⟨full, pushed⟩
  · rw [pushed, if_neg (by omega), List.append_nil]
    constructor
    · rw [← List.append_assoc]
      exact inOrder.append_right [entry]
    · have same := complete.append_right [entry]
      simpa only [List.append_assoc] using same
  · rw [pushed, if_pos full]
    constructor
    · rw [← List.append_assoc]
      exact ((List.Sublist.append_left (List.tail_sublist queue) read).trans inOrder).append_right [entry]
    · have same := complete.append_right [entry]
      refine List.Perm.trans ?_ same
      have split : queue = queue.take 1 ++ queue.tail := by
        rw [← List.drop_one, List.take_append_drop]
      calc (lost ++ queue.take 1) ++ (read ++ (queue.tail ++ [entry]))
          = lost ++ (queue.take 1 ++ (read ++ (queue.tail ++ [entry]))) := List.append_assoc ..
        List.Perm _ (lost ++ (read ++ (queue.take 1 ++ (queue.tail ++ [entry])))) :=
            List.Perm.append_left lost (List.perm_append_comm_assoc _ _ _)
        _ = lost ++ (read ++ queue) ++ [entry] := by
            rw [← List.append_assoc (queue.take 1), ← split]
            simp only [List.append_assoc]

section Publish

variable (b : Broker β) (snapshot : Snapshot β) (now : ℚ)

theorem broker_publish_queue (k : Nat) :
    (b.publish snapshot now).queue k =
      match b.store.subscriptions k with
      | some subscription =>
          (subscription.offer b.store.limits.subscriberQueueLimit
            ⟨b.store.published.length, now, snapshot⟩).queue
      | none => b.left k := by
  simp only [Broker.queue, Broker.publish, Store.publish]
  cases b.store.subscriptions k with
  | none => rfl
  | some subscription => rfl

theorem delivered_publish (tracked : Tracked b) (k : Nat) (ticket : Ticket)
    (made : b.tickets k = some ticket) : Delivered (b.publish snapshot now) k ticket := by
  obtain ⟨inOrder, complete, bounded⟩ := tracked.delivered k ticket made
  have queue := broker_publish_queue b snapshot now k
  cases standing : b.store.subscriptions k with
  | none =>
      obtain ⟨count, discarded, within⟩ := tracked.discarded k ticket made standing
      have window := window_discarded ticket b.store.published
        ⟨b.store.published.length, now, snapshot⟩ count discarded within
      have same : (b.publish snapshot now).queue k = b.queue k := by
        rw [queue, Broker.queue, standing]
      have kept : (b.publish snapshot now).lost k = b.lost k := by
        simp [Broker.publish, Broker.dropped, standing]
      refine ⟨?_, ?_, ?_⟩
      · rw [same]
        exact window ▸ inOrder
      · rw [same, kept]
        exact window ▸ complete
      · rw [same]
        exact bounded
  | some subscription =>
      obtain ⟨since, own⟩ := tracked.standing k subscription standing
      have named := Option.some.inj (made.symm.trans own)
      have window := window_publish ticket b.store.published
        ⟨b.store.published.length, now, snapshot⟩ (by rw [named]) (tracked.begun k ticket made)
      have wanted : ticket.wants snapshot ↔ subscription.wants snapshot := by
        rw [named]
        exact Iff.rfl
      have before : b.queue k = subscription.queue := by rw [Broker.queue, standing]
      rw [before] at inOrder complete bounded
      rw [standing] at queue
      dsimp only at queue window
      by_cases wants : subscription.wants snapshot
      · rw [if_pos (wanted.mpr wants)] at window
        rw [Subscription.offer, if_pos wants] at queue
        have lost : (b.publish snapshot now).lost k = b.lost k ++
            if b.store.limits.subscriberQueueLimit ≤ subscription.queue.length then
              subscription.queue.take 1 else [] := by
          simp [Broker.publish, Broker.dropped, standing, wants]
        obtain ⟨ordered, whole⟩ := window_push b.store.limits.subscriberQueueLimit (b.read k)
          (b.lost k) subscription.queue _ ⟨b.store.published.length, now, snapshot⟩ inOrder complete
        refine ⟨?_, ?_, ?_⟩
        · rw [queue]
          exact window ▸ ordered
        · rw [queue, lost]
          exact window ▸ whole
        · rw [queue]
          exact push_bounded_bounded _ _ _ b.store.limits.queueBounded.1 bounded
      · rw [if_neg (fun inside => wants (wanted.mp inside)), List.append_nil] at window
        rw [Subscription.offer, if_neg wants] at queue
        have lost : (b.publish snapshot now).lost k = b.lost k := by
          simp [Broker.publish, Broker.dropped, standing, wants]
        refine ⟨?_, ?_, ?_⟩
        · rw [queue]
          exact window ▸ inOrder
        · rw [queue, lost]
          exact window ▸ complete
        · rw [queue]
          exact bounded

theorem dropped_length (k : Nat) :
    (b.dropped snapshot k).length = if b.dropped snapshot k ≠ [] then 1 else 0 := by
  unfold Broker.dropped
  split
  · split
    · rename_i subscription _ _
      cases subscription.queue <;> simp
    · simp
  · simp

theorem counted_publish (tracked : Tracked b) :
    (b.publish snapshot now).subscriberDropCount =
      (b.made.map fun k => ((b.publish snapshot now).lost k).length).sum := by
  simp only [Broker.publish, List.length_append]
  rw [tracked.counted]
  generalize b.made = made
  induction made with
  | nil => rfl
  | cons k rest ih =>
      have here := dropped_length b snapshot k
      by_cases given : b.dropped snapshot k ≠ []
      · rw [if_pos given] at here
        rw [List.countP_cons_of_pos (by simpa using given), List.map_cons, List.map_cons,
          List.sum_cons, List.sum_cons, ← ih, here]
        omega
      · rw [if_neg given] at here
        rw [List.countP_cons_of_neg (by simpa using given),
          List.map_cons, List.map_cons, List.sum_cons, List.sum_cons, ← ih, here]
        omega

theorem tracked_publish (tracked : Tracked b) : Tracked (b.publish snapshot now) where
  numbered := by
    simp only [Broker.publish, Store.publish, List.map_append, tracked.numbered, List.map_singleton,
      List.length_append, List.length_singleton, List.range_succ]
  history := by
    intro key
    have published := published_of_publish b.store snapshot now key
    change (b.store.publish snapshot now).history key =
      ((b.store.publish snapshot now).publishedOf key).rtake b.store.limits.historyLimit
    rw [published]
    by_cases own : snapshot.key = key
    · subst own
      rw [if_pos rfl, ← push_bounded_rtake _ _ _ b.store.limits.historyBounded.1, ← tracked.history]
      simp only [Store.publish, Function.update_self]
    · rw [if_neg own, List.append_nil, ← tracked.history]
      simp only [Store.publish, Function.update_of_ne (Ne.symm own)]
  standing := by
    intro k subscription there
    simp only [Broker.publish, Store.publish, Option.map_eq_some_iff] at there
    obtain ⟨before, standing, rfl⟩ := there
    obtain ⟨since, made⟩ := tracked.standing k before standing
    refine ⟨since, ?_⟩
    unfold Subscription.offer
    split <;> exact made
  discarded := by
    intro k ticket made gone
    simp only [Broker.publish, Store.publish, Option.map_eq_none_iff] at gone
    obtain ⟨count, discarded, within⟩ := tracked.discarded k ticket made gone
    refine ⟨count, discarded, ?_⟩
    simp only [Broker.publish, Store.publish, List.length_append]
    omega
  begun := by
    intro k ticket made
    have begun := tracked.begun k ticket made
    simp only [Broker.publish, Store.publish, List.length_append]
    omega
  unmade := by
    intro k unmade
    obtain ⟨left, read, lost, none_⟩ := tracked.unmade k unmade
    refine ⟨left, read, ?_, ?_⟩
    · simp [Broker.publish, Broker.dropped, none_, lost]
    · simp [Broker.publish, Store.publish, none_]
  delivered k ticket made := delivered_publish b snapshot now tracked k ticket made
  members := tracked.members
  distinct := tracked.distinct
  counted := counted_publish b snapshot now tracked

end Publish

section Subscriptions

variable (b : Broker β)

-- A subscription is made, discarded or read from: the log and the history stay,
-- and the other subscriptions do not notice.
structure Elsewhere (k : Nat) (before after : Broker β) : Prop where
  limits : after.store.limits = before.store.limits
  published : after.store.published = before.store.published
  history : after.store.history = before.store.history
  subscriptions : ∀ j, j ≠ k → after.store.subscriptions j = before.store.subscriptions j
  tickets : ∀ j, j ≠ k → after.tickets j = before.tickets j
  left : ∀ j, j ≠ k → after.left j = before.left j
  read : ∀ j, j ≠ k → after.read j = before.read j
  lost : after.lost = before.lost

theorem elsewhere_refl (k : Nat) : Elsewhere k b b :=
  ⟨rfl, rfl, rfl, fun _ _ => rfl, fun _ _ => rfl, fun _ _ => rfl, fun _ _ => rfl, rfl⟩

theorem elsewhere_subscribe (k : Nat) (symbols : List String) (venue : Venue) :
    Elsewhere k b (b.subscribe k symbols venue) := by
  unfold Broker.subscribe Store.subscribe
  by_cases none_ : symbols = []
  · rw [if_pos none_]
    exact elsewhere_refl b k
  · rw [if_neg none_]
    exact ⟨rfl, rfl, rfl, fun _ other => Function.update_of_ne other ..,
      fun _ other => Function.update_of_ne other .., fun _ _ => rfl, fun _ _ => rfl, rfl⟩

theorem elsewhere_unsubscribe (k : Nat) : Elsewhere k b (b.unsubscribe k) := by
  unfold Broker.unsubscribe
  split
  · exact elsewhere_refl b k
  · exact ⟨rfl, rfl, rfl, fun _ other => Function.update_of_ne other ..,
      fun _ other => Function.update_of_ne other .., fun _ other => Function.update_of_ne other ..,
      fun _ _ => rfl, rfl⟩

theorem elsewhere_read (k : Nat) : Elsewhere k b (b.readNext k) := by
  unfold Broker.readNext
  split
  · exact elsewhere_refl b k
  · exact ⟨rfl, rfl, rfl, fun _ other => Function.update_of_ne other .., fun _ _ => rfl,
      fun _ other => Function.update_of_ne other .., fun _ other => Function.update_of_ne other .., rfl⟩

theorem elsewhere_queue (k j : Nat) (after : Broker β) (same : Elsewhere k b after) (other : j ≠ k) :
    after.queue j = b.queue j := by
  rw [Broker.queue, Broker.queue, same.subscriptions j other, same.left j other]

theorem elsewhere_delivered (k j : Nat) (after : Broker β) (same : Elsewhere k b after) (other : j ≠ k)
    (ticket : Ticket) (delivered : Delivered b j ticket) : Delivered after j ticket := by
  have queue := elsewhere_queue b k j after same other
  obtain ⟨inOrder, complete, bounded⟩ := delivered
  refine ⟨?_, ?_, ?_⟩
  · rw [queue, same.read j other, same.published]
    exact inOrder
  · rw [queue, same.read j other, same.published, same.lost]
    exact complete
  · rw [queue, same.limits]
    exact bounded

structure Settled (k : Nat) (after : Broker β) : Prop where
  standing : ∀ subscription, after.store.subscriptions k = some subscription →
    ∃ since, after.tickets k = some ⟨subscription.symbols, subscription.venue, since, none⟩
  discarded : ∀ ticket, after.tickets k = some ticket → after.store.subscriptions k = none →
    ∃ count, ticket.until_ = some count ∧ count ≤ after.store.published.length
  begun : ∀ ticket, after.tickets k = some ticket → ticket.since ≤ after.store.published.length
  unmade : after.tickets k = none →
    after.left k = [] ∧ after.read k = [] ∧ after.lost k = [] ∧ after.store.subscriptions k = none
  delivered : ∀ ticket, after.tickets k = some ticket → Delivered after k ticket
  members : ∀ j, j ∈ after.made ↔ after.tickets j ≠ none
  distinct : after.made.Nodup
  counted : after.subscriberDropCount = (after.made.map fun j => (after.lost j).length).sum

theorem tracked_elsewhere (k : Nat) (after : Broker β) (tracked : Tracked b) (same : Elsewhere k b after)
    (settled : Settled k after) : Tracked after where
  numbered := by rw [same.published]; exact tracked.numbered
  history := by
    intro key
    rw [same.history, same.limits, Store.publishedOf, same.published]
    exact tracked.history key
  standing := by
    intro j subscription there
    by_cases here : j = k
    · subst here
      exact settled.standing subscription there
    · rw [same.subscriptions j here] at there
      rw [same.tickets j here]
      exact tracked.standing j subscription there
  discarded := by
    intro j ticket made gone
    by_cases here : j = k
    · subst here
      exact settled.discarded ticket made gone
    · rw [same.subscriptions j here] at gone
      rw [same.tickets j here] at made
      rw [same.published]
      exact tracked.discarded j ticket made gone
  begun := by
    intro j ticket made
    by_cases here : j = k
    · subst here
      exact settled.begun ticket made
    · rw [same.tickets j here] at made
      rw [same.published]
      exact tracked.begun j ticket made
  unmade := by
    intro j unmade
    by_cases here : j = k
    · subst here
      exact settled.unmade unmade
    · rw [same.tickets j here] at unmade
      rw [same.left j here, same.read j here, same.lost, same.subscriptions j here]
      exact tracked.unmade j unmade
  delivered := by
    intro j ticket made
    by_cases here : j = k
    · subst here
      exact settled.delivered ticket made
    · rw [same.tickets j here] at made
      exact elsewhere_delivered b k j after same here ticket (tracked.delivered j ticket made)
  members := settled.members
  distinct := settled.distinct
  counted := settled.counted

theorem tracked_subscribe (tracked : Tracked b) (k : Nat) (symbols : List String) (venue : Venue)
    (fresh : b.tickets k = none) : Tracked (b.subscribe k symbols venue) := by
  obtain ⟨left, read, lost, none_⟩ := tracked.unmade k fresh
  apply tracked_elsewhere b k _ tracked (elsewhere_subscribe b k symbols venue)
  by_cases empty : symbols = []
  · rw [Broker.subscribe, Store.subscribe, if_pos empty]
    exact ⟨fun _ there => tracked.standing k _ there, fun _ made => tracked.discarded k _ made,
      fun _ made => tracked.begun k _ made, fun _ => ⟨left, read, lost, none_⟩,
      fun _ made => tracked.delivered k _ made, tracked.members, tracked.distinct, tracked.counted⟩
  · have new : k ∉ b.made := fun old => (tracked.members k).mp old fresh
    rw [Broker.subscribe, Store.subscribe, if_neg empty]
    refine ⟨?_, ?_, ?_, ?_, ?_, ?_, ?_, ?_⟩
    · intro subscription there
      dsimp only at there ⊢
      rw [Function.update_self] at there ⊢
      cases there
      exact ⟨_, rfl⟩
    · intro ticket made gone
      dsimp only at gone
      rw [Function.update_self] at gone
      cases gone
    · intro ticket made
      dsimp only at made
      rw [Function.update_self] at made
      cases made
      exact Nat.le_refl _
    · intro unmade
      dsimp only at unmade
      rw [Function.update_self] at unmade
      cases unmade
    · intro ticket made
      dsimp only at made
      rw [Function.update_self] at made
      cases made
      have nothing : Ticket.window ⟨symbols, venue, b.store.published.length, none⟩ b.store.published = [] := by
        simp [Ticket.window]
      refine ⟨?_, ?_, ?_⟩
      · simp [Broker.queue, read]
      · simp [Broker.queue, read, lost, nothing]
      · simp [Broker.queue]
    · intro j
      dsimp only
      by_cases here : j = k
      · subst here
        simp
      · rw [Function.update_of_ne here, List.mem_cons, or_iff_right here]
        exact tracked.members j
    · exact List.nodup_cons.mpr ⟨new, tracked.distinct⟩
    · dsimp only
      rw [List.map_cons, List.sum_cons, lost, List.length_nil, Nat.zero_add]
      exact tracked.counted

-- Discarding closes the window where it is, so nothing is missing from it.
theorem tracked_unsubscribe (tracked : Tracked b) (k : Nat) : Tracked (b.unsubscribe k) := by
  apply tracked_elsewhere b k _ tracked (elsewhere_unsubscribe b k)
  unfold Broker.unsubscribe
  cases there : b.store.subscriptions k with
  | none =>
      exact ⟨fun _ other => tracked.standing k _ other, fun _ made => tracked.discarded k _ made,
        fun _ made => tracked.begun k _ made, fun unmade => tracked.unmade k unmade,
        fun _ made => tracked.delivered k _ made, tracked.members, tracked.distinct, tracked.counted⟩
  | some subscription =>
      obtain ⟨since, own⟩ := tracked.standing k subscription there
      have begun := tracked.begun k _ own
      obtain ⟨inOrder, complete, bounded⟩ := tracked.delivered k _ own
      have window : Ticket.window
          ⟨subscription.symbols, subscription.venue, since, some b.store.published.length⟩ b.store.published =
          Ticket.window ⟨subscription.symbols, subscription.venue, since, none⟩ b.store.published := by
        simp only [Ticket.window, List.take_length]
        rfl
      refine ⟨?_, ?_, ?_, ?_, ?_, ?_, ?_, ?_⟩
      · intro other standing
        simp [Store.unsubscribe] at standing
      · intro ticket made _
        dsimp only at made
        rw [Function.update_self, own] at made
        cases made
        exact ⟨_, rfl, Nat.le_refl _⟩
      · intro ticket made
        dsimp only at made
        rw [Function.update_self, own] at made
        cases made
        exact begun
      · intro unmade
        dsimp only at unmade
        rw [Function.update_self, own] at unmade
        cases unmade
      · intro ticket made
        dsimp only at made
        rw [Function.update_self, own] at made
        cases made
        have queue : b.queue k = subscription.queue := by rw [Broker.queue, there]
        rw [queue] at inOrder complete bounded
        refine ⟨?_, ?_, ?_⟩
        · simp only [Broker.queue, Store.unsubscribe, Function.update_self]
          exact window ▸ inOrder
        · simp only [Broker.queue, Store.unsubscribe, Function.update_self]
          exact window ▸ complete
        · simp only [Broker.queue, Store.unsubscribe, Function.update_self]
          exact bounded
      · intro j
        dsimp only
        by_cases here : j = k
        · subst here
          rw [Function.update_self, tracked.members j, own]
          simp
        · rw [Function.update_of_ne here]
          exact tracked.members j
      · exact tracked.distinct
      · exact tracked.counted

theorem tracked_read (tracked : Tracked b) (k : Nat) : Tracked (b.readNext k) := by
  apply tracked_elsewhere b k _ tracked (elsewhere_read b k)
  unfold Broker.readNext
  cases filled : b.queue k with
  | nil =>
      exact ⟨fun _ there => tracked.standing k _ there, fun _ made => tracked.discarded k _ made,
        fun _ made => tracked.begun k _ made, fun unmade => tracked.unmade k unmade,
        fun _ made => tracked.delivered k _ made, tracked.members, tracked.distinct, tracked.counted⟩
  | cons entry rest =>
      refine ⟨?_, ?_, fun _ made => tracked.begun k _ made, ?_, ?_, tracked.members, tracked.distinct,
        tracked.counted⟩
      · intro subscription there
        simp only [Function.update_self, Option.map_eq_some_iff] at there
        obtain ⟨before, standing, rfl⟩ := there
        exact tracked.standing k before standing
      · intro ticket made gone
        simp only [Function.update_self, Option.map_eq_none_iff] at gone
        exact tracked.discarded k ticket made gone
      · intro unmade
        obtain ⟨left, _, _, none_⟩ := tracked.unmade k unmade
        rw [Broker.queue, none_] at filled
        exact absurd (filled.symm.trans left) (by simp)
      · intro ticket made
        obtain ⟨inOrder, complete, bounded⟩ := tracked.delivered k ticket made
        have queue : Broker.queue
            { b with
              store :=
                { b.store with
                  subscriptions := Function.update b.store.subscriptions k
                    ((b.store.subscriptions k).map fun subscription => { subscription with queue := rest }) }
              left := Function.update b.left k rest
              read := Function.update b.read k (b.read k ++ [entry]) } k = rest := by
          rw [Broker.queue]
          dsimp only
          rw [Function.update_self, Function.update_self]
          cases b.store.subscriptions k with
          | none => rfl
          | some subscription => rfl
        rw [filled] at inOrder complete bounded
        refine ⟨?_, ?_, ?_⟩
        · rw [queue]
          dsimp only
          rw [Function.update_self, List.append_assoc]
          exact inOrder
        · rw [queue]
          dsimp only
          rw [Function.update_self, List.append_assoc (b.read k)]
          exact complete
        · rw [queue]
          rw [List.length_cons] at bounded
          exact Nat.le_of_succ_le bounded

end Subscriptions

theorem tracked_perform (b : Broker β) (call : Call β) (tracked : Tracked b)
    (guard : (broker β).enabled b call) : Tracked ((broker β).perform b call) := by
  cases call with
  | publish snapshot now => exact tracked_publish b snapshot now tracked
  | subscribe k symbols venue => exact tracked_subscribe b tracked k symbols venue guard
  | unsubscribe k => exact tracked_unsubscribe b tracked k
  | read k => exact tracked_read b tracked k
  | recent symbol venue limit => exact tracked

def Broker.Reachable (limits : Limits) (b : Broker β) : Prop :=
  (broker β).Reaches Set.univ (Broker.empty limits) b

theorem reachable_tracked (limits : Limits) (b : Broker β) (reached : Broker.Reachable limits b) :
    Tracked b ∧ b.store.limits = limits := by
  apply (broker β).reaches_invariant Set.univ (fun b => Tracked b ∧ b.store.limits = limits) _ _ _
    reached ⟨tracked_empty limits, rfl⟩
  rintro b call _ ⟨tracked, limited⟩ guard
  refine ⟨tracked_perform b call tracked guard, ?_⟩
  cases call with
  | publish snapshot now => exact limited
  | subscribe k symbols venue => exact (elsewhere_subscribe b k symbols venue).limits.trans limited
  | unsubscribe k => exact (elsewhere_unsubscribe b k).limits.trans limited
  | read k => exact (elsewhere_read b k).limits.trans limited
  | recent symbol venue limit => exact limited

end SchwabGateway.OrderBook
