import SchwabGateway.OrderBook.Delivery

set_option autoImplicit false

namespace SchwabGateway.OrderBook

open SchwabGateway.Library

variable {β : Type}

structure FanOut (limits : Limits) (b : Broker β) : Prop where
  delivered : ∀ k ticket, b.tickets k = some ticket → Delivered b k ticket
  once : ∀ k, (b.read k ++ b.queue k).Nodup
  made : b.made.Nodup ∧ ∀ k, k ∈ b.made ↔ b.tickets k ≠ none
  counted : b.subscriberDropCount = (b.made.map fun k => (b.lost k).length).sum
  recent : ∀ symbol venue limit, 1 ≤ limit → limit ≤ 1000 →
    b.store.recent symbol venue limit =
      .ok ((b.store.publishedOf (symbol, venue)).rtake (min limit limits.historyLimit))
  dropping : ∀ call k, (broker β).enabled b call →
    ((broker β).perform b call).lost k = b.lost k ∨
      ∃ snapshot now ticket oldest later, call = .publish snapshot now ∧ b.tickets k = some ticket ∧
        ticket.wants snapshot ∧ (b.queue k).length = limits.subscriberQueueLimit ∧
        b.queue k = oldest :: later ∧ ((broker β).perform b call).lost k = b.lost k ++ [oldest]

theorem delivered_once (b : Broker β) (tracked : Tracked b) (k : Nat) :
    (b.read k ++ b.queue k).Nodup := by
  cases made : b.tickets k with
  | none =>
      obtain ⟨left, read, _, none_⟩ := tracked.unmade k made
      rw [Broker.queue, none_, read]
      dsimp only
      rw [left]
      exact List.nodup_nil
  | some ticket =>
      have window := window_sublist ticket b.store.published
      exact (published_nodup b tracked).sublist ((tracked.delivered k ticket made).inOrder.trans window)

theorem rtake_rtake (list : List β) (first second : Nat) :
    (list.rtake second).rtake first = list.rtake (min first second) := by
  simp only [List.rtake, List.drop_drop, List.length_drop]
  congr 1
  omega

theorem recent_newest (b : Broker β) (tracked : Tracked b) (symbol : String) (venue : Venue) (limit : Nat)
    (positive : 1 ≤ limit) (bounded : limit ≤ 1000) :
    b.store.recent symbol venue limit =
      .ok ((b.store.publishedOf (symbol, venue)).rtake (min limit b.store.limits.historyLimit)) := by
  rw [Store.recent, if_pos ⟨positive, bounded⟩, tracked.history, ← rtake_rtake]
  rfl

theorem dropped_oldest (b : Broker β) (tracked : Tracked b) (snapshot : Snapshot β) (k : Nat) :
    b.dropped snapshot k = [] ∨
      ∃ ticket oldest later, b.tickets k = some ticket ∧ ticket.wants snapshot ∧
        (b.queue k).length = b.store.limits.subscriberQueueLimit ∧ b.queue k = oldest :: later ∧
        b.dropped snapshot k = [oldest] := by
  unfold Broker.dropped
  cases there : b.store.subscriptions k with
  | none => exact .inl rfl
  | some subscription =>
      dsimp only
      by_cases full : subscription.wants snapshot ∧
          b.store.limits.subscriberQueueLimit ≤ subscription.queue.length
      · rw [if_pos full]
        obtain ⟨since, made⟩ := tracked.standing k subscription there
        have bounded := (tracked.delivered k _ made).bounded
        have queue : b.queue k = subscription.queue := by rw [Broker.queue, there]
        rw [queue] at bounded ⊢
        cases filled : subscription.queue with
        | nil => exact .inl rfl
        | cons oldest later =>
            rw [filled] at full bounded
            exact .inr ⟨_, oldest, later, made, full.1, Nat.le_antisymm bounded full.2, rfl, rfl⟩
      · rw [if_neg full]
        exact .inl rfl

theorem reachable_fan_out (limits : Limits) (b : Broker β) (reached : Broker.Reachable limits b) :
    FanOut limits b := by
  obtain ⟨tracked, rfl⟩ := reachable_tracked limits b reached
  refine ⟨tracked.delivered, delivered_once b tracked, ⟨tracked.distinct, tracked.members⟩, tracked.counted,
    recent_newest b tracked, ?_⟩
  intro call k guard
  cases call with
  | publish snapshot now =>
      rcases dropped_oldest b tracked snapshot k with none_ | ⟨ticket, oldest, later, made, wants, full, queue, one⟩
      · refine .inl ?_
        change b.lost k ++ b.dropped snapshot k = b.lost k
        rw [none_, List.append_nil]
      · refine .inr ⟨snapshot, now, ticket, oldest, later, rfl, made, wants, full, queue, ?_⟩
        change b.lost k ++ b.dropped snapshot k = b.lost k ++ [oldest]
        rw [one]
  | subscribe j symbols venue => exact .inl (congrFun (elsewhere_subscribe b j symbols venue).lost k)
  | unsubscribe j => exact .inl (congrFun (elsewhere_unsubscribe b j).lost k)
  | read j => exact .inl (congrFun (elsewhere_read b j).lost k)
  | recent symbol venue limit => exact .inl rfl

section Isolation

structure SameLog (b c : Broker β) : Prop where
  limits : c.store.limits = b.store.limits
  history : c.store.history = b.store.history
  published : c.store.published = b.store.published

structure SameView (k : Nat) (b c : Broker β) : Prop extends SameLog b c where
  subscription : c.store.subscriptions k = b.store.subscriptions k
  ticket : c.tickets k = b.tickets k
  left : c.left k = b.left k
  read : c.read k = b.read k
  lost : c.lost k = b.lost k

def Call.isPublish : Call β → Bool
  | .publish _ _ => true
  | _ => false

def Call.concerns (k : Nat) : Call β → Bool
  | .publish _ _ => true
  | .subscribe j _ _ => j = k
  | .unsubscribe j => j = k
  | .read j => j = k
  | .recent _ _ _ => false

variable (b c : Broker β)

theorem same_log_publish (snapshot : Snapshot β) (now : ℚ) (same : SameLog b c) :
    SameLog (b.publish snapshot now) (c.publish snapshot now) where
  limits := same.limits
  history := by
    simp only [Broker.publish, Store.publish, same.limits, same.history, same.published]
  published := by
    simp only [Broker.publish, Store.publish, same.published]

theorem same_log_elsewhere (k : Nat) (after : Broker β) (same : SameLog b c) (elsewhere : Elsewhere k b after) :
    SameLog after c :=
  ⟨same.limits.trans elsewhere.limits.symm, same.history.trans elsewhere.history.symm,
    same.published.trans elsewhere.published.symm⟩

theorem same_view_elsewhere (j k : Nat) (after : Broker β) (same : SameView k b c)
    (elsewhere : Elsewhere j b after) (other : k ≠ j) : SameView k after c where
  toSameLog := same_log_elsewhere b c j after same.toSameLog elsewhere
  subscription := same.subscription.trans (elsewhere.subscriptions k other).symm
  ticket := same.ticket.trans (elsewhere.tickets k other).symm
  left := same.left.trans (elsewhere.left k other).symm
  read := same.read.trans (elsewhere.read k other).symm
  lost := same.lost.trans (congrFun elsewhere.lost k).symm

theorem same_view_publish (k : Nat) (snapshot : Snapshot β) (now : ℚ) (same : SameView k b c) :
    SameView k (b.publish snapshot now) (c.publish snapshot now) where
  toSameLog := same_log_publish b c snapshot now same.toSameLog
  subscription := by
    simp only [Broker.publish, Store.publish, same.subscription, same.limits, same.published]
  ticket := same.ticket
  left := same.left
  read := same.read
  lost := by
    simp only [Broker.publish, Broker.dropped, same.subscription, same.limits, same.lost]

theorem same_view_subscribe (k : Nat) (symbols : List String) (venue : Venue) (same : SameView k b c) :
    SameView k (b.subscribe k symbols venue) (c.subscribe k symbols venue) := by
  unfold Broker.subscribe Store.subscribe
  by_cases none_ : symbols = []
  · rw [if_pos none_, if_pos none_]
    exact same
  · rw [if_neg none_, if_neg none_]
    exact
      { limits := same.limits, history := same.history, published := same.published
        subscription := by
          dsimp only
          rw [Function.update_self, Function.update_self]
        ticket := by
          dsimp only
          rw [Function.update_self, Function.update_self, same.published]
        left := same.left, read := same.read, lost := same.lost }

theorem same_view_unsubscribe (k : Nat) (same : SameView k b c) :
    SameView k (b.unsubscribe k) (c.unsubscribe k) := by
  unfold Broker.unsubscribe
  rw [same.subscription]
  cases b.store.subscriptions k with
  | none => exact same
  | some subscription =>
      exact
        { limits := same.limits, history := same.history, published := same.published
          subscription := by simp only [Store.unsubscribe, Function.update_self]
          ticket := by simp only [Function.update_self, same.ticket, same.published]
          left := by simp only [Function.update_self]
          read := same.read, lost := same.lost }

theorem same_view_queue (k : Nat) (same : SameView k b c) : c.queue k = b.queue k := by
  rw [Broker.queue, Broker.queue, same.subscription, same.left]

theorem same_view_read (k : Nat) (same : SameView k b c) : SameView k (b.readNext k) (c.readNext k) := by
  unfold Broker.readNext
  rw [same_view_queue b c k same]
  cases b.queue k with
  | nil => exact same
  | cons entry rest =>
      exact
        { limits := same.limits, history := same.history, published := same.published
          subscription := by simp only [Function.update_self, same.subscription]
          ticket := same.ticket
          left := by simp only [Function.update_self]
          read := by simp only [Function.update_self, same.read]
          lost := same.lost }

-- A run looks to one subscription as if the others had never been there.
theorem view_filter (k : Nat) (calls : List (Call β)) (same : SameView k b c) :
    SameView k ((broker β).performAll b calls) ((broker β).performAll c (calls.filter (Call.concerns k))) := by
  apply (broker β).perform_all_filter (SameView k) (Call.concerns k) _ _ calls b c same
  · intro b c call concerns same
    cases call with
    | publish snapshot now => exact same_view_publish b c k snapshot now same
    | subscribe j symbols venue =>
        have here : j = k := by simpa [Call.concerns] using concerns
        exact here ▸ same_view_subscribe b c j symbols venue (here ▸ same)
    | unsubscribe j =>
        have here : j = k := by simpa [Call.concerns] using concerns
        exact here ▸ same_view_unsubscribe b c j (here ▸ same)
    | read j =>
        have here : j = k := by simpa [Call.concerns] using concerns
        exact here ▸ same_view_read b c j (here ▸ same)
    | recent symbol venue limit => cases concerns
  · intro b c call unseen same
    cases call with
    | publish snapshot now => cases unseen
    | subscribe j symbols venue =>
        have other : j ≠ k := by simpa [Call.concerns] using unseen
        exact same_view_elsewhere b c j k _ same (elsewhere_subscribe b j symbols venue) (Ne.symm other)
    | unsubscribe j =>
        have other : j ≠ k := by simpa [Call.concerns] using unseen
        exact same_view_elsewhere b c j k _ same (elsewhere_unsubscribe b j) (Ne.symm other)
    | read j =>
        have other : j ≠ k := by simpa [Call.concerns] using unseen
        exact same_view_elsewhere b c j k _ same (elsewhere_read b j) (Ne.symm other)
    | recent symbol venue limit => exact same

theorem log_filter (calls : List (Call β)) (same : SameLog b c) :
    SameLog ((broker β).performAll b calls) ((broker β).performAll c (calls.filter Call.isPublish)) := by
  apply (broker β).perform_all_filter SameLog Call.isPublish _ _ calls b c same
  · intro b c call publishes same
    cases call with
    | publish snapshot now => exact same_log_publish b c snapshot now same
    | _ => cases publishes
  · intro b c call unseen same
    cases call with
    | publish snapshot now => cases unseen
    | subscribe j symbols venue => exact same_log_elsewhere b c j _ same (elsewhere_subscribe b j symbols venue)
    | unsubscribe j => exact same_log_elsewhere b c j _ same (elsewhere_unsubscribe b j)
    | read j => exact same_log_elsewhere b c j _ same (elsewhere_read b j)
    | recent symbol venue limit => exact same

end Isolation

-- Two runs with the same publishes and the same calls of one consumer show that
-- consumer the same, and every caller of recent as well.
structure Isolated (limits : Limits) (first second : List (Call β)) : Prop where
  consumer : ∀ k, first.filter (Call.concerns k) = second.filter (Call.concerns k) →
    ((broker β).performAll (.empty limits) first).read k =
        ((broker β).performAll (.empty limits) second).read k ∧
      ((broker β).performAll (.empty limits) first).queue k =
        ((broker β).performAll (.empty limits) second).queue k
  recent : first.filter Call.isPublish = second.filter Call.isPublish → ∀ symbol venue limit,
    ((broker β).performAll (.empty limits) first).store.recent symbol venue limit =
      ((broker β).performAll (.empty limits) second).store.recent symbol venue limit

theorem runs_isolated (limits : Limits) (first second : List (Call β)) : Isolated limits first second where
  consumer k agree := by
    have same : SameView k (Broker.empty limits : Broker β) (.empty limits) :=
      ⟨⟨rfl, rfl, rfl⟩, rfl, rfl, rfl, rfl, rfl⟩
    have one := view_filter _ _ k first same
    have two := view_filter _ _ k second same
    rw [agree] at one
    exact ⟨one.read.symm.trans two.read,
      (same_view_queue _ _ k one).symm.trans (same_view_queue _ _ k two)⟩
  recent agree symbol venue limit := by
    have same : SameLog (Broker.empty limits : Broker β) (.empty limits) := ⟨rfl, rfl, rfl⟩
    have one := log_filter _ _ first same
    have two := log_filter _ _ second same
    rw [agree] at one
    simp only [Store.recent, one.history.symm.trans two.history]

theorem bounded_fan_out (limits : Limits) :
    (∀ b : Broker β, Broker.Reachable limits b → FanOut limits b) ∧
      ∀ first second : List (Call β), Isolated limits first second :=
  ⟨reachable_fan_out limits, runs_isolated limits⟩

def smallLimits : Limits := ⟨2, 1, by decide, by decide⟩

-- A fast consumer and a slow one, whose queue of one entry overflows once.
def fanoutCalls : List (Call Nat) :=
  [.subscribe 0 ["AAPL"] .nasdaq, .subscribe 1 ["AAPL", "MSFT"] .nasdaq, .publish ⟨"AAPL", .nasdaq, 1⟩ 0,
    .read 0, .publish ⟨"AAPL", .nasdaq, 2⟩ 1, .read 0]

def fanoutState : Broker Nat := (broker Nat).performAll (.empty smallLimits) fanoutCalls

theorem bounded_fan_out_sample :
    fanoutState.subscriberDropCount = 1 ∧ (fanoutState.read 0).map Published.number = [0, 1] ∧
      FanOut smallLimits fanoutState := by
  refine ⟨by decide +kernel, by decide +kernel, (bounded_fan_out smallLimits).1 fanoutState ?_⟩
  apply (broker Nat).reaches_perform_all Set.univ _ fanoutCalls (fun _ _ => trivial)
  exact ⟨rfl, rfl, trivial, by nofun, trivial, by nofun, trivial⟩

end SchwabGateway.OrderBook
