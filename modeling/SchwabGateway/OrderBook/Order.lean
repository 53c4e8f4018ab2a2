import SchwabGateway.OrderBook.Stream

set_option autoImplicit false

namespace SchwabGateway.OrderBook

open SchwabGateway.Library

variable {β : Type}

def ofSymbol (symbol : String) (entries : List (Published β)) : List (Published β) :=
  entries.filter (fun entry => entry.snapshot.symbol = symbol)

@[simp] theorem of_symbol_append (symbol : String) (first second : List (Published β)) :
    ofSymbol symbol (first ++ second) = ofSymbol symbol first ++ ofSymbol symbol second :=
  List.filter_append ..

theorem of_symbol_sublist (symbol : String) (first second : List (Published β))
    (sublist : first.Sublist second) : (ofSymbol symbol first).Sublist (ofSymbol symbol second) :=
  sublist.filter _

theorem of_symbol_own (entry : Published β) : ofSymbol entry.snapshot.symbol [entry] = [entry] := by
  simp [ofSymbol]

theorem of_symbol_other (symbol : String) (entry : Published β)
    (different : entry.snapshot.symbol ≠ symbol) : ofSymbol symbol [entry] = [] := by
  simp [ofSymbol, different]

def Stage.hand : Stage β → List (Published β)
  | .taken entry => [entry]
  | _ => []

-- Everything that has been sent to a client or will be, in this order.
def State.pipeline (s : State β) (k : Nat) : List (Published β) :=
  (s.connections k).sent ++ ((s.connections k).stage.hand ++ s.queue k)

def InOrder (store : Store β) (venue : Venue) (entries : List (Published β)) : Prop :=
  ∀ symbol, (ofSymbol symbol entries).Sublist (store.publishedOf (symbol, venue))

def Untouched (pending : List String) (entries : List (Published β)) : Prop :=
  pending.Nodup ∧ ∀ symbol, symbol ∈ pending → ofSymbol symbol entries = []

structure Lined (s : State β) (k : Nat) : Prop where
  order : InOrder s.store (s.connections k).venue (s.pipeline k)
  pending : ∀ pending, (s.connections k).stage = .replaying pending → Untouched pending (s.pipeline k)
  admitting : (s.connections k).stage.isAdmitting = true → (s.connections k).symbols.Nodup
  early : (s.connections k).stage.isAbsent = true ∨ (s.connections k).stage.isAdmitting = true →
    (s.connections k).sent = [] ∧ s.store.subscriptions k = none
  venue : ∀ subscription, s.store.subscriptions k = some subscription →
    subscription.venue = (s.connections k).venue

-- No snapshot of a symbol is published while the symbol still waits for its
-- turn in the replay.
def Undisturbed (k : Nat) (s : State β) : Event β → Prop
  | .publish snapshot _ => ∀ pending, (s.connections k).stage = .replaying pending →
      (s.connections k).venue = snapshot.venue → snapshot.symbol ∉ pending
  | _ => True

theorem in_order_sublist (store : Store β) (venue : Venue) (first second : List (Published β))
    (sublist : first.Sublist second) (order : InOrder store venue second) : InOrder store venue first :=
  fun symbol => (of_symbol_sublist symbol first second sublist).trans (order symbol)

theorem in_order_published (store other : Store β) (venue : Venue) (entries : List (Published β))
    (published : other.published = store.published) (order : InOrder store venue entries) :
    InOrder other venue entries := by
  intro symbol
  rw [Store.publishedOf, published]
  exact order symbol

theorem lined_initial (limits : Limits) (clock : ℚ) (k : Nat) : Lined (initial limits clock : State β) k where
  order := fun _ => List.nil_sublist _
  pending := nofun
  admitting := nofun
  early := fun _ => ⟨rfl, rfl⟩
  venue := nofun

theorem lined_frame (s t : State β) (k : Nat) (lined : Lined s k)
    (connection : t.connections k = s.connections k)
    (subscription : t.store.subscriptions k = s.store.subscriptions k)
    (published : t.store.published = s.store.published) : Lined t k := by
  have pipeline : t.pipeline k = s.pipeline k := by
    simp only [State.pipeline, State.queue, connection, subscription]
  refine ⟨?_, ?_, ?_, ?_, ?_⟩
  · rw [pipeline, connection]
    exact in_order_published s.store t.store _ _ published lined.order
  · rw [pipeline, connection]
    exact lined.pending
  · rw [connection]
    exact lined.admitting
  · rw [connection, subscription]
    exact lined.early
  · rw [connection, subscription]
    exact lined.venue

theorem replay_next_spec (store : Store β) (venue : Venue) (pending : List String) (entry : Published β)
    (rest : List String) (next : replayNext store venue pending = some (entry, rest)) :
    ∃ passed symbol, pending = passed ++ symbol :: rest ∧
      (store.history (symbol, venue)).getLast? = some entry := by
  induction pending with
  | nil => cases next
  | cons symbol others ih =>
      rw [replayNext, recent_one] at next
      cases last : (store.history (symbol, venue)).getLast? with
      | none =>
          rw [last] at next
          obtain ⟨passed, turn, split, stored⟩ := ih next
          exact ⟨symbol :: passed, turn, by rw [split, List.cons_append], stored⟩
      | some stored =>
          rw [last] at next
          cases next
          exact ⟨[], symbol, rfl, last⟩

theorem stored_last (s : Store β) (clock : ℚ) (logged : Logged s clock) (key : Key) (entry : Published β)
    (last : (s.history key).getLast? = some entry) :
    entry.snapshot.key = key ∧ ∃ before, s.publishedOf key = before ++ [entry] := by
  obtain ⟨before, split⟩ := suffix_last _ _ (logged.history key) entry last
  have member : entry ∈ s.publishedOf key := by simp [split]
  exact ⟨of_decide_eq_true (List.mem_filter.mp member).2, before, split⟩

theorem replay_in_order (store : Store β) (clock : ℚ) (logged : Logged store clock) (venue : Venue)
    (sent queue : List (Published β)) (pending rest : List String) (entry : Published β)
    (order : InOrder store venue (sent ++ queue)) (untouched : Untouched pending (sent ++ queue))
    (next : replayNext store venue pending = some (entry, rest)) :
    InOrder store venue ((sent ++ [entry]) ++ queue) ∧ Untouched rest ((sent ++ [entry]) ++ queue) := by
  obtain ⟨passed, turn, split, stored⟩ := replay_next_spec store venue pending entry rest next
  obtain ⟨key, before, log⟩ := stored_last store clock logged (turn, venue) entry stored
  have symbol : entry.snapshot.symbol = turn := congrArg Prod.fst key
  have distinct := untouched.1
  rw [split] at distinct
  have apart := (List.nodup_append.mp distinct).2.1
  have fresh : ∀ other, other ∈ rest → turn ≠ other := by
    intro other member same
    rw [same] at apart
    exact (List.nodup_cons.mp apart).1 member
  refine ⟨?_, (List.nodup_cons.mp apart).2, ?_⟩
  · intro other
    simp only [of_symbol_append]
    by_cases same : turn = other
    · subst same
      have empty := untouched.2 turn (by rw [split]; simp)
      simp only [of_symbol_append, List.append_eq_nil_iff] at empty
      rw [empty.1, empty.2, ← symbol, of_symbol_own, symbol, log]
      exact List.sublist_append_right before [entry]
    · rw [of_symbol_other other entry (by rw [symbol]; exact same), List.append_nil]
      have old := order other
      rwa [of_symbol_append] at old
  · intro other member
    have empty := untouched.2 other (by rw [split]; simp [member])
    simp only [of_symbol_append, List.append_eq_nil_iff] at empty ⊢
    exact ⟨⟨empty.1, of_symbol_other other entry (by rw [symbol]; exact fresh other member)⟩, empty.2⟩

theorem lined_settle (s : State β) (k : Nat) (stage : Stage β) (sent : List (Published β))
    (order : InOrder s.store (s.connections k).venue (sent ++ (stage.hand ++ s.queue k)))
    (plain : ∀ pending, stage ≠ .replaying pending)
    (later : stage.isAdmitting = false ∧ stage.isAbsent = false)
    (venue : ∀ subscription, s.store.subscriptions k = some subscription →
      subscription.venue = (s.connections k).venue) :
    Lined (s.setConnection k { s.connections k with stage := stage, sent := sent }) k := by
  refine ⟨?_, ?_, ?_, ?_, ?_⟩
  · simpa [State.setConnection, State.pipeline, State.queue] using order
  · intro pending same
    simp only [State.setConnection, Function.update_self] at same
    exact absurd same (plain pending)
  · simp [State.setConnection, later.1]
  · simp [State.setConnection, later.1, later.2]
  · simpa [State.setConnection] using venue

theorem lined_continue (s : State β) (clock : ℚ) (k : Nat) (pending : List String)
    (logged : Logged s.store clock)
    (order : InOrder s.store (s.connections k).venue ((s.connections k).sent ++ s.queue k))
    (untouched : Untouched pending ((s.connections k).sent ++ s.queue k))
    (venue : ∀ subscription, s.store.subscriptions k = some subscription →
      subscription.venue = (s.connections k).venue) : Lined (s.continueReplay k pending) k := by
  unfold State.continueReplay
  dsimp only
  split
  · rename_i entry rest next
    have replayed := replay_in_order s.store clock logged _ _ _ pending rest entry order untouched next
    refine ⟨?_, ?_, ?_, ?_, ?_⟩
    · simpa [State.setConnection, State.pipeline, Stage.hand, State.queue] using replayed.1
    · intro others stage
      simp only [State.setConnection, Function.update_self, Stage.replaying.injEq] at stage
      subst stage
      simpa [State.setConnection, State.pipeline, Stage.hand, State.queue] using replayed.2
    · simp [State.setConnection, Stage.isAdmitting]
    · simp [State.setConnection, Stage.isAdmitting, Stage.isAbsent]
    · simpa [State.setConnection] using venue
  · exact lined_settle s k .waiting _ order nofun ⟨rfl, rfl⟩ venue

theorem publish_queue (s : State β) (snapshot : Snapshot β) (now : ℚ) (k : Nat)
    (venue : ∀ subscription, s.store.subscriptions k = some subscription →
      subscription.venue = (s.connections k).venue) :
    (State.queue { s with store := s.store.publish snapshot now } k).Sublist
      (s.queue k ++ (if (s.connections k).venue = snapshot.venue then
        [⟨s.store.published.length, now, snapshot⟩] else [])) := by
  simp only [State.queue, Store.publish]
  cases known : s.store.subscriptions k with
  | none => exact List.nil_sublist _
  | some subscription =>
      simp only [Option.map_some, Subscription.offer]
      by_cases wants : subscription.wants snapshot
      · rw [if_pos wants, if_pos ((venue subscription known).symm.trans wants.1)]
        exact (push_bounded_suffix _ _ _).sublist
      · rw [if_neg wants]
        exact List.sublist_append_left _ _

theorem lined_publish (s : State β) (snapshot : Snapshot β) (now : ℚ) (k : Nat) (lined : Lined s k)
    (undisturbed : Undisturbed k s (.publish snapshot now)) :
    Lined { s with store := s.store.publish snapshot now } k := by
  have queued := publish_queue s snapshot now k lined.venue
  have pipeline : (State.pipeline { s with store := s.store.publish snapshot now } k).Sublist
      (s.pipeline k ++ (if (s.connections k).venue = snapshot.venue then
        [⟨s.store.published.length, now, snapshot⟩] else [])) := by
    simp only [State.pipeline, List.append_assoc]
    exact (List.Sublist.refl _).append ((List.Sublist.refl _).append queued)
  refine ⟨?_, ?_, lined.admitting, ?_, ?_⟩
  · intro symbol
    rw [published_of_publish]
    have grown := of_symbol_sublist symbol _ _ pipeline
    rw [of_symbol_append] at grown
    apply grown.trans
    apply (lined.order symbol).append
    by_cases same : (s.connections k).venue = snapshot.venue
    · rw [if_pos same]
      by_cases own : snapshot.symbol = symbol
      · have key : snapshot.key = (symbol, (s.connections k).venue) := by
          rw [Snapshot.key, own, same]
        rw [if_pos key]
        exact List.filter_sublist
      · rw [of_symbol_other symbol _ own]
        exact List.nil_sublist _
    · rw [if_neg same]
      exact List.nil_sublist _
  · intro pending stage
    obtain ⟨distinct, untouched⟩ := lined.pending pending stage
    refine ⟨distinct, ?_⟩
    intro symbol member
    have grown := of_symbol_sublist symbol _ _ pipeline
    rw [of_symbol_append, untouched symbol member, List.nil_append] at grown
    by_cases same : (s.connections k).venue = snapshot.venue
    · have other : snapshot.symbol ≠ symbol := by
        intro own
        rw [← own] at member
        exact undisturbed pending stage same member
      rw [if_pos same, of_symbol_other symbol _ other] at grown
      exact List.sublist_nil.mp grown
    · rw [if_neg same] at grown
      exact List.sublist_nil.mp grown
  · intro before
    obtain ⟨sent, subscription⟩ := lined.early before
    refine ⟨sent, ?_⟩
    simp [Store.publish, subscription]
  · intro subscription known
    simp only [Store.publish] at known
    obtain ⟨old, was, offered⟩ := Option.map_eq_some_iff.mp known
    have same : subscription.venue = old.venue := by
      rw [← offered, Subscription.offer]
      split <;> rfl
    exact same.trans (lined.venue old was)

theorem lined_open (s : State β) (k : Nat) (symbols : List String) (venue : Venue) (distinct : symbols.Nodup)
    (lined : Lined s k) (absent : (s.connections k).stage.isAbsent = true) :
    Lined (s.openStream k symbols venue) k := by
  obtain ⟨_, none⟩ := lined.early (.inl absent)
  have opened : ∀ stage : Stage β, stage.hand = [] → (∀ pending, stage ≠ .replaying pending) →
      Lined (s.setConnection k ⟨symbols, venue, stage, []⟩) k := by
    intro stage hand idle
    refine ⟨?_, ?_, ?_, ?_, ?_⟩
    · intro symbol
      simp [State.setConnection, State.pipeline, State.queue, hand, none, ofSymbol]
    · intro pending same
      simp only [State.setConnection, Function.update_self] at same
      exact absurd same (idle pending)
    · intro _
      simpa [State.setConnection] using distinct
    · intro _
      exact ⟨by simp [State.setConnection], none⟩
    · intro subscription known
      cases none.symm.trans known
  unfold State.openStream
  split
  · exact opened .admitting rfl nofun
  · exact opened .refused rfl nofun

theorem lined_admitted (s : State β) (clock : ℚ) (k : Nat) (logged : Logged s.store clock)
    (lined : Lined s k) (admitting : (s.connections k).stage.isAdmitting = true) :
    Lined (s.admitted k) k := by
  obtain ⟨sent, none⟩ := lined.early (.inr admitting)
  have distinct := lined.admitting admitting
  unfold State.admitted
  dsimp only
  cases subscribed : s.store.subscribe k (s.connections k).symbols (s.connections k).venue with
  | error message =>
      have order := lined.order
      have hand : (s.connections k).stage.hand = [] := by
        cases stage : (s.connections k).stage <;> simp_all [Stage.isAdmitting, Stage.hand]
      simp only [State.pipeline, hand] at order
      exact lined_settle s k .closed _ order nofun ⟨rfl, rfl⟩ lined.venue
  | ok store =>
      simp only [Store.subscribe] at subscribed
      split at subscribed
      · cases subscribed
      · cases subscribed
        have empty : ∀ symbol, ofSymbol symbol ([] : List (Published β)) = [] := fun _ => rfl
        apply lined_continue _ clock
        · exact logged_frame s.store _ clock logged rfl rfl rfl
        · intro symbol
          simp [State.queue, sent, empty]
        · refine ⟨distinct, ?_⟩
          intro symbol _
          simp [State.queue, sent, empty]
        · intro subscription known
          simp only [Function.update_self, Option.some.injEq] at known
          rw [← known]

theorem lined_sent (s : State β) (clock : ℚ) (k : Nat) (logged : Logged s.store clock) (lined : Lined s k) :
    Lined (s.sendReturned k) k := by
  have order := lined.order
  unfold State.sendReturned
  split
  · rename_i pending stage
    have untouched := lined.pending pending stage
    simp only [State.pipeline, stage, Stage.hand, List.nil_append] at order untouched
    exact lined_continue s clock k pending logged order untouched lined.venue
  · rename_i stage
    simp only [State.pipeline, stage] at order
    exact lined_settle s k .waiting _ order nofun ⟨rfl, rfl⟩ lined.venue
  · exact lined

theorem lined_take (s : State β) (k : Nat) (lined : Lined s k)
    (waiting : (s.connections k).stage.isWaiting = true) : Lined (s.take k) k := by
  have hand : (s.connections k).stage.hand = [] := by
    cases stage : (s.connections k).stage <;> simp_all [Stage.isWaiting, Stage.hand]
  have order := lined.order
  unfold State.take
  cases known : s.store.subscriptions k with
  | none =>
      simp only [State.queue, known]
      exact lined
  | some subscription =>
      simp only [State.pipeline, State.queue, hand, known, List.nil_append] at order
      simp only [State.queue, known]
      cases queue : subscription.queue with
      | nil => exact lined
      | cons entry rest =>
          rw [queue] at order
          apply lined_settle (s.setQueue k rest) k (.taken entry)
          · apply in_order_published s.store (s.setQueue k rest).store _ _ rfl
            simpa [State.setQueue, State.queue, Stage.hand, known] using order
          · nofun
          · exact ⟨rfl, rfl⟩
          · intro other same
            simp only [State.setQueue, Function.update_self, known, Option.map_some,
              Option.some.injEq] at same
            rw [← same]
            exact lined.venue subscription known

theorem lined_deliver (s : State β) (k : Nat) (lined : Lined s k) : Lined (s.deliver k) k := by
  have order := lined.order
  unfold State.deliver
  dsimp only
  split
  · rename_i entry stage
    simp only [State.pipeline, stage, ← List.append_assoc] at order
    apply lined_settle s k .sending _ _ nofun ⟨rfl, rfl⟩ lined.venue
    simpa [Stage.hand] using order
  · exact lined

theorem lined_leave (s : State β) (k : Nat) (lined : Lined s k) : Lined (s.leave k) k := by
  have kept : ((s.connections k).sent).Sublist (s.pipeline k) := List.sublist_append_left _ _
  have order := in_order_sublist s.store _ _ _ kept lined.order
  apply lined_settle { s with store := s.store.unsubscribe k } k .closed
  · apply in_order_published s.store (s.store.unsubscribe k) _ _ rfl
    simpa [Store.unsubscribe, State.queue, Stage.hand] using order
  · nofun
  · exact ⟨rfl, rfl⟩
  · intro subscription known
    simp [Store.unsubscribe] at known

theorem lined_other (s t : State β) (j k : Nat) (lined : Lined s k) (different : k ≠ j) (same : Local j s t) :
    Lined t k :=
  lined_frame s t k lined (same.others k different).1 (same.others k different).2 same.published

theorem lined_step (s : State β) (event : Event β) (k : Nat) (logged : Logged s.store s.clock)
    (lined : Lined s k) (guarded : (streams β).enabled s event) (undisturbed : Undisturbed k s event) :
    Lined ((streams β).perform s event) k := by
  have later : ∀ now, Lined { s with clock := now } k := by
    intro now
    exact lined_frame s _ k lined rfl rfl rfl
  cases event with
  | publish snapshot now => exact lined_publish { s with clock := now } snapshot now k (later now) undisturbed
  | markFeedState venue state now => exact lined_frame s _ k lined rfl rfl rfl
  | openStream j symbols venue now =>
      by_cases own : k = j
      · subst own
        exact lined_open { s with clock := now } k _ venue symbols.unique (later now) guarded.2
      · exact lined_other { s with clock := now } _ j k (later now) own (local_open _ j _ venue)
  | admitted j now =>
      by_cases own : k = j
      · subst own
        exact lined_admitted { s with clock := now } s.clock k logged (later now) guarded.2
      · exact lined_other { s with clock := now } _ j k (later now) own (local_admitted _ j)
  | sent j now =>
      by_cases own : k = j
      · subst own
        exact lined_sent { s with clock := now } s.clock k logged (later now)
      · exact lined_other { s with clock := now } _ j k (later now) own (local_sent _ j)
  | take j now =>
      by_cases own : k = j
      · subst own
        exact lined_take { s with clock := now } k (later now) guarded.2.1
      · exact lined_other { s with clock := now } _ j k (later now) own (local_take _ j)
  | deliver j now =>
      by_cases own : k = j
      · subst own
        exact lined_deliver { s with clock := now } k (later now)
      · exact lined_other { s with clock := now } _ j k (later now) own (local_deliver _ j)
  | leave j now =>
      by_cases own : k = j
      · subst own
        exact lined_leave { s with clock := now } k (later now)
      · exact lined_other { s with clock := now } _ j k (later now) own (local_leave _ j)
  | tick now => exact later now

theorem in_order_once (store : Store β) (clock : ℚ) (logged : Logged store clock) (venue : Venue)
    (entries : List (Published β)) (order : InOrder store venue entries) (symbol : String) :
    (ofSymbol symbol entries).Pairwise (fun earlier later => earlier.number < later.number) := by
  have log : (store.publishedOf (symbol, venue)).Pairwise
      (fun earlier later => earlier.number < later.number) := logged.ordered.filter _
  exact log.sublist (order symbol)

-- What a client has been sent, in runs where no symbol is published while it
-- waits for its turn in the opening replay.
theorem stream_in_order (limits : Limits) (clock : ℚ) (k : Nat) (s : State β)
    (reached : ((streams β).restrict (Undisturbed k)).Reaches Set.univ (initial limits clock) s)
    (symbol : String) :
    (ofSymbol symbol (s.connections k).sent).Sublist
        (s.store.publishedOf (symbol, (s.connections k).venue)) ∧
      (ofSymbol symbol (s.connections k).sent).Pairwise
        (fun earlier later => earlier.number < later.number) := by
  have held := ((streams β).restrict (Undisturbed k)).reaches_invariant Set.univ
    (fun a : State β => Logged a.store a.clock ∧ Lined a k)
    (fun a event _ before guarded => ⟨logged_step a event before.1 guarded.1,
      lined_step a event k before.1 before.2 guarded.1 guarded.2⟩)
    _ s reached ⟨logged_empty limits clock, lined_initial limits clock k⟩
  have kept : ((s.connections k).sent).Sublist (s.pipeline k) := List.sublist_append_left _ _
  have order := in_order_sublist s.store _ _ _ kept held.2.order
  exact ⟨order symbol, in_order_once s.store s.clock held.1 _ _ order symbol⟩

def sampleSymbols : StreamSymbols := ⟨["AAPL", "MSFT"], by decide, by decide, by decide⟩

def aapl (depth : Nat) : Snapshot Nat := ⟨"AAPL", .nasdaq, depth⟩

def msft (depth : Nat) : Snapshot Nat := ⟨"MSFT", .nasdaq, depth⟩

-- The send of AAPL in the replay is slow, and MSFT is published meanwhile.
def overtakenEvents : List (Event Nat) :=
  [.publish (aapl 1) 0, .openStream 0 sampleSymbols .nasdaq 0, .admitted 0 0, .publish (msft 2) 1,
    .publish (msft 3) 2, .sent 0 3, .sent 0 3, .take 0 3, .deliver 0 3, .sent 0 3, .take 0 3, .deliver 0 3]

def overtakenState : State Nat := (streams Nat).performAll (initial sampleLimits 0) overtakenEvents

theorem replay_overtaken :
    (streams Nat).Reaches Set.univ (initial sampleLimits 0) overtakenState ∧
      (overtakenState.connections 0).sent.map (fun entry => entry.snapshot) =
        [aapl 1, msft 3, msft 2, msft 3] ∧
      (overtakenState.connections 0).sent.map Published.number = [0, 2, 1, 2] ∧
      ¬ (ofSymbol "MSFT" (overtakenState.connections 0).sent).Sublist
        (overtakenState.store.publishedOf ("MSFT", .nasdaq)) := by
  refine ⟨?_, by decide +kernel, by decide +kernel, by decide +kernel⟩
  exact System.reaches_perform_all _ Set.univ _ overtakenEvents (fun _ _ => trivial) (by decide +kernel)

def orderlyEvents : List (Event Nat) :=
  [.publish (aapl 1) 0, .openStream 0 sampleSymbols .nasdaq 0, .admitted 0 0, .publish (aapl 2) 1,
    .sent 0 3, .take 0 3, .deliver 0 3]

def orderlyState : State Nat := (streams Nat).performAll (initial sampleLimits 0) orderlyEvents

theorem orderly_reachable :
    ((streams Nat).restrict (Undisturbed 0)).Reaches Set.univ (initial sampleLimits 0) orderlyState := by
  apply System.reaches_perform_all ((streams Nat).restrict (Undisturbed 0)) Set.univ _ orderlyEvents
    (fun _ _ => trivial)
  refine ⟨⟨by decide +kernel, ?_⟩, ⟨by decide +kernel, trivial⟩, ⟨by decide +kernel, trivial⟩,
    ⟨by decide +kernel, ?_⟩, ⟨by decide +kernel, trivial⟩, ⟨by decide +kernel, trivial⟩,
    ⟨by decide +kernel, trivial⟩, trivial⟩
  · intro pending stage
    cases stage
  · intro pending stage _
    cases stage
    decide

theorem stream_in_order_sample :
    (orderlyState.connections 0).sent.map (fun entry => entry.snapshot) = [aapl 1, aapl 2] ∧
      (ofSymbol "AAPL" (orderlyState.connections 0).sent).Sublist
        (orderlyState.store.publishedOf ("AAPL", (orderlyState.connections 0).venue)) :=
  ⟨by decide +kernel, (stream_in_order sampleLimits 0 0 orderlyState orderly_reachable "AAPL").1⟩

end SchwabGateway.OrderBook
