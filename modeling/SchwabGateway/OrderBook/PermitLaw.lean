import SchwabGateway.OrderBook.Order
import SchwabGateway.OrderBook.Permits

set_option autoImplicit false

namespace SchwabGateway.OrderBook

open SchwabGateway.Library

variable {β : Type}

section Arrival

variable (s : Sockets β) (priority : PriorityClass)

theorem permitted_arrive (permitted : Permitted s) : Permitted (s.arrive priority) where
  unlocked := permitted.unlocked
  unhindered := permitted.unhindered
  counted := by
    intro class_
    have older : countHolders (s.arrive priority).holding s.next class_ = s.holders class_ := by
      apply count_holders_congr
      intro k earlier
      rw [Sockets.holding, Sockets.arrive]
      dsimp only
      rw [Function.update_of_ne (Nat.ne_of_lt earlier)]
      rfl
    have newest : (s.arrive priority).holding s.next = none := by
      rw [Sockets.holding, Sockets.arrive, permitted.unborn s.next (Nat.le_refl _)]
      rfl
    have grown := count_holders_succ (s.arrive priority).holding s.next class_
    have none_ : permitOf (none : Option PriorityClass) class_ = 0 := rfl
    rw [older, newest, none_, Nat.add_zero] at grown
    exact (permitted.counted class_).trans (congrArg Nat.cast grown.symm)
  bounded := permitted.bounded
  unborn := by
    intro k later
    exact permitted.unborn k (Nat.le_of_succ_le later)
  matched := permitted.matched

end Arrival

section Request

variable (s : Sockets β) (priority : PriorityClass) (symbols : StreamSymbols) (venue : Venue) (now : ℚ)

def Sockets.verdict : Phase :=
  if s.book.store.feedState venue = .connected then if s.full priority then .shed else .preparing else .refused

theorem open_feed_state (book : State β) (k : Nat) :
    ((streams β).perform book (.openStream k symbols venue now)).store = book.store := by
  have same : ∀ other : State β, (other.openStream k symbols.symbols venue).store = other.store := by
    intro other
    rw [State.openStream]
    split
    · rfl
    · rfl
  exact same { book with clock := now }

theorem open_admitting (book : State β) (k : Nat) (connected : book.store.feedState venue = .connected) :
    ((streams β).perform book (.openStream k symbols venue now)).connections k =
      ⟨symbols.symbols, venue, .admitting, []⟩ := by
  have opened : ({ book with clock := now } : State β).openStream k symbols.symbols venue =
      ({ book with clock := now } : State β).setConnection k ⟨symbols.symbols, venue, .admitting, []⟩ :=
    if_pos connected
  exact (congrArg (fun after => after.connections k) opened).trans (set_connection_self _ k _)

variable (permitted : Permitted s)

include permitted

theorem moves_request :
    Moves (s.arrive priority) (s.request priority symbols venue now) s.next (s.verdict priority venue) := by
  have arrived := permitted_arrive s priority permitted
  have unborn := permitted.unborn s.next (Nat.le_refl _)
  have absent : (s.arrive priority).phases s.next = .absent := unborn
  have own : (s.arrive priority).classes s.next = priority := Function.update_self ..
  have nothing : s.subscribed s.next = false := by
    have matched := permitted.matched s.next
    rw [unborn] at matched
    exact matched.2
  have store := open_feed_state symbols venue now s.book s.next
  have opened : Apart s.next s.book ((streams β).perform s.book (.openStream s.next symbols venue now)) :=
    apart_of_local s.next now s.book _ (local_open _ s.next _ venue)
  have class_ : ((s.arrive priority).act (.openStream s.next symbols venue now)).classes s.next = priority := own
  have state : ((s.arrive priority).act (.openStream s.next symbols venue now)).book.store.feedState venue =
      s.book.store.feedState venue := congrArg (fun store => store.feedState venue) store
  rw [Sockets.request, Sockets.verdict, state]
  by_cases connected : s.book.store.feedState venue = .connected
  · rw [if_pos connected, if_pos connected,
      ((s.arrive priority).act (.openStream s.next symbols venue now)).enter_free s.next now permitted.unlocked, class_]
    have pool : ((s.arrive priority).act (.openStream s.next symbols venue now)).full priority ↔ s.full priority :=
      Iff.rfl
    by_cases full : s.full priority
    · rw [if_pos (pool.mpr full), if_pos full]
      apply moves_within (s.arrive priority) s.next arrived _ .shed
      · exact apart_trans s.next _ _ _ opened (apart_of_local s.next now _ _ (local_leave _ s.next))
      · rw [absent]
        rfl
      · rfl
      · exact leave_unsubscribed _ s.next
    · rw [if_neg (fun past => full (pool.mp past)), if_neg full]
      have spare : s.controller.active priority < s.policy.limits priority := Int.not_le.mp full
      refine ⟨rfl, rfl, rfl, rfl, opened, permitted.unlocked, ?_, ?_, rfl, ?_⟩
      · intro class_
        have more := s.controller.add_active priority class_ 1
        have before : permitOf ((s.arrive priority).holding s.next) class_ = 0 := by
          rw [Sockets.holding, absent]
          rfl
        have after : permitOf (Phase.preparing.permit ((s.arrive priority).classes s.next)) class_ =
            permitOf (some priority) class_ := by rw [own]; rfl
        rw [before, after]
        dsimp only [Sockets.setPhase, Sockets.act, Sockets.arrive]
        omega
      · intro class_
        have more := s.controller.add_active priority class_ 1
        have bounded := permitted.bounded class_
        dsimp only [Sockets.setPhase, Sockets.act, Sockets.arrive]
        by_cases here : class_ = priority
        · subst here
          rw [more, permitOf, if_pos rfl]
          omega
        · have other : permitOf (some priority) class_ = 0 :=
            if_neg (fun equal => here (Option.some.inj equal).symm)
          rw [more, other]
          omega
      · have connection := open_admitting symbols venue now s.book s.next connected
        have subscription : ((streams β).perform s.book
            (.openStream s.next symbols venue now)).store.subscriptions s.next = s.book.store.subscriptions s.next :=
          congrArg (fun store => store.subscriptions s.next) store
        refine ⟨?_, ?_, ?_⟩
        · exact (congrArg (fun connection => connection.stage.isAdmitting) connection).trans rfl
        · exact (congrArg Connection.symbols connection) ▸ symbols.nonempty
        · exact (congrArg Option.isSome subscription).trans nothing
  · rw [if_neg connected, if_neg connected]
    apply moves_within (s.arrive priority) s.next arrived _ .refused opened
    · rw [absent]
      rfl
    · rfl
    · exact (congrArg (fun store => (store.subscriptions s.next).isSome) store).trans nothing

end Request

section Running

variable (s : Sockets β)

theorem permitted_book (book : State β) (permitted : Permitted s)
    (connections : book.connections = s.book.connections)
    (subscriptions : ∀ k, (book.store.subscriptions k).isSome = s.subscribed k) :
    Permitted { s with book := book } where
  unlocked := permitted.unlocked
  unhindered := permitted.unhindered
  counted := permitted.counted
  bounded := permitted.bounded
  unborn := permitted.unborn
  matched := by
    intro k
    have matched := permitted.matched k
    rw [← subscriptions k, ← connections] at matched
    exact matched

theorem permitted_publish (snapshot : Snapshot β) (now : ℚ) (permitted : Permitted s) :
    Permitted (s.act (.publish snapshot now)) := by
  apply permitted_book s ((streams β).perform s.book (.publish snapshot now)) permitted rfl
  intro k
  exact Option.isSome_map

theorem inside_of_phase (k : Nat) (permitted : Permitted s) (some_ : s.phases k ≠ .absent) : k < s.next := by
  by_contra outside
  exact some_ (permitted.unborn k (Nat.le_of_not_lt outside))

theorem permitted_cancel (k : Nat) (now : ℚ) (permitted : Permitted s) (suspended : (s.phases k).suspended = true) :
    Permitted (s.cancel k now) := by
  have free := permitted.unhindered k
  cases phase : s.phases k with
  | preparing =>
      rw [Sockets.cancel, phase]
      exact permitted_moves s _ k _ permitted (inside_of_phase s k permitted (by simp [phase]))
        (moves_abandon s k now permitted .cancelled phase)
  | streaming =>
      rw [Sockets.cancel, phase]
      exact permitted_moves s _ k _ permitted (inside_of_phase s k permitted (by simp [phase]))
        (moves_leave s k now permitted .cancelled phase)
  | closing ending =>
      rw [Sockets.cancel, phase]
      exact permitted_moves s _ k _ permitted (inside_of_phase s k permitted (by simp [phase]))
        (moves_closed s k permitted .cancelled (by rw [phase]; rfl))
  | acquiring =>
      rw [phase] at free
      cases free
  | releasing ending =>
      rw [phase] at free
      cases free
  | _ =>
      rw [phase] at suspended
      cases suspended

theorem permitted_perform (event : SocketEvent β) (permitted : Permitted s)
    (enabled : (sockets β).enabled s event) : Permitted ((sockets β).perform s event) := by
  have ticked : Permitted (s.act (.tick event.now)) :=
    permitted_book s ((streams β).perform s.book (.tick event.now)) permitted rfl (fun _ => rfl)
  have guarded := enabled.2
  cases event with
  | publish snapshot now => exact permitted_publish _ snapshot now ticked
  | markFeedState venue state now => exact permitted_book _ _ ticked rfl (fun _ => rfl)
  | tick now => exact permitted_book _ _ ticked rfl (fun _ => rfl)
  | request priority symbols venue now =>
      exact permitted_moves _ _ _ _ (permitted_arrive _ priority ticked) (Nat.lt_succ_self _)
        (moves_request _ priority symbols venue now ticked)
  | lockAcquired k now =>
      exact absurd guarded.1 (by rw [permitted.unhindered k]; exact Bool.false_ne_true)
  | prepared k now =>
      exact permitted_moves _ _ k _ ticked (inside_of_phase s k permitted (by rw [guarded]; simp))
        (moves_prepared _ k now ticked guarded)
  | prepareFailed k now =>
      exact permitted_moves _ _ k _ ticked (inside_of_phase s k permitted (by rw [guarded]; simp))
        (moves_abandon _ k now ticked .raised guarded)
  | sent k now =>
      exact permitted_moves _ _ k _ ticked (inside_of_phase s k permitted (by rw [guarded.1]; simp))
        (moves_sent _ k now ticked guarded.1)
  | take k now =>
      exact permitted_moves _ _ k _ ticked (inside_of_phase s k permitted (by rw [guarded.1]; simp))
        (moves_take _ k now ticked guarded.1)
  | deliver k now =>
      exact permitted_moves _ _ k _ ticked (inside_of_phase s k permitted (by rw [guarded.1]; simp))
        (moves_deliver _ k now ticked guarded.1)
  | leave k ending now =>
      exact permitted_moves _ _ k _ ticked (inside_of_phase s k permitted (by rw [guarded]; simp))
        (moves_leave _ k now ticked ending guarded)
  | closed k now =>
      exact permitted_moves _ _ k _ ticked
        (inside_of_phase s k permitted (fun absent => by rw [Sockets.guard, absent] at guarded; cases guarded))
        (moves_closed _ k ticked _ guarded)
  | closeFailed k now =>
      exact permitted_moves _ _ k _ ticked
        (inside_of_phase s k permitted (fun absent => by rw [Sockets.guard, absent] at guarded; cases guarded))
        (moves_closed _ k ticked .raised guarded)
  | cancel k now => exact permitted_cancel _ k now ticked guarded

end Running

def Event.isPublish : OrderBook.Event β → Bool
  | .publish _ _ => true
  | _ => false

section Refinement

variable (s : Sockets β) (permitted : Permitted s)

-- The publications that others see may be fewer than all.
variable (visible : Set (OrderBook.Event β))
  (quiet : ∀ event : OrderBook.Event β, event.isPublish = false → event ∈ visible)

include quiet

theorem act_reaches (event : OrderBook.Event β) (current : s.book.clock ≤ event.now) (allowed : guard s.book event)
    (unpublished : event.isPublish = false) : (streams β).Reaches visible s.book (s.act event).book :=
  .single ⟨event, quiet event unpublished, ⟨current, allowed⟩, rfl⟩

theorem leave_reaches (k : Nat) (now : ℚ) (current : s.book.clock ≤ now)
    (opened : (s.book.connections k).stage.opened = true) :
    (streams β).Reaches visible s.book (s.act (.leave k now)).book :=
  act_reaches s visible quiet (.leave k now) current opened rfl

omit quiet in
theorem opened_of_block (stage : Stage β) (block : stage.inBlock = true) : stage.opened = true := by
  cases stage with
  | replaying pending => rfl
  | waiting => rfl
  | taken entry => rfl
  | sending => rfl
  | _ => cases block

omit quiet in
theorem opened_of_admitting (stage : Stage β) (admitting : stage.isAdmitting = true) : stage.opened = true := by
  cases stage with
  | admitting => rfl
  | _ => cases admitting

omit quiet in
theorem depart_book (k : Nat) (ending : Ending) : (s.depart k ending).book = s.book := by
  rw [Sockets.depart]
  cases s.controller.acquire with
  | none => rfl
  | some held => rfl

include permitted

omit quiet in
theorem opened_of_holder (k : Nat)
    (inside : s.phases k = .preparing ∨ s.phases k = .streaming) : (s.book.connections k).stage.opened = true := by
  have matched := permitted.matched k
  cases inside with
  | inl preparing =>
      rw [preparing] at matched
      exact opened_of_admitting _ matched.1
  | inr streaming =>
      rw [streaming] at matched
      exact opened_of_block _ matched.1

theorem request_reaches (priority : PriorityClass) (symbols : StreamSymbols) (venue : Venue) (now : ℚ)
    (current : s.book.clock ≤ now) :
    (streams β).Reaches visible s.book (s.request priority symbols venue now).book := by
  have matched := permitted.matched s.next
  rw [permitted.unborn s.next (Nat.le_refl _)] at matched
  have opening : (streams β).Reaches visible s.book
      ((s.arrive priority).act (.openStream s.next symbols venue now)).book :=
    act_reaches (s.arrive priority) visible quiet (.openStream s.next symbols venue now) current matched.1 rfl
  have state := open_feed_state symbols venue now s.book s.next
  rw [Sockets.request]
  by_cases connected : ((s.arrive priority).act (.openStream s.next symbols venue now)).book.store.feedState venue =
      .connected
  · rw [if_pos connected,
      ((s.arrive priority).act (.openStream s.next symbols venue now)).enter_free s.next now permitted.unlocked]
    split
    · have before : s.book.store.feedState venue = .connected :=
        (congrArg (fun store => store.feedState venue) state).symm.trans connected
      have stage := congrArg Connection.stage (open_admitting symbols venue now s.book s.next before)
      apply opening.trans
      have current := (local_open { s.book with clock := now } s.next symbols.symbols venue).clock
      exact leave_reaches _ visible quiet s.next now (le_of_eq current)
        (opened_of_admitting _ (congrArg Stage.isAdmitting stage))
    · exact opening
  · rw [if_neg connected]
    exact opening

theorem cancel_reaches (k : Nat) (now : ℚ) (current : s.book.clock ≤ now) :
    (streams β).Reaches visible s.book (s.cancel k now).book := by
  have free := permitted.unhindered k
  cases phase : s.phases k with
  | acquiring =>
      rw [phase] at free
      cases free
  | preparing =>
      rw [Sockets.cancel, phase]
      dsimp only
      rw [Sockets.abandon, depart_book]
      exact leave_reaches s visible quiet k now current (opened_of_holder s permitted k (.inl phase))
  | streaming =>
      rw [Sockets.cancel, phase]
      exact leave_reaches s visible quiet k now current (opened_of_holder s permitted k (.inr phase))
  | closing ending =>
      rw [Sockets.cancel, phase]
      dsimp only
      rw [depart_book]
      exact .refl
  | _ =>
      rw [Sockets.cancel, phase]
      exact .refl

theorem sockets_step_reaches (event : SocketEvent β)
    (shown : ∀ snapshot now, event = .publish snapshot now → OrderBook.Event.publish snapshot now ∈ visible)
    (enabled : (sockets β).enabled s event) :
    (streams β).Reaches visible s.book ((sockets β).perform s event).book := by
  have ticking := act_reaches s visible quiet (.tick event.now) enabled.1 trivial rfl
  have ticked : Permitted (s.act (.tick event.now)) :=
    permitted_book s ((streams β).perform s.book (.tick event.now)) permitted rfl (fun _ => rfl)
  have guarded := enabled.2
  apply ticking.trans
  cases event with
  | publish snapshot now =>
      exact .single ⟨.publish snapshot now, shown snapshot now rfl, ⟨le_refl now, trivial⟩, rfl⟩
  | markFeedState venue state now =>
      exact act_reaches _ visible quiet (.markFeedState venue state now) (le_refl now) trivial rfl
  | tick now => exact act_reaches _ visible quiet (.tick now) (le_refl now) trivial rfl
  | request priority symbols venue now =>
      exact request_reaches _ ticked visible quiet priority symbols venue now (le_refl now)
  | lockAcquired k now => exact absurd guarded.1 (by rw [permitted.unhindered k]; exact Bool.false_ne_true)
  | prepared k now =>
      have matched := permitted.matched k
      rw [guarded] at matched
      exact act_reaches _ visible quiet (.admitted k now) (le_refl now) matched.1 rfl
  | prepareFailed k now =>
      have opened := opened_of_holder s permitted k (.inl guarded)
      change (streams β).Reaches visible _ (Sockets.abandon _ k .raised now).book
      rw [Sockets.abandon, depart_book]
      exact leave_reaches _ visible quiet k now (le_refl now) opened
  | sent k now => exact act_reaches _ visible quiet (.sent k now) (le_refl now) guarded.2.2 rfl
  | take k now => exact act_reaches _ visible quiet (.take k now) (le_refl now) guarded.2.2 rfl
  | deliver k now => exact act_reaches _ visible quiet (.deliver k now) (le_refl now) guarded.2.2 rfl
  | leave k ending now =>
      exact leave_reaches _ visible quiet k now (le_refl now) (opened_of_holder s permitted k (.inr guarded))
  | closed k now =>
      change (streams β).Reaches visible _ (Sockets.depart _ k _).book
      rw [depart_book]
      exact .refl
  | closeFailed k now =>
      change (streams β).Reaches visible _ (Sockets.depart _ k _).book
      rw [depart_book]
      exact .refl
  | cancel k now => exact cancel_reaches _ ticked visible quiet k now (le_refl now)

end Refinement

section Runs

variable (policy : AdmissionPolicy) (limits : Limits) (clock : ℚ) (s : Sockets β)
  (reached : Sockets.Reachable policy limits clock s)

theorem depart_policy (k : Nat) (ending : Ending) : (s.depart k ending).policy = s.policy := by
  rw [Sockets.depart]
  cases s.controller.acquire with
  | none => rfl
  | some held => rfl

theorem enter_policy (k : Nat) (now : ℚ) : (s.enter k now).policy = s.policy := by
  rw [Sockets.enter]
  cases s.controller.acquire with
  | none => rfl
  | some held =>
      dsimp only
      split
      · rfl
      · rfl

theorem perform_policy (event : SocketEvent β) : ((sockets β).perform s event).policy = s.policy := by
  change ((s.act (.tick event.now)).effect event).policy = (s.act (.tick event.now)).policy
  generalize s.act (.tick event.now) = ticked
  cases event with
  | request priority symbols venue now =>
      change (ticked.request priority symbols venue now).policy = _
      rw [Sockets.request]
      split
      · exact enter_policy _ _ _
      · rfl
  | lockAcquired k now =>
      rw [Sockets.effect]
      split
      · exact enter_policy ticked k now
      · exact depart_policy ticked k _
  | prepareFailed k now => exact depart_policy (ticked.act (.leave k now)) k .raised
  | closed k now => exact depart_policy ticked k _
  | closeFailed k now => exact depart_policy ticked k .raised
  | cancel k now =>
      change (ticked.cancel k now).policy = _
      rw [Sockets.cancel]
      split
      · rfl
      · exact depart_policy (ticked.act (.leave k now)) k .cancelled
      · rfl
      · exact depart_policy ticked k .cancelled
      · rfl
      · rfl
  | _ => rfl

theorem sockets_refine_within (allowed : Set (SocketEvent β)) (visible : Set (OrderBook.Event β))
    (quiet : ∀ event : OrderBook.Event β, event.isPublish = false → event ∈ visible)
    (shown : ∀ snapshot now, .publish snapshot now ∈ allowed → OrderBook.Event.publish snapshot now ∈ visible)
    (within : (sockets β).Reaches allowed (Sockets.opened policy limits clock) s) :
    (streams β).Reaches visible (initial limits clock) s.book := by
  apply (sockets β).reaches_project (streams β) allowed visible Sockets.book Permitted _ _ _ s within
    (permitted_opened policy limits clock)
  · intro before event _ held enabled
    exact permitted_perform before event held enabled
  · intro before event member held enabled
    exact sockets_step_reaches before held visible quiet event
      (fun snapshot now same => shown snapshot now (same ▸ member)) enabled

include reached

theorem reachable_permitted : Permitted s ∧ s.policy = policy := by
  apply (sockets β).reaches_invariant Set.univ (fun s => Permitted s ∧ s.policy = policy) _ _ _ reached
    ⟨permitted_opened policy limits clock, rfl⟩
  intro before event _ held enabled
  exact ⟨permitted_perform before event held.1 enabled, (perform_policy before event).trans held.2⟩

-- What is proved of the streams alone holds of the streams behind permits.
theorem sockets_refine : Reachable limits clock s.book :=
  sockets_refine_within policy limits clock s Set.univ Set.univ (fun _ _ => trivial) (fun _ _ _ => trivial) reached

end Runs

section Counting

variable (s : Sockets β) (permitted : Permitted s)

theorem streaming_held (k : Nat) (streaming : s.phases k = .streaming) : s.holding k = some (s.classes k) := by
  rw [Sockets.holding, streaming]
  rfl

theorem holders_none (past : ∀ k, (s.phases k).suspended = false) (priority : PriorityClass) :
    s.holders priority = 0 := by
  rw [Sockets.holders, countHolders, List.countP_eq_zero]
  intro k _ held
  rw [decide_eq_true_eq, Sockets.holding, Phase.permit] at held
  have done := past k
  cases phase : s.phases k with
  | preparing =>
      rw [phase] at done
      cases done
  | streaming =>
      rw [phase] at done
      cases done
  | closing ending =>
      rw [phase] at done
      cases done
  | releasing ending =>
      rw [phase] at done
      cases done
  | _ =>
      rw [phase] at held
      cases held

include permitted

theorem subscribed_iff (k : Nat) : s.subscribed k = true ↔ s.phases k = .streaming := by
  have matched := permitted.matched k
  cases phase : s.phases k with
  | absent =>
      rw [phase] at matched
      rw [matched.2]
      simp
  | preparing =>
      rw [phase] at matched
      rw [matched.2.2]
      simp
  | streaming =>
      rw [phase] at matched
      rw [matched.2]
      simp
  | _ =>
      rw [phase] at matched
      rw [show s.subscribed k = false from matched]
      simp

theorem subscriptions_le_holders :
    (List.range s.next).countP s.subscribed ≤ s.holders .protected + s.holders .background := by
  rw [Sockets.holders, Sockets.holders, countHolders, countHolders]
  induction List.range s.next with
  | nil => exact Nat.zero_le _
  | cons k rest ih =>
      rw [List.countP_cons, List.countP_cons, List.countP_cons]
      by_cases standing : s.subscribed k = true
      · have held := streaming_held s k ((subscribed_iff s permitted k).mp standing)
        rw [if_pos standing, held]
        cases s.classes k with
        | «protected» =>
            rw [if_pos (by simp), if_neg (by simp)]
            omega
        | background =>
            rw [if_neg (by simp), if_pos (by simp)]
            omega
      · rw [if_neg standing]
        omega

end Counting

-- Permits are never lost: those that are out are held by streams that are
-- still suspended, none of them at the lock of the controller.
theorem stream_permits_conserved (policy : AdmissionPolicy) (limits : Limits) (clock : ℚ) (s : Sockets β)
    (reached : Sockets.Reachable policy limits clock s) :
    (∀ priority, s.controller.active priority = s.holders priority ∧
      s.holders priority ≤ policy.limits priority) ∧
    (∀ k, (s.phases k).atLock = false) ∧
    (∀ k, s.subscribed k = true ↔ s.phases k = .streaming) ∧
    (List.range s.next).countP s.subscribed ≤ policy.protectedCapacity + policy.backgroundCapacity ∧
    (∀ priority symbols venue now,
      ((sockets β).perform s (.request priority symbols venue now)).phases s.next = .shed ↔
        s.book.store.feedState venue = .connected ∧ s.holders priority = policy.limits priority) ∧
    ((∀ k, (s.phases k).suspended = false) →
      (∀ priority, s.controller.active priority = 0) ∧ ∀ k, s.subscribed k = false) := by
  obtain ⟨permitted, same⟩ := reachable_permitted policy limits clock s reached
  have within : ∀ priority, s.holders priority ≤ policy.limits priority := by
    intro priority
    have bounded := permitted.bounded priority
    rw [permitted.counted priority, same] at bounded
    exact Int.ofNat_le.mp bounded
  refine ⟨fun priority => ⟨permitted.counted priority, within priority⟩, permitted.unhindered,
    subscribed_iff s permitted, ?_, ?_, ?_⟩
  · have some_ := subscriptions_le_holders s permitted
    have reserved := within .protected
    have other := within .background
    exact some_.trans (Nat.add_le_add reserved other)
  · intro priority symbols venue now
    have ticked : Permitted (s.act (.tick now)) :=
      permitted_book s ((streams β).perform s.book (.tick now)) permitted rfl (fun _ => rfl)
    have moves := moves_request (s.act (.tick now)) priority symbols venue now ticked
    have phase : ((sockets β).perform s (.request priority symbols venue now)).phases s.next =
        s.verdict priority venue :=
      (congrFun moves.phases s.next).trans (Function.update_self ..)
    have full : s.full priority ↔ s.holders priority = policy.limits priority := by
      rw [Sockets.full, permitted.counted priority, same, Int.ofNat_le]
      exact ⟨fun past => Nat.le_antisymm (within priority) past, fun equal => Nat.le_of_eq equal.symm⟩
    rw [phase, Sockets.verdict, ← full]
    by_cases connected : s.book.store.feedState venue = .connected
    · rw [if_pos connected]
      by_cases past : s.full priority
      · simp [past, connected]
      · simp [past]
    · rw [if_neg connected]
      simp [connected]
  · intro past
    refine ⟨fun priority => ?_, fun k => ?_⟩
    · rw [permitted.counted priority, holders_none s past priority]
      rfl
    · have done := past k
      have standing := subscribed_iff s permitted k
      cases sub : s.subscribed k with
      | false => rfl
      | true =>
          rw [standing.mp sub] at done
          cases done

theorem single_permit : 1 ≤ 1 ∧ 1 ≤ maxCapacityPerClass := by decide

def samplePolicy : AdmissionPolicy := ⟨1, 1, single_permit, single_permit⟩

-- The second stream is shed, and the first one is cancelled in its replay.
def crowdedEvents : List (SocketEvent Nat) :=
  [.publish (aapl 1) 0, .request .protected sampleSymbols .nasdaq 0, .prepared 0 0,
    .request .protected sampleSymbols .nasdaq 1, .cancel 0 2]

def crowdedSockets : Sockets Nat :=
  (sockets Nat).performAll (Sockets.opened samplePolicy sampleLimits 0) crowdedEvents

theorem stream_permits_crowded :
    crowdedSockets.phases 0 = .closing .cancelled ∧ crowdedSockets.phases 1 = .shed ∧
      crowdedSockets.controller.active .protected = crowdedSockets.holders .protected ∧
      crowdedSockets.holders .protected ≤ 1 := by
  have reached : Sockets.Reachable samplePolicy sampleLimits 0 crowdedSockets :=
    System.reaches_perform_all (sockets Nat) Set.univ _ crowdedEvents (fun _ _ => trivial) (by decide +kernel)
  have held := (stream_permits_conserved samplePolicy sampleLimits 0 crowdedSockets reached).1 .protected
  exact ⟨by decide +kernel, by decide +kernel, held.1, held.2⟩

end SchwabGateway.OrderBook
