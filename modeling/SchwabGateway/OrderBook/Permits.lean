import SchwabGateway.OrderBook.Sockets

set_option autoImplicit false

namespace SchwabGateway.OrderBook

open SchwabGateway.Library

variable {β : Type}

def Phase.holds : Phase → Bool
  | .preparing => true
  | .streaming => true
  | .closing _ => true
  | .releasing _ => true
  | _ => false

def Phase.permit (phase : Phase) (priority : PriorityClass) : Option PriorityClass :=
  if phase.holds then some priority else none

def Stage.inBlock : Stage β → Bool
  | .replaying _ => true
  | .waiting => true
  | .taken _ => true
  | .sending => true
  | _ => false

def Phase.matches (phase : Phase) (connection : Connection β) (subscribed : Bool) : Prop :=
  match phase with
  | .absent => connection.stage.isAbsent = true ∧ subscribed = false
  | .preparing => connection.stage.isAdmitting = true ∧ connection.symbols ≠ [] ∧ subscribed = false
  | .streaming => connection.stage.inBlock = true ∧ subscribed = true
  | _ => subscribed = false

namespace Sockets

def holding (s : Sockets β) (k : Nat) : Option PriorityClass := (s.phases k).permit (s.classes k)

def holders (s : Sockets β) (priority : PriorityClass) : Nat := countHolders s.holding s.next priority

def subscribed (s : Sockets β) (k : Nat) : Bool := (s.book.store.subscriptions k).isSome

end Sockets

-- The lock is free between the steps, so no stream ever waits for it, and the
-- counts are those of the streams that hold a permit.
structure Permitted (s : Sockets β) : Prop where
  unlocked : s.controller.locked = false
  unhindered : ∀ k, (s.phases k).atLock = false
  counted : ∀ priority, s.controller.active priority = s.holders priority
  bounded : ∀ priority, s.controller.active priority ≤ s.policy.limits priority
  unborn : ∀ k, s.next ≤ k → s.phases k = .absent
  matched : ∀ k, (s.phases k).matches (s.book.connections k) (s.subscribed k)

theorem permitted_opened (policy : AdmissionPolicy) (limits : Limits) (clock : ℚ) :
    Permitted (Sockets.opened policy limits clock : Sockets β) where
  unlocked := rfl
  unhindered _ := rfl
  counted _ := rfl
  bounded _ := Int.natCast_nonneg _
  unborn _ _ := rfl
  matched _ := ⟨rfl, rfl⟩

def Apart (k : Nat) (before after : State β) : Prop :=
  ∀ j, j ≠ k → after.connections j = before.connections j ∧
    after.store.subscriptions j = before.store.subscriptions j

theorem apart_trans (k : Nat) (first second third : State β) (early : Apart k first second)
    (late : Apart k second third) : Apart k first third := by
  intro j other
  obtain ⟨connection, subscription⟩ := early j other
  obtain ⟨connectionLater, subscriptionLater⟩ := late j other
  exact ⟨connectionLater.trans connection, subscriptionLater.trans subscription⟩

theorem apart_of_local (k : Nat) (now : ℚ) (before after : State β)
    (same : Local k { before with clock := now } after) : Apart k before after := same.others

section Step

variable (s t : Sockets β) (k : Nat) (phase : Phase)

structure Moves : Prop where
  policy : t.policy = s.policy
  next : t.next = s.next
  classes : t.classes = s.classes
  phases : t.phases = Function.update s.phases k phase
  apart : Apart k s.book t.book
  unlocked : t.controller.locked = false
  balance : ∀ priority,
    t.controller.active priority + permitOf (s.holding k) priority =
      s.controller.active priority + permitOf (phase.permit (s.classes k)) priority
  bounded : ∀ priority, t.controller.active priority ≤ s.policy.limits priority
  unhindered : phase.atLock = false
  matched : phase.matches (t.book.connections k) (t.subscribed k)

theorem moves_holding (moves : Moves s t k phase) :
    t.holding = Function.update s.holding k (phase.permit (s.classes k)) := by
  funext j
  by_cases here : j = k
  · subst here
    rw [Sockets.holding, moves.phases, moves.classes, Function.update_self, Function.update_self]
  · rw [Sockets.holding, moves.phases, moves.classes, Function.update_of_ne here, Function.update_of_ne here,
      Sockets.holding]

theorem permitted_moves (permitted : Permitted s) (inside : k < s.next) (moves : Moves s t k phase) :
    Permitted t where
  unlocked := moves.unlocked
  unhindered := by
    intro j
    rw [moves.phases]
    by_cases here : j = k
    · rw [here, Function.update_self]
      exact moves.unhindered
    · rw [Function.update_of_ne here]
      exact permitted.unhindered j
  counted := by
    intro priority
    have updated := count_holders_update s.holding s.next k (phase.permit (s.classes k)) priority inside
    have balance := moves.balance priority
    rw [permitted.counted priority, Sockets.holders] at balance
    rw [Sockets.holders, moves.next, moves_holding s t k phase moves]
    omega
  bounded := by rw [moves.policy]; exact moves.bounded
  unborn := by
    intro j outside
    rw [moves.next] at outside
    rw [moves.phases, Function.update_of_ne (by omega)]
    exact permitted.unborn j outside
  matched := by
    intro j
    rw [moves.phases]
    by_cases here : j = k
    · subst here
      rw [Function.update_self]
      exact moves.matched
    · obtain ⟨connection, subscription⟩ := moves.apart j here
      rw [Function.update_of_ne here, connection, Sockets.subscribed, subscription]
      exact permitted.matched j

end Step

namespace AdmissionController

theorem acquire_free (controller : AdmissionController) (unlocked : controller.locked = false) :
    controller.acquire = some { controller with locked := true } := by
  rw [acquire, unlocked]
  rfl

theorem release_same (controller : AdmissionController) (unlocked : controller.locked = false) :
    release { controller with locked := true } = controller := by
  cases controller with
  | mk active locked =>
      cases unlocked
      rfl

theorem add_active (controller : AdmissionController) (own priority : PriorityClass) (change : Int) :
    (controller.add own change).active priority =
      controller.active priority + change * (permitOf (some own) priority : Nat) := by
  rw [add, permitOf]
  dsimp only
  by_cases same : priority = own
  · rw [same, Function.update_self, if_pos rfl]
    omega
  · have other : some own ≠ some priority := fun equal => same (Option.some.inj equal).symm
    rw [Function.update_of_ne same, if_neg other]
    omega

end AdmissionController

namespace Sockets

variable (s : Sockets β) (k : Nat) (now : ℚ)

theorem enter_free (unlocked : s.controller.locked = false) :
    s.enter k now =
      if s.full (s.classes k) then (s.act (.leave k now)).setPhase k .shed
      else { s with controller := s.controller.add (s.classes k) 1 }.setPhase k .preparing := by
  have held := AdmissionController.acquire_free s.controller unlocked
  have left := AdmissionController.release_same s.controller unlocked
  have taken := AdmissionController.release_same (s.controller.add (s.classes k) 1) unlocked
  rw [enter, held]
  dsimp only
  rw [left]
  by_cases full : s.full (s.classes k)
  · rw [if_pos full]
    exact if_pos full
  · rw [if_neg full, ← taken]
    exact if_neg full

theorem depart_free (ending : Ending) (unlocked : s.controller.locked = false) :
    s.depart k ending =
      { s with controller := s.controller.add (s.classes k) (-1) }.setPhase k (.over ending) := by
  rw [depart, AdmissionController.acquire_free s.controller unlocked]
  dsimp only
  rw [← AdmissionController.release_same (s.controller.add (s.classes k) (-1)) unlocked]
  rfl

end Sockets

section Block

variable (s : State β) (k : Nat)

theorem set_connection_self (connection : Connection β) :
    (s.setConnection k connection).connections k = connection := Function.update_self ..

theorem continue_in_block (pending : List String) :
    ((s.continueReplay k pending).connections k).stage.inBlock = true ∧
      (s.continueReplay k pending).store = s.store := by
  rw [State.continueReplay]
  split
  · exact ⟨by rw [set_connection_self]; rfl, rfl⟩
  · exact ⟨by rw [set_connection_self]; rfl, rfl⟩

theorem admitted_in_block (some_ : (s.connections k).symbols ≠ []) :
    ((s.admitted k).connections k).stage.inBlock = true ∧
      ((s.admitted k).store.subscriptions k).isSome = true := by
  rw [State.admitted]
  rw [Store.subscribe, if_neg some_]
  dsimp only
  generalize made : ({ s.store with subscriptions := _ } : Store β) = store
  obtain ⟨block, same⟩ := continue_in_block { s with store := store } k (s.connections k).symbols
  refine ⟨block, ?_⟩
  rw [same, ← made]
  dsimp only
  rw [Function.update_self]
  rfl

theorem sent_in_block (block : (s.connections k).stage.inBlock = true) :
    ((s.sendReturned k).connections k).stage.inBlock = true ∧ (s.sendReturned k).store = s.store := by
  rw [State.sendReturned]
  split
  · exact continue_in_block s k _
  · exact ⟨by rw [set_connection_self]; rfl, rfl⟩
  · exact ⟨block, rfl⟩

theorem take_in_block (block : (s.connections k).stage.inBlock = true) :
    ((s.take k).connections k).stage.inBlock = true ∧
      ((s.take k).store.subscriptions k).isSome = (s.store.subscriptions k).isSome := by
  rw [State.take]
  split
  · exact ⟨block, rfl⟩
  · refine ⟨by rw [set_connection_self]; rfl, ?_⟩
    dsimp only [State.setConnection, State.setQueue]
    rw [Function.update_self, Option.isSome_map]

theorem deliver_in_block (block : (s.connections k).stage.inBlock = true) :
    ((s.deliver k).connections k).stage.inBlock = true ∧ (s.deliver k).store = s.store := by
  rw [State.deliver]
  split
  · exact ⟨by rw [set_connection_self]; rfl, rfl⟩
  · exact ⟨block, rfl⟩

theorem leave_unsubscribed : ((s.leave k).store.subscriptions k).isSome = false := by
  dsimp only [State.leave, Store.unsubscribe, State.setConnection]
  rw [Function.update_self]
  rfl

end Block

section Moving

variable (s : Sockets β) (k : Nat) (now : ℚ) (permitted : Permitted s)

include permitted

theorem moves_depart (ending : Ending) (book : State β) (apart : Apart k s.book book)
    (gone : (book.store.subscriptions k).isSome = false) (holds : (s.phases k).holds = true) :
    Moves s ({ s with book := book }.depart k ending) k (.over ending) := by
  have held : s.holding k = some (s.classes k) := by rw [Sockets.holding, Phase.permit, if_pos holds]
  rw [Sockets.depart_free { s with book := book } k ending permitted.unlocked]
  refine ⟨rfl, rfl, rfl, rfl, apart, permitted.unlocked, ?_, ?_, rfl, gone⟩
  · intro priority
    have less := s.controller.add_active (s.classes k) priority (-1)
    have nothing : permitOf ((Phase.over ending).permit (s.classes k)) priority = 0 := rfl
    rw [held, nothing]
    dsimp only [Sockets.setPhase]
    omega
  · intro priority
    have less := s.controller.add_active (s.classes k) priority (-1)
    have bounded := permitted.bounded priority
    dsimp only [Sockets.setPhase]
    omega

theorem moves_abandon (ending : Ending) (preparing : s.phases k = .preparing) :
    Moves s (s.abandon k ending now) k (.over ending) := by
  apply moves_depart s k permitted ending ((streams β).perform s.book (.leave k now))
  · exact apart_of_local k now s.book _ (local_leave _ k)
  · exact leave_unsubscribed _ k
  · rw [preparing]
    rfl

theorem moves_closed (ending : Ending) (closing : (s.phases k).isClosing = true) :
    Moves s (s.depart k ending) k (.over ending) := by
  have matched := permitted.matched k
  apply moves_depart s k permitted ending s.book (fun _ _ => ⟨rfl, rfl⟩)
  · cases phase : s.phases k with
    | closing ending =>
        rw [phase] at matched
        exact matched
    | _ =>
        rw [phase] at closing
        cases closing
  · cases phase : s.phases k with
    | closing ending => rfl
    | _ =>
        rw [phase] at closing
        cases closing

theorem moves_within (book : State β) (phase : Phase) (apart : Apart k s.book book)
    (same : phase.holds = (s.phases k).holds) (unhindered : phase.atLock = false)
    (matched : phase.matches (book.connections k) (book.store.subscriptions k).isSome) :
    Moves s ({ s with book := book }.setPhase k phase) k phase where
  policy := rfl
  next := rfl
  classes := rfl
  phases := rfl
  apart := apart
  unlocked := permitted.unlocked
  balance := by
    intro priority
    rw [Sockets.holding, Phase.permit, Phase.permit, same]
    rfl
  bounded := permitted.bounded
  unhindered := unhindered
  matched := matched

theorem moves_prepared (preparing : s.phases k = .preparing) :
    Moves s ((s.act (.admitted k now)).setPhase k .streaming) k .streaming := by
  have matched := permitted.matched k
  rw [preparing] at matched
  apply moves_within s k permitted ((streams β).perform s.book (.admitted k now)) .streaming
  · exact apart_of_local k now s.book _ (local_admitted _ k)
  · rw [preparing]
    rfl
  · rfl
  · exact admitted_in_block { s.book with clock := now } k matched.2.1

theorem moves_leave (ending : Ending) (streaming : s.phases k = .streaming) :
    Moves s (s.leave k ending now) k (.closing ending) := by
  apply moves_within s k permitted ((streams β).perform s.book (.leave k now)) (.closing ending)
  · exact apart_of_local k now s.book _ (local_leave _ k)
  · rw [streaming]
    rfl
  · rfl
  · exact leave_unsubscribed _ k

theorem moves_block (streaming : s.phases k = .streaming) (book : State β) (apart : Apart k s.book book)
    (kept : (s.book.connections k).stage.inBlock = true → (book.connections k).stage.inBlock = true ∧
      (book.store.subscriptions k).isSome = s.subscribed k) :
    Moves s { s with book := book } k .streaming := by
  have matched := permitted.matched k
  rw [streaming] at matched
  obtain ⟨block, standing⟩ := kept matched.1
  have same : ({ s with book := book } : Sockets β) = { s with book := book }.setPhase k .streaming := by
    rw [Sockets.setPhase, ← streaming, Function.update_eq_self]
  rw [same]
  apply moves_within s k permitted book .streaming apart
  · rw [streaming]
  · rfl
  · exact ⟨block, standing.trans matched.2⟩

theorem moves_sent (streaming : s.phases k = .streaming) : Moves s (s.act (.sent k now)) k .streaming := by
  apply moves_block s k permitted streaming ((streams β).perform s.book (.sent k now))
  · exact apart_of_local k now s.book _ (local_sent _ k)
  · intro inside
    obtain ⟨block, same⟩ := sent_in_block { s.book with clock := now } k inside
    exact ⟨block, congrArg (fun store => (store.subscriptions k).isSome) same⟩

theorem moves_take (streaming : s.phases k = .streaming) : Moves s (s.act (.take k now)) k .streaming := by
  apply moves_block s k permitted streaming ((streams β).perform s.book (.take k now))
  · exact apart_of_local k now s.book _ (local_take _ k)
  · exact take_in_block { s.book with clock := now } k

theorem moves_deliver (streaming : s.phases k = .streaming) : Moves s (s.act (.deliver k now)) k .streaming := by
  apply moves_block s k permitted streaming ((streams β).perform s.book (.deliver k now))
  · exact apart_of_local k now s.book _ (local_deliver _ k)
  · intro inside
    obtain ⟨block, same⟩ := deliver_in_block { s.book with clock := now } k inside
    exact ⟨block, congrArg (fun store => (store.subscriptions k).isSome) same⟩

end Moving

end SchwabGateway.OrderBook
