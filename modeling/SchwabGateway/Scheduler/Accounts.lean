import Mathlib.Data.List.Nodup
import Mathlib.Data.List.Pairwise
import SchwabGateway.Library.Tables
import SchwabGateway.Scheduler.View

set_option autoImplicit false

namespace SchwabGateway.Scheduler

variable {α ε : Type}

-- The abstract scheduler: capacity counters, two queues and one slot. It keeps
-- of a job only its class, its state and whether its lifecycle task is alive.
structure Accounts where
  limits : PriorityClass → Nat
  allocated : PriorityClass → Int
  queues : PriorityClass → List Nat
  workerActive : Bool
  idle : Bool
  next : Nat
  state : Nat → JobState
  priority : Nat → PriorityClass
  alive : Nat → Bool
  dispatches : List Nat
  dispatchedAt : Nat → Option ℚ
  accepting : Bool
  shutdowns : Nat → ShutdownCall
  clock : ℚ

def accounts (s : State α ε) : Accounts where
  limits := s.limits
  allocated := s.allocated
  queues := s.queues
  workerActive := s.workerActive
  idle := s.idle
  next := s.next
  state := fun id => (s.jobs id).state
  priority := fun id => (s.jobs id).priority
  alive := fun id => (s.lifecycles id).alive
  dispatches := s.dispatches
  dispatchedAt := fun id => (s.ledger id).dispatchedAt
  accepting := s.accepting
  shutdowns := s.shutdowns
  clock := s.clock

namespace Accounts

def drained (a : Accounts) : Bool :=
  a.allocated .protected = 0 ∧ a.allocated .background = 0

def settleIdle (a : Accounts) : Accounts :=
  { a with
    idle := a.drained || a.idle
    shutdowns := fun k => if a.drained then (a.shutdowns k).notify else a.shutdowns k }

def release (a : Accounts) (id : Nat) : Accounts :=
  settleIdle
    { a with
      queues := Function.update a.queues (a.priority id) ((a.queues (a.priority id)).erase id)
      state := Function.update a.state id .finished
      allocated := Function.update a.allocated (a.priority id) (a.allocated (a.priority id) - 1) }

def start (a : Accounts) (p : PriorityClass) (id : Nat) (now : ℚ) : Accounts :=
  { a with
    queues := Function.update a.queues p (a.queues p).tail
    state := Function.update a.state id .running
    alive := Function.update a.alive id true
    workerActive := true
    dispatches := id :: a.dispatches
    dispatchedAt := Function.update a.dispatchedAt id (some now) }

def enqueue (a : Accounts) (p : PriorityClass) (id : Nat) : Accounts :=
  { a with
    allocated := Function.update a.allocated p (a.allocated p + 1)
    queues := Function.update a.queues p (a.queues p ++ [id])
    state := Function.update a.state id .queued
    priority := Function.update a.priority id p
    idle := false }

def vacate (a : Accounts) (id : Nat) : Accounts :=
  { a with
    state := Function.update a.state id .finished
    alive := Function.update a.alive id false
    allocated := Function.update a.allocated (a.priority id) (a.allocated (a.priority id) - 1)
    workerActive := false }

def setShutdown (a : Accounts) (k : Nat) (call : ShutdownCall) : Accounts :=
  { a with shutdowns := Function.update a.shutdowns k call }

def occupancy (a : Accounts) (slot : Option Nat) (p : PriorityClass) : Int :=
  match slot with
  | some id => if a.priority id = p then 1 else 0
  | none => 0

-- One part of a lock section. A run of parts is what a step of the event loop
-- does to the accounts.
inductive Step : Accounts → Accounts → Prop where
  | enqueue (a : Accounts) (p : PriorityClass) (accepting : a.accepting = true)
      (room : a.allocated p < a.limits p) : Step a ({ a with next := a.next + 1 }.enqueue p a.next)
  | refuse (a : Accounts) : Step a { a with next := a.next + 1 }
  | release (a : Accounts) (id : Nat) (queued : a.state id = .queued) : Step a (a.release id)
  | start (a : Accounts) (p : PriorityClass) (id : Nat) (rest : List Nat) (now : ℚ)
      (free : a.workerActive = false) (queue : a.queues p = id :: rest) : Step a (a.start p id now)
  | vacate (a : Accounts) (id : Nat) (running : a.state id = .running) : Step a (a.vacate id)
  | settleIdle (a : Accounts) : Step a a.settleIdle
  | close (a : Accounts) : Step a { a with accepting := false }
  | await (a : Accounts) (k : Nat) (closed : a.accepting = false) : Step a (a.setShutdown k .waiterCreated)
  | check (a : Accounts) (k : Nat) (created : a.shutdowns k = .waiterCreated) :
      Step a (a.setShutdown k (if a.idle then .waiterDone else .waiterParked))
  | wake (a : Accounts) (k : Nat) (notified : a.shutdowns k = .waiterNotified) :
      Step a (a.setShutdown k .waiterDone)
  | leave (a : Accounts) (k : Nat) (done : a.shutdowns k = .waiterDone) : Step a (a.setShutdown k .returned)

def Steps : Accounts → Accounts → Prop := Relation.ReflTransGen Step

end Accounts

-- What every lock section keeps, also between its parts. slot is the job that
-- holds the execution slot; dispatches lists the dispatched jobs, newest first.
structure Balanced (a : Accounts) (slot : Option Nat) : Prop where
  members : ∀ p id, id ∈ a.queues p ↔ a.state id = .queued ∧ a.priority id = p
  ordered : ∀ p, (a.queues p).Pairwise (· < ·)
  fresh : ∀ id, a.next ≤ id → a.state id = .finished
  running : ∀ id, a.state id = .running ↔ slot = some id
  alive : ∀ id, a.alive id = true ↔ a.state id = .running
  allocation : ∀ p, a.allocated p = (a.queues p).length + a.occupancy slot p
  active : a.workerActive = slot.isSome
  bounded : ∀ p, a.allocated p ≤ a.limits p
  idleSound : a.idle = true → ∀ p, a.allocated p = 0
  known : ∀ id ∈ a.dispatches, id < a.next
  recorded : ∀ id, id ∈ a.dispatches ↔ a.dispatchedAt id ≠ none
  waiting : ∀ p, ∀ id ∈ a.queues p, ∀ served ∈ a.dispatches, a.priority served = p → served < id
  served : a.dispatches.Pairwise (fun later earlier => a.priority later = a.priority earlier → earlier < later)
  closing : ∀ k, a.shutdowns k ≠ .absent → a.accepting = false
  released : ∀ k, (a.shutdowns k).released = true → a.idle = true

-- What holds between two lock sections: an idle slot leaves nobody waiting and
-- the idle event is never missing.
structure Settled (a : Accounts) : Prop where
  waits : a.workerActive = false → ∀ p, a.queues p = []
  idleComplete : (∀ p, a.allocated p = 0) → a.idle = true

theorem drained_iff (a : Accounts) : a.drained = true ↔ ∀ p, a.allocated p = 0 := by
  constructor
  · intro empty p
    have both : a.allocated .protected = 0 ∧ a.allocated .background = 0 := by
      simpa [Accounts.drained] using empty
    cases p with
    | «protected» => exact both.1
    | background => exact both.2
  · intro empty
    simp [Accounts.drained, empty]

theorem balanced_settle_idle (a : Accounts) (slot : Option Nat) (balanced : Balanced a slot) :
    Balanced a.settleIdle slot := by
  refine { balanced with idleSound := ?_, closing := ?_, released := ?_ }
  · intro idle
    have either : a.drained = true ∨ a.idle = true := by simpa [Accounts.settleIdle] using idle
    cases either with
    | inl empty => exact (drained_iff a).mp empty
    | inr already => exact balanced.idleSound already
  · intro k
    cases empty : a.drained with
    | false => simpa [Accounts.settleIdle, empty] using balanced.closing k
    | true =>
        have same : (a.shutdowns k).notify = .absent ↔ a.shutdowns k = .absent := by
          cases a.shutdowns k <;> simp [ShutdownCall.notify]
        simpa [Accounts.settleIdle, empty, same] using balanced.closing k
  · intro k
    cases empty : a.drained with
    | false => simpa [Accounts.settleIdle, empty] using balanced.released k
    | true => simp [Accounts.settleIdle, empty]

theorem settle_idle_complete (a : Accounts) (empty : ∀ p, a.settleIdle.allocated p = 0) :
    a.settleIdle.idle = true := by
  have drained := (drained_iff a).mpr empty
  simp [Accounts.settleIdle, drained]

theorem occupancy_nonneg (a : Accounts) (slot : Option Nat) (p : PriorityClass) :
    0 ≤ a.occupancy slot p := by
  cases slot with
  | none => exact Int.le_refl 0
  | some id => by_cases same : a.priority id = p <;> simp [Accounts.occupancy, same]

theorem queued_not_slot (a : Accounts) (slot : Option Nat) (balanced : Balanced a slot) (id : Nat)
    (queued : a.state id = .queued) : slot ≠ some id := by
  intro held
  have running := (balanced.running id).mpr held
  simp [queued] at running

theorem queued_known (a : Accounts) (slot : Option Nat) (balanced : Balanced a slot) (id : Nat)
    (queued : a.state id = .queued) : id < a.next := by
  by_contra late
  simp [balanced.fresh id (Nat.le_of_not_lt late)] at queued

theorem balanced_release (a : Accounts) (slot : Option Nat) (balanced : Balanced a slot) (id : Nat)
    (queued : a.state id = .queued) : Balanced (a.release id) slot := by
  have member : id ∈ a.queues (a.priority id) := (balanced.members _ id).mpr ⟨queued, rfl⟩
  have distinct : (a.queues (a.priority id)).Nodup := (balanced.ordered _).imp (fun less => less.ne)
  have notSlot := queued_not_slot a slot balanced id queued
  have positive : 0 < (a.queues (a.priority id)).length := List.length_pos_of_mem member
  refine balanced_settle_idle _ slot
    { members := ?_, ordered := ?_, fresh := ?_, running := ?_, alive := ?_, allocation := ?_,
      active := balanced.active, bounded := ?_, idleSound := ?_, known := balanced.known, recorded := balanced.recorded, waiting := ?_,
      served := balanced.served, closing := balanced.closing, released := balanced.released }
  · intro p other
    by_cases same : p = a.priority id
    · subst same
      by_cases hit : other = id
      · subst hit
        simp [distinct.mem_erase_iff]
      · simp [distinct.mem_erase_iff, hit, balanced.members]
    · by_cases hit : other = id
      · subst hit
        simp [same, balanced.members, Ne.symm same]
      · simp [same, hit, balanced.members]
  · intro p
    by_cases same : p = a.priority id
    · subst same
      simpa using (balanced.ordered _).sublist List.erase_sublist
    · simpa [same] using balanced.ordered p
  · intro other late
    by_cases hit : other = id
    · simp [hit]
    · simpa [hit] using balanced.fresh other late
  · intro other
    by_cases hit : other = id
    · subst hit
      simp [notSlot]
    · simpa [hit] using balanced.running other
  · intro other
    by_cases hit : other = id
    · subst hit
      have dead := balanced.alive other
      simp [queued] at dead
      simp [dead]
    · simpa [hit] using balanced.alive other
  · intro p
    have exactly := balanced.allocation p
    by_cases same : p = a.priority id
    · subst same
      have shorter := List.length_erase_of_mem member
      simp only [Function.update_self, shorter, Accounts.occupancy] at exactly ⊢
      omega
    · simpa [same, Accounts.occupancy] using exactly
  · intro p
    have below := balanced.bounded p
    by_cases same : p = a.priority id
    · subst same
      simp only [Function.update_self]
      omega
    · simpa [same] using below
  · intro idle p
    have none := balanced.idleSound idle (a.priority id)
    have exactly := balanced.allocation (a.priority id)
    have some := occupancy_nonneg a slot (a.priority id)
    omega
  · intro p other queued
    by_cases same : p = a.priority id
    · subst same
      simp only [Function.update_self] at queued
      exact balanced.waiting _ other (List.mem_of_mem_erase queued)
    · simp only [Function.update_of_ne same] at queued
      exact balanced.waiting p other queued

theorem balanced_start (a : Accounts) (balanced : Balanced a none) (p : PriorityClass) (id : Nat)
    (rest : List Nat) (now : ℚ) (queue : a.queues p = id :: rest) : Balanced (a.start p id now) (some id) := by
  have member : id ∈ a.queues p := by simp [queue]
  obtain ⟨queued, class_eq⟩ := (balanced.members p id).mp member
  have ascending := balanced.ordered p
  rw [queue, List.pairwise_cons] at ascending
  have absent : id ∉ rest := fun again => Nat.lt_irrefl id (ascending.1 id again)
  refine
    { members := ?_, ordered := ?_, fresh := ?_, running := ?_, alive := ?_, allocation := ?_,
      active := rfl, bounded := balanced.bounded, idleSound := balanced.idleSound, known := ?_,
      recorded := ?_, waiting := ?_, served := ?_, closing := balanced.closing, released := balanced.released }
  · intro q other
    have before := balanced.members q other
    by_cases hit : other = id
    · subst hit
      by_cases same : q = p
      · subst same
        simp [Accounts.start, queue, absent]
      · simp [Accounts.start, same, before, class_eq, Ne.symm same]
    · by_cases same : q = p
      · subst same
        rw [queue] at before
        simpa [Accounts.start, queue, hit] using before
      · simpa [Accounts.start, same, hit] using before
  · intro q
    by_cases same : q = p
    · subst same
      simpa [Accounts.start, queue] using ascending.2
    · simpa [Accounts.start, same] using balanced.ordered q
  · intro other late
    have finished := balanced.fresh other late
    have different : other ≠ id := by
      intro same
      subst same
      simp [queued] at finished
    simpa [Accounts.start, different] using finished
  · intro other
    have nobody := balanced.running other
    by_cases hit : other = id
    · simp [Accounts.start, hit]
    · simpa [Accounts.start, hit, Ne.symm hit] using nobody
  · intro other
    by_cases hit : other = id
    · simp [Accounts.start, hit]
    · simpa [Accounts.start, hit] using balanced.alive other
  · intro q
    have exactly := balanced.allocation q
    by_cases same : q = p
    · subst same
      simp only [queue, Accounts.occupancy, List.length_cons] at exactly
      simp [Accounts.start, queue, Accounts.occupancy, class_eq]
      omega
    · have other : a.priority id ≠ q := fun eq => same (eq.symm.trans class_eq)
      simpa [Accounts.start, Accounts.occupancy, same, other] using exactly
  · intro other dispatched
    cases List.mem_cons.mp dispatched with
    | inl same =>
        subst same
        exact queued_known a none balanced other queued
    | inr earlier => exact balanced.known other earlier
  · intro other
    by_cases hit : other = id
    · simp [Accounts.start, hit]
    · simpa [Accounts.start, hit] using balanced.recorded other
  · intro q other still served dispatched priority
    have later : other ∈ a.queues q := by
      by_cases same : q = p
      · subst same
        have inRest : other ∈ rest := by simpa [Accounts.start, queue] using still
        simp [queue, inRest]
      · simpa [Accounts.start, same] using still
    cases List.mem_cons.mp dispatched with
    | inl same =>
        subst same
        have own : q = p := priority.symm.trans class_eq
        subst own
        have inRest : other ∈ rest := by simpa [Accounts.start, queue] using still
        exact ascending.1 other inRest
    | inr earlier => exact balanced.waiting q other later served earlier priority
  · refine List.pairwise_cons.mpr ⟨?_, balanced.served⟩
    intro earlier dispatched same
    exact balanced.waiting p id member earlier dispatched (same.symm.trans class_eq)

theorem balanced_enqueue (a : Accounts) (slot : Option Nat) (balanced : Balanced a slot)
    (p : PriorityClass) (accepting : a.accepting = true) (room : a.allocated p < a.limits p) :
    Balanced ({ a with next := a.next + 1 }.enqueue p a.next) slot := by
  have finished := balanced.fresh a.next (Nat.le_refl _)
  have notSlot : slot ≠ some a.next := by
    intro held
    have running := (balanced.running a.next).mpr held
    simp [finished] at running
  have absent : ∀ q, a.next ∉ a.queues q := by
    intro q member
    have queued := ((balanced.members q a.next).mp member).1
    simp [finished] at queued
  refine
    { members := ?_, ordered := ?_, fresh := ?_, running := ?_, alive := ?_, allocation := ?_,
      active := balanced.active, bounded := ?_, idleSound := ?_, known := ?_,
      recorded := balanced.recorded, waiting := ?_, served := ?_, closing := balanced.closing, released := ?_ }
  · intro q other
    have before := balanced.members q other
    by_cases hit : other = a.next
    · subst hit
      by_cases same : q = p
      · subst same
        simp [Accounts.enqueue]
      · simp [Accounts.enqueue, same, absent q, Ne.symm same]
    · by_cases same : q = p
      · subst same
        simpa [Accounts.enqueue, hit] using before
      · simpa [Accounts.enqueue, same, hit] using before
  · intro q
    by_cases same : q = p
    · subst same
      have below : ∀ other ∈ a.queues q, other < a.next := by
        intro other member
        exact queued_known a slot balanced other ((balanced.members q other).mp member).1
      simpa [Accounts.enqueue, List.pairwise_append] using And.intro (balanced.ordered q) below
    · simpa [Accounts.enqueue, same] using balanced.ordered q
  · intro other late
    have later : a.next + 1 ≤ other := late
    have different : other ≠ a.next := by omega
    simpa [Accounts.enqueue, different] using balanced.fresh other (by omega)
  · intro other
    by_cases hit : other = a.next
    · simp [Accounts.enqueue, hit, notSlot]
    · simpa [Accounts.enqueue, hit] using balanced.running other
  · intro other
    by_cases hit : other = a.next
    · subst hit
      have dead := balanced.alive a.next
      simp [finished] at dead
      simp [Accounts.enqueue, dead]
    · simpa [Accounts.enqueue, hit] using balanced.alive other
  · intro q
    have exactly := balanced.allocation q
    have occupied : ({ a with next := a.next + 1 }.enqueue p a.next).occupancy slot q = a.occupancy slot q := by
      cases slot with
      | none => rfl
      | some id =>
          have different : id ≠ a.next := fun same => notSlot (congrArg some same)
          simp [Accounts.occupancy, Accounts.enqueue, different]
    rw [occupied]
    by_cases same : q = p
    · subst same
      simp [Accounts.enqueue]
      omega
    · simpa [Accounts.enqueue, same] using exactly
  · intro q
    have below := balanced.bounded q
    by_cases same : q = p
    · subst same
      simp [Accounts.enqueue]
      omega
    · simpa [Accounts.enqueue, same] using below
  · intro idle
    simp [Accounts.enqueue] at idle
  · exact fun id dispatched => Nat.lt_succ_of_lt (balanced.known id dispatched)
  · intro q id queued served dispatched priority
    have older := balanced.known served dispatched
    have different : served ≠ a.next := by omega
    have own : a.priority served = q := by simpa [Accounts.enqueue, different] using priority
    by_cases hit : id = a.next
    · omega
    · have before : id ∈ a.queues q := by
        by_cases same : q = p
        · subst same
          simpa [Accounts.enqueue, hit] using queued
        · simpa [Accounts.enqueue, same] using queued
      exact balanced.waiting q id before served dispatched own
  · refine balanced.served.imp_of_mem ?_
    intro later earlier lateMember earlyMember ordered
    have first : later ≠ a.next := Nat.ne_of_lt (balanced.known later lateMember)
    have second : earlier ≠ a.next := Nat.ne_of_lt (balanced.known earlier earlyMember)
    simpa [Accounts.enqueue, first, second] using ordered
  · intro k gone
    have absent : a.shutdowns k = .absent := by
      by_contra called
      simp [balanced.closing k called] at accepting
    have seen : (a.shutdowns k).released = true := gone
    simp [absent, ShutdownCall.released] at seen

theorem balanced_vacate (a : Accounts) (id : Nat) (balanced : Balanced a (some id)) :
    Balanced (a.vacate id) none := by
  have running := (balanced.running id).mpr rfl
  refine
    { members := ?_, ordered := balanced.ordered, fresh := ?_, running := ?_, alive := ?_,
      allocation := ?_, active := rfl, bounded := ?_, idleSound := ?_, known := balanced.known, recorded := balanced.recorded,
      waiting := balanced.waiting, served := balanced.served, closing := balanced.closing,
      released := balanced.released }
  · intro p other
    by_cases hit : other = id
    · subst hit
      simp [Accounts.vacate, balanced.members, running]
    · simpa [Accounts.vacate, hit] using balanced.members p other
  · intro other late
    by_cases hit : other = id
    · simp [Accounts.vacate, hit]
    · simpa [Accounts.vacate, hit] using balanced.fresh other late
  · intro other
    by_cases hit : other = id
    · simp [Accounts.vacate, hit]
    · have only := balanced.running other
      simpa [Accounts.vacate, hit, Ne.symm hit] using only
  · intro other
    by_cases hit : other = id
    · simp [Accounts.vacate, hit]
    · simpa [Accounts.vacate, hit] using balanced.alive other
  · intro p
    have exactly := balanced.allocation p
    by_cases same : p = a.priority id
    · subst same
      simp [Accounts.occupancy] at exactly
      simp [Accounts.vacate, Accounts.occupancy]
      omega
    · simpa [Accounts.vacate, Accounts.occupancy, same, Ne.symm same] using exactly
  · intro p
    have below := balanced.bounded p
    by_cases same : p = a.priority id
    · subst same
      simp [Accounts.vacate]
      omega
    · simpa [Accounts.vacate, same] using below
  · intro idle p
    have none := balanced.idleSound idle (a.priority id)
    have exactly := balanced.allocation (a.priority id)
    simp [Accounts.occupancy] at exactly
    omega

theorem slot_of_running (a : Accounts) (slot : Option Nat) (balanced : Balanced a slot) (id : Nat)
    (running : a.state id = .running) : Balanced a (some id) := by
  have held := (balanced.running id).mp running
  rwa [held] at balanced

theorem balanced_refuse (a : Accounts) (slot : Option Nat) (balanced : Balanced a slot) :
    Balanced { a with next := a.next + 1 } slot :=
  { balanced with
    fresh := fun id late => balanced.fresh id (Nat.le_of_succ_le late)
    known := fun id dispatched => Nat.lt_succ_of_lt (balanced.known id dispatched) }

theorem balanced_set_shutdown (a : Accounts) (slot : Option Nat) (balanced : Balanced a slot) (k : Nat)
    (call : ShutdownCall) (closed : a.accepting = false) (idle : call.released = true → a.idle = true) :
    Balanced (a.setShutdown k call) slot := by
  refine { balanced with closing := fun _ _ => closed, released := ?_ }
  intro other gone
  by_cases same : other = k
  · subst same
    exact idle (by simpa [Accounts.setShutdown] using gone)
  · exact balanced.released other (by simpa [Accounts.setShutdown, same] using gone)

theorem balanced_step (a b : Accounts) (step : Accounts.Step a b) (before : ∃ slot, Balanced a slot) :
    ∃ slot, Balanced b slot := by
  obtain ⟨slot, balanced⟩ := before
  cases step with
  | enqueue p accepting room => exact ⟨slot, balanced_enqueue a slot balanced p accepting room⟩
  | refuse => exact ⟨slot, balanced_refuse a slot balanced⟩
  | release id queued => exact ⟨slot, balanced_release a slot balanced id queued⟩
  | start p id rest now free queue =>
      have nobody : slot = none := by
        rw [balanced.active] at free
        simpa using free
      subst nobody
      exact ⟨some id, balanced_start a balanced p id rest now queue⟩
  | vacate id running => exact ⟨none, balanced_vacate a id (slot_of_running a slot balanced id running)⟩
  | settleIdle => exact ⟨slot, balanced_settle_idle a slot balanced⟩
  | close => exact ⟨slot, { balanced with closing := fun _ _ => rfl }⟩
  | await k closed =>
      exact ⟨slot, balanced_set_shutdown a slot balanced k .waiterCreated closed (by simp [ShutdownCall.released])⟩
  | check k created =>
      have closed := balanced.closing k (by simp [created])
      refine ⟨slot, balanced_set_shutdown a slot balanced k _ closed ?_⟩
      cases a.idle <;> simp [ShutdownCall.released]
  | wake k notified =>
      have closed := balanced.closing k (by simp [notified])
      have idle := balanced.released k (by rw [notified]; rfl)
      exact ⟨slot, balanced_set_shutdown a slot balanced k .waiterDone closed (fun _ => idle)⟩
  | leave k done =>
      have closed := balanced.closing k (by simp [done])
      have idle := balanced.released k (by rw [done]; rfl)
      exact ⟨slot, balanced_set_shutdown a slot balanced k .returned closed (fun _ => idle)⟩

theorem steps_frame (a b : Accounts) (steps : Accounts.Steps a b) :
    b.limits = a.limits ∧ b.clock = a.clock ∧ a.next ≤ b.next := by
  induction steps with
  | refl => exact ⟨rfl, rfl, Nat.le_refl _⟩
  | tail _ step ih =>
      cases step with
      | enqueue p accepting room => exact ⟨ih.1, ih.2.1, Nat.le_succ_of_le ih.2.2⟩
      | refuse => exact ⟨ih.1, ih.2.1, Nat.le_succ_of_le ih.2.2⟩
      | release id queued => exact ih
      | start p id rest now free queue => exact ih
      | vacate id running => exact ih
      | settleIdle => exact ih
      | close => exact ih
      | await k closed => exact ih
      | check k created => exact ih
      | wake k notified => exact ih
      | leave k done => exact ih

theorem balanced_steps (a b : Accounts) (steps : Accounts.Steps a b) (before : ∃ slot, Balanced a slot) :
    ∃ slot, Balanced b slot := by
  induction steps with
  | refl => exact before
  | tail _ step ih => exact balanced_step _ _ step ih

end SchwabGateway.Scheduler
