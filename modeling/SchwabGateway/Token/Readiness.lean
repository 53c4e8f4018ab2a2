import SchwabGateway.Token.Serializable
import SchwabGateway.Token.Settling

set_option autoImplicit false

namespace SchwabGateway.Token

open SchwabGateway.Python SchwabGateway.Library

variable (codec : Codec) (settings : Settings) (requests : Nat → Request)

def Stage.resting : Stage → Bool
  | .idle => true
  | .ended _ => true
  | _ => false

-- The calls that had the lock record where they ended in the order in which
-- they had it, so that the last one decides what health reports at rest.
structure LockOrdered (watched : Watched) : Prop where
  ordered : watched.log.Pairwise (fun newer older =>
    newer.2.terminal = true → older.2.terminal = true → watched.base.inOrder requests newer older)
  current : ∀ manager last,
    (∀ call, (requests call).manager = manager → (watched.base.stage call).resting = true) →
      watched.base.holders.find? (fun call => (requests call).manager = manager) = some last →
        watched.base.outcome requests last = some (watched.base.health manager) ∧
          (watched.base.health manager).terminal = true

def Orderly (watched : Watched) (event : Event) : Prop :=
  HandedOver requests watched event ∧ Unhindered codec settings watched.base event

variable {codec settings requests}

theorem outcome_logged (initial : Documents) (watched : Watched) (call : Nat) (outcome : Health)
    (recorded : Recorded codec settings requests initial watched)
    (member : call ∈ watched.base.holders) (resting : (watched.base.stage call).resting = true)
    (ends : watched.base.outcome requests call = some outcome) :
    watched.log.find? (fun record => record.1 = call) = some (call, outcome) := by
  have held := (recorded.places call).mp member
  have ended : watched.base.stage call = .ended true := by
    cases place : watched.base.stage call with
    | ended enteredStore =>
        cases enteredStore with
        | true => rfl
        | false =>
            rw [place] at held
            cases held
    | idle =>
        rw [place] at held
        cases held
    | _ =>
        rw [place] at resting
        cases resting
  have own := recorded.own call member
  simp only [State.made, ended, if_true] at own
  have newest : (watched.own call).head? = some outcome := by
    rw [own, List.head?_reverse]
    exact ends
  rw [Watched.own, List.head?_map, List.head?_filter] at newest
  obtain ⟨record, found, same⟩ := Option.map_eq_some_iff.mp newest
  have passes := List.find?_some found
  rw [found]
  congr
  exact Prod.ext (by simpa using passes) same

-- The newest record of a manager is by the last of its calls to have the
-- lock: any other one precedes it, both in the log and among the holders.
theorem newest_by_last (initial : Documents) (watched : Watched) (manager last : Nat)
    (outcome : Health) (newest : Nat × Health)
    (recorded : Recorded codec settings requests initial watched)
    (holder : watched.base.holders.find? (fun call => (requests call).manager = manager) = some last)
    (logged : watched.log.find? (fun record => record.1 = last) = some (last, outcome))
    (found : watched.log.find? (fun record => (requests record.1).manager = manager) = some newest)
    (entered : newest.1 ∈ watched.base.holders) : newest = (last, outcome) := by
  have lastManager : (requests last).manager = manager := by simpa using List.find?_some holder
  have newestManager : (requests newest.1).manager = manager := by simpa using List.find?_some found
  by_cases same : newest.1 = last
  · have again := found_again watched.log _ (fun record => decide (record.1 = last)) newest
      (by simp only [decide_eq_true_eq]; rintro record rfl; exact lastManager) found (by simpa using same)
    rw [logged] at again
    exact (Option.some.inj again).symm
  · exfalso
    obtain ⟨_, later, earlier, split, unmatched⟩ := List.find?_eq_some_iff_append.mp found
    have member : (last, outcome) ∈ earlier := by
      have anywhere := List.mem_of_find?_eq_some logged
      rw [split] at anywhere
      rcases List.mem_append.mp anywhere with before | here
      · have foreign := unmatched _ before
        simp [lastManager] at foreign
      · cases here with
        | head => exact absurd rfl same
        | tail _ after => exact after
    have ordered := recorded.ordered
    rw [split] at ordered
    have order := (List.pairwise_cons.mp (List.pairwise_append.mp ordered).2.1).1 _ member
      (newestManager.trans lastManager.symm) entered (List.mem_of_find?_eq_some holder)
    have foreign := precedes_found watched.base.holders _ newest.1 last
      recorded.consistent.follows.distinct holder (order.resolve_left same)
    simp [newestManager] at foreign

theorem current_at_rest (initial : Documents) (watched : Watched) (manager last : Nat)
    (recorded : Recorded codec settings requests initial watched) (concluding : Concluding requests watched.base)
    (rest : ∀ call, (requests call).manager = manager → (watched.base.stage call).resting = true)
    (holder : watched.base.holders.find? (fun call => (requests call).manager = manager) = some last) :
    watched.base.outcome requests last = some (watched.base.health manager) ∧
      (watched.base.health manager).terminal = true := by
  have lastManager : (requests last).manager = manager := by simpa using List.find?_some holder
  have member := List.mem_of_find?_eq_some holder
  have resting := rest last lastManager
  have outside : watched.base.stage last ≠ .inside := by
    intro inside
    rw [inside] at resting
    cases resting
  obtain ⟨outcome, ends, terminal⟩ := outcome_terminal initial watched.base last recorded.consistent concluding
    member outside
  have logged := outcome_logged initial watched last outcome recorded member resting ends
  cases found : watched.log.find? (fun record => (requests record.1).manager = manager) with
  | none =>
      have unmatched := List.find?_eq_none.mp found _ (List.mem_of_find?_eq_some logged)
      simp [lastManager] at unmatched
  | some newest =>
      have entered : newest.1 ∈ watched.base.holders := by
        refine (recorded.known newest (List.mem_of_find?_eq_some found)).resolve_right fun ended => ?_
        have granted := concluding.granted newest.1
        rw [ended] at granted
        cases granted
      have same := newest_by_last initial watched manager last outcome newest recorded holder logged found entered
      have reported : watched.base.health manager = outcome := by
        rw [recorded.latest manager, found, same]
        rfl
      rw [reported]
      exact ⟨ends, terminal⟩

instance (state : State) (call : Nat) : Decidable (state.owing requests call) :=
  inferInstanceAs (Decidable ((_ ∨ _) ∧ _))

def revokingCallback : RefreshCallback := fun _ => .error (.token .revoked)

-- Calls 0 and 1 are the two on manager 0: one thread loads the token, another
-- one tries to refresh it and finds it revoked.
def racingRequests (call : Nat) : Request where
  process := 0
  thread := call
  manager := call / 2
  kind := if call = 1 then .refresh revokingCallback else .load
  now := 10

def racingStart : Watched := Watched.start sampleCodec sampleSettings racingRequests (sampleFile 1)

def loadUnrecorded : List Event :=
  [.begin 0, .acquireThread 0, .acquireFlock 0, .advance 0, .unlockFlock 0, .releaseThread 0]

def refreshRevoked : List Event :=
  [.begin 1, .acquireThread 1, .acquireFlock 1, .advance 1, .advance 1, .unlockFlock 1,
    .releaseThread 1, .record 1]

-- The refresh runs between the load's release of the lock and its record, and
-- a revoked token is reported ready.
def racingFinal : Watched :=
  (watchedSystem sampleCodec sampleSettings racingRequests).performAll racingStart
    (loadUnrecorded ++ refreshRevoked ++ [.record 0])

theorem sample_handed (watched : Watched) (call : Nat) (manager : (racingRequests call).manager = 0)
    (first : ¬ watched.base.owing racingRequests 0)
    (second : ¬ watched.base.owing racingRequests 1) :
    HandedOver racingRequests watched (.acquireFlock call) := by
  intro other same
  rw [manager] at same
  have small : other = 0 ∨ other = 1 := by
    have half : other / 2 = 0 := same
    omega
  cases small with
  | inl zero =>
      subst zero
      exact first
  | inr one =>
      subst one
      exact second

theorem sample_shallow (documents : Documents) (phase : Phase) :
    Shallow sampleCodec sampleSettings documents phase := by
  have dumped : ∀ value, sampleCodec.dump value ≠ .error .recursionError := by
    intro value
    dsimp only [sampleCodec]
    split <;> nofun
  have loads : ∀ content, sampleCodec.load content ≠ .error .recursionError := by
    intro content
    dsimp only [sampleCodec]
    split_ifs <;> nofun
  cases phase with
  | entered kind =>
      dsimp only [Shallow, read]
      split
      · nofun
      · nofun
      · nofun
      · nofun
      · split_ifs
        · nofun
        · nofun
        · split
          · nofun
          · nofun
          · rename_i raised
            exact absurd raised (loads _)
  | calling callback current => exact fun value _ => dumped value
  | writing token next callbacks => exact dumped token
  | replacing refreshed temporary => trivial
  | operating operation callbacks => trivial
  | replacingScoped refreshed temporary next callbacks => trivial
  | leaving result => trivial

theorem sample_unhindered (state : State) (call : Nat) :
    Unhindered sampleCodec sampleSettings state (.advance call) :=
  sample_shallow state.documents (state.body call).phase

def orderlyFinal : Watched :=
  (watchedSystem sampleCodec sampleSettings racingRequests).performAll racingStart
    (loadUnrecorded ++ [.record 0] ++ refreshRevoked)

end SchwabGateway.Token
