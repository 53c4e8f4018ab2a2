import SchwabGateway.Api.Door
import SchwabGateway.Keys.Append
import SchwabGateway.Library.GivenOut
import SchwabGateway.OrderBook.Asking

set_option autoImplicit false

namespace SchwabGateway.Api

open SchwabGateway.Library SchwabGateway.Python SchwabGateway.Keys
open SchwabGateway.OrderBook (Sockets SocketEvent StreamSymbols Recent Limits Asks Permitted Venue sockets)
open SchwabGateway.Token (ManagerState)

variable {V β : Type}

structure Granted (config : Configuration) (visit : Visit V β) (principal : InternalPrincipal) (asked : Asked) :
    Prop where
  known : visit.principal = some principal
  asks : visit.asked = some asked
  key : config.authenticator.authenticate config.sha256 visit.apiKey = .ok (some principal)
  capable : "market_data:read" ∈ principal.capabilities
  parsed : ∃ route : Route, visit.path = route.path ∧ route.parameters config.unicode visit.query = .ok asked

def Visit.readyBy (visit : Visit V β) (time : ℚ) : Prop :=
  ∃ call before poll earlier, visit.calls = call :: before ∧ call.polls = poll :: earlier ∧
    poll.state = .ready ∧ poll.checkedAt ≤ time

def Reply.serves : Reply V β → Bool
  | .recent _ => true
  | .answer (.json _) => true
  | _ => false

def Reply.early : Reply V β → Bool
  | .recent _ => false
  | .answer (.json _) => false
  | .answer (.error code _ _ _) => code ∈ ["authentication_required", "capability_denied", "invalid_request"]
  | _ => true

def Place.admitted : Place V β → Bool
  | .absent => false
  | .answered reply => reply.serves
  | .cancelled => false
  | _ => true

def Place.cleared : Place V β → Bool
  | .passed _ => true
  | .joining _ => true
  | .reading _ => true
  | .answered (.answer (.json _)) => true
  | _ => false

def Serves (visit : Visit V β) (closure : Option Asked) (identity : Reads.Identity) : Prop :=
  ∃ principal asked, visit.principal = some principal ∧ visit.asked = some asked ∧ closure = some asked ∧
    asked.operation = some (identity.operationName, identity.messages) ∧
    identity.priority = principal.priorityClass ∧ visit.readyBy identity.startedAt

def Streams (streams : Sockets β) (visit : Visit V β) (k : Nat) : Prop :=
  ∃ principal symbols venue, visit.principal = some principal ∧
    visit.asked = some (.streamOrderBook symbols venue) ∧ streams.classes k = principal.priorityClass ∧
    Asks streams.book k symbols venue

structure Sound (config : Configuration) (s : Door V β) (visit : Visit V β) : Prop where
  granted : visit.place.admitted = true → ∃ principal asked, Granted config visit principal asked
  cleared : visit.place.cleared = true → s.warm = true ∧ visit.readyBy s.reads.scheduler.clock
  reading : ∀ read, visit.place = .reading read → Serves visit (s.closures read) (s.reads.reads read).identity
  streaming : ∀ k, visit.place = .streaming k → Streams s.streams visit k

def Visit.reads (visit : Visit V β) (read : Nat) : Prop := visit.place = .reading read

def Visit.streams (visit : Visit V β) (k : Nat) : Prop := visit.place = .streaming k

structure Mediated (config : Configuration) (s : Door V β) : Prop where
  scheduler : Scheduler.Invariant s.reads.scheduler
  permitted : Permitted s.streams
  visits : ∀ id, Sound config s (s.visits id)
  unborn : ∀ id, s.next ≤ id → s.visits id = .absent
  reads : GivenOut s.visits Visit.reads s.reads.next
  streams : GivenOut s.visits Visit.streams s.streams.next

section Entry

variable (config : Configuration) (path : String) (query : Query) (reading : Option ManagerState)
variable (principal : InternalPrincipal) (asked : Asked)

theorem resolve_path (endpoint : Endpoint) (found : resolve path = some endpoint) : endpoint.path = path := by
  have holds := List.find?_some found
  simpa using holds

theorem market_data_granted (route : Route) (caller : Option InternalPrincipal)
    (handled : marketDataHandler (V := V) (β := β) config route caller query = .handle principal asked) :
    caller = some principal ∧ "market_data:read" ∈ principal.capabilities ∧
      route.parameters config.unicode query = .ok asked := by
  cases caller with
  | none => cases handled
  | some someone =>
      rw [marketDataHandler] at handled
      by_cases capable : "market_data:read" ∈ someone.capabilities
      · rw [if_pos capable] at handled
        cases parsed : route.parameters config.unicode query with
        | error message =>
            rw [parsed] at handled
            cases handled
        | ok found =>
            rw [parsed] at handled
            cases handled
            exact ⟨rfl, capable, rfl⟩
      · rw [if_neg capable] at handled
        cases handled

theorem handler_granted (caller : Option InternalPrincipal)
    (handled : handlerHead (V := V) (β := β) config path caller query reading = .handle principal asked) :
    caller = some principal ∧ "market_data:read" ∈ principal.capabilities ∧
      ∃ route : Route, path = route.path ∧ route.parameters config.unicode query = .ok asked := by
  rw [handlerHead] at handled
  cases found : resolve path with
  | none =>
      rw [found] at handled
      cases handled
  | some endpoint =>
      rw [found] at handled
      cases endpoint with
      | health => cases handled
      | ready => cases handled
      | metrics => cases handled
      | data route =>
          obtain ⟨known, capable, parsed⟩ := market_data_granted config query principal asked route caller handled
          exact ⟨known, capable, route, (resolve_path path _ found).symm, parsed⟩

-- The one way to a handler is past the key, the capability and the parsers.
theorem enter_granted (apiKey : Text)
    (handled : enter (V := V) (β := β) config path apiKey query reading = .handle principal asked) :
    config.authenticator.authenticate config.sha256 apiKey = .ok (some principal) ∧
      "market_data:read" ∈ principal.capabilities ∧
      ∃ route : Route, path = route.path ∧ route.parameters config.unicode query = .ok asked := by
  rw [enter] at handled
  split at handled
  · cases known : config.authenticator.authenticate config.sha256 apiKey with
    | error error =>
        rw [known] at handled
        cases handled
    | ok caller =>
        rw [known] at handled
        cases caller with
        | none => cases handled
        | some someone =>
            obtain ⟨same, capable, parsed⟩ := handler_granted config path query reading principal asked _ handled
            cases same
            exact ⟨rfl, capable, parsed⟩
  · obtain ⟨same, _⟩ := handler_granted config path query reading principal asked none handled
    cases same

theorem enter_reply (apiKey : Text) (reply : Reply V β)
    (replied : enter config path apiKey query reading = .reply reply) : reply.early = true := by
  have head : ∀ caller, handlerHead config path caller query reading = .reply reply → reply.early = true := by
    intro caller same
    rw [handlerHead] at same
    split at same
    · cases same
      rfl
    · cases same
      rfl
    · cases same
      rfl
    · cases same
      rfl
    · rw [marketDataHandler.eq_def] at same
      split at same
      · cases same
        rfl
      · split at same
        · split at same
          · cases same
            rfl
          · cases same
        · cases same
          rfl
  rw [enter] at replied
  split at replied
  · split at replied
    · cases replied
      rfl
    · cases replied
      rfl
    · exact head _ replied
  · exact head none replied

theorem early_serves (reply : Reply V β) (early : reply.early = true) : reply.serves = false := by
  cases reply with
  | recent recent => cases early
  | answer response =>
      cases response with
      | json value => cases early
      | error | serverError => rfl
  | health | readiness | metrics | notFound => rfl

end Entry

structure Parts (config : Configuration) (s t : Door V β) : Prop where
  warm : s.warm = true → t.warm = true
  reads : t.reads = s.reads ∨ ∃ event, (Reads.gateway V config.reads).enabled s.reads event ∧
    t.reads = (Reads.gateway V config.reads).perform s.reads event
  closures : ∀ read, read < s.reads.next → t.closures read = s.closures read
  streams : t.streams = s.streams ∨ ∃ event, (sockets β).enabled s.streams event ∧
    t.streams = (sockets β).perform s.streams event

section Parts

variable (config : Configuration) (s : Door V β)

theorem parts_visit (t : Door V β) (warm : t.warm = s.warm) (reads : t.reads = s.reads)
    (closures : t.closures = s.closures) (streams : t.streams = s.streams) : Parts config s t :=
  ⟨fun held => warm.trans held, .inl reads, fun read _ => congrFun closures read, .inl streams⟩

theorem parts_reads (t : Door V β) (event : Reads.Event V) (warm : t.warm = s.warm)
    (guard : (Reads.gateway V config.reads).enabled s.reads event)
    (reads : t.reads = (Reads.gateway V config.reads).perform s.reads event)
    (closures : ∀ read, read < s.reads.next → t.closures read = s.closures read)
    (streams : t.streams = s.streams) : Parts config s t :=
  ⟨fun held => warm.trans held, .inr ⟨event, guard, reads⟩, closures, .inl streams⟩

theorem parts_handle (id : Nat) (principal : InternalPrincipal) (asked : Asked) (now : ℚ)
    (current : s.streams.book.clock ≤ now) : Parts config s (s.handle config id principal asked now) := by
  cases asked with
  | streamOrderBook symbols venue =>
      rw [Door.handle]
      split
      · exact parts_visit config s _ rfl rfl rfl rfl
      · rename_i checked _
        exact ⟨fun held => held, .inl rfl, fun _ _ => rfl,
          .inr ⟨.request principal.priorityClass checked venue now, ⟨current, trivial⟩, rfl⟩⟩
  | recentOrderBook symbol venue limit => exact parts_visit config s _ rfl rfl rfl rfl
  | quotes symbols allowPartial => exact parts_visit config s _ rfl rfl rfl rfl
  | spot symbol => exact parts_visit config s _ rfl rfl rfl rfl
  | chain symbol expiration => exact parts_visit config s _ rfl rfl rfl rfl
  | optionChain symbol expiration => exact parts_visit config s _ rfl rfl rfl rfl
  | history symbol frequency daysBack => exact parts_visit config s _ rfl rfl rfl rfl
  | movers index direction => exact parts_visit config s _ rfl rfl rfl rfl
  | sessionHistory symbol date session => exact parts_visit config s _ rfl rfl rfl rfl

theorem parts_request (path : String) (apiKey : Text) (query : Query) (reading : Option ManagerState) (now : ℚ)
    (current : s.streams.book.clock ≤ now) : Parts config s (s.request config path apiKey query reading now) := by
  rw [Door.request]
  split
  · exact parts_visit config s _ rfl rfl rfl rfl
  · rename_i principal asked _
    obtain ⟨warm, reads, closures, streams⟩ := parts_handle config
      ({ s with next := s.next + 1 }.setVisit s.next
        { (Visit.absent : Visit V β) with
          path := path, apiKey := apiKey, query := query, principal := some principal, asked := some asked })
      s.next principal asked now current
    exact ⟨warm, reads, closures, streams⟩

theorem parts_polled (id : Nat) (passage : Passage) (earlier : List Call) (call : Call) (poll : Poll)
    (current : s.reads.scheduler.clock ≤ poll.checkedAt) :
    Parts config s (s.polled id passage earlier call poll) :=
  parts_reads config s _ (.advance (.tick poll.checkedAt)) rfl ⟨rfl, current, trivial⟩ rfl (fun _ _ => rfl) rfl

theorem parts_perform (event : DoorEvent V β) (guard : doorEnabled config s event) :
    Parts config s (doorPerform config s event) := by
  cases event with
  | request path apiKey query reading now => exact parts_request config s path apiKey query reading now guard
  | poll id reading polledAt startedAt checkedAt =>
      obtain ⟨_, first, second, third⟩ := guard
      have current : s.reads.scheduler.clock ≤ checkedAt := le_trans first (le_trans second third)
      rw [doorPerform, Door.poll]
      split
      · exact parts_polled config s id _ _ _ _ current
      · exact parts_polled config s id _ _ _ _ current
      · exact parts_visit config s _ rfl rfl rfl rfl
  | lookup id found now =>
      cases found with
      | hit value => exact parts_visit config s _ rfl rfl rfl rfl
      | malformed => exact parts_visit config s _ rfl rfl rfl rfl
      | joined => exact parts_visit config s _ rfl rfl rfl rfl
      | missed => exact parts_visit config s _ rfl rfl rfl rfl
  | joinEnds id ending now wall =>
      cases ending with
      | value value => exact parts_visit config s _ rfl rfl rfl rfl
      | timeout => exact parts_visit config s _ rfl rfl rfl rfl
      | failed failure =>
          rw [doorPerform, Door.joinEnds]
          split
          · exact parts_reads config s _ (.joined failure now wall) rfl guard.2.1 rfl (fun _ _ => rfl) rfl
          · exact parts_visit config s _ rfl rfl rfl rfl
          · exact parts_visit config s _ rfl rfl rfl rfl
          · exact parts_visit config s _ rfl rfl rfl rfl
  | serve id startedAt checkedAt enqueuedAt now observedAt wall =>
      rw [doorPerform, Door.serve]
      split
      · exact parts_visit config s _ rfl rfl rfl rfl
      · rename_i begun found
        exact ⟨fun held => held, .inr ⟨begun, guard.2 begun found, rfl⟩,
          fun read below => Function.update_of_ne (Nat.ne_of_lt below) .., .inl rfl⟩
  | cancel id => exact parts_visit config s _ rfl rfl rfl rfl
  | warmedUp => exact ⟨fun _ => rfl, .inl rfl, fun _ _ => rfl, .inl rfl⟩
  | reads event => exact parts_reads config s _ event rfl guard.2 rfl (fun _ _ => rfl) rfl
  | streams event => exact ⟨fun held => held, .inl rfl, fun _ _ => rfl, .inr ⟨event, guard.2, rfl⟩⟩

end Parts

-- What no step takes back from the requests it does not touch.
structure Onward (s t : Door V β) : Prop where
  warm : s.warm = true → t.warm = true
  clock : s.reads.scheduler.clock ≤ t.reads.scheduler.clock
  reads : s.reads.next ≤ t.reads.next
  identity : ∀ read, read < s.reads.next → (t.reads.reads read).identity = (s.reads.reads read).identity
  closures : ∀ read, read < s.reads.next → t.closures read = s.closures read
  streams : s.streams.next ≤ t.streams.next
  classes : ∀ k, k < s.streams.next → t.streams.classes k = s.streams.classes k
  asks : ∀ k symbols venue, Asks s.streams.book k symbols venue → Asks t.streams.book k symbols venue

section Onward

variable (config : Configuration) (s t : Door V β)

theorem reads_onward (reads : Reads.State V) (event : Reads.Event V) (invariant : Scheduler.Invariant reads.scheduler)
    (guard : (Reads.gateway V config.reads).enabled reads event) :
    reads.scheduler.clock ≤ (Reads.perform config.reads reads event).scheduler.clock ∧
      reads.next ≤ (Reads.perform config.reads reads event).next := by
  refine ⟨Reads.runs_clock _ _ invariant (Reads.runs_perform config.reads reads event invariant guard), ?_⟩
  cases begins : event.begins with
  | false => exact Nat.le_of_eq (Reads.perform_same_reads config.reads reads event begins).next.symm
  | true =>
      cases event with
      | begin operationName priority messages startedAt checkedAt enqueuedAt now observedAt wall =>
          have begun := Reads.perform_begun config.reads reads operationName priority messages startedAt checkedAt
            enqueuedAt now observedAt wall
          exact le_of_le_of_eq (Nat.le_succ reads.next) begun.next.symm
      | resume | wake | cancel | cancelBackoff | startOperation | finishBuild | joined | advance => cases begins

theorem streams_onward (streams : Sockets β) (event : SocketEvent β) :
    streams.next ≤ ((sockets β).perform streams event).next ∧
      ∀ k, k < streams.next → ((sockets β).perform streams event).classes k = streams.classes k := by
  cases opens : event.opens with
  | false =>
      obtain ⟨next, classes⟩ := OrderBook.socket_same streams event opens
      exact ⟨Nat.le_of_eq next.symm, fun k _ => congrFun classes k⟩
  | true =>
      cases event with
      | request priority symbols venue now =>
          obtain ⟨next, classes⟩ := OrderBook.socket_opened streams priority symbols venue now
          refine ⟨le_of_le_of_eq (Nat.le_succ streams.next) next.symm, ?_⟩
          intro k below
          rw [classes, Function.update_of_ne (Nat.ne_of_lt below)]
      | _ => cases opens

theorem onward_parts (mediated : Mediated config s) (parts : Parts config s t) : Onward s t := by
  have reads : s.reads.scheduler.clock ≤ t.reads.scheduler.clock ∧ s.reads.next ≤ t.reads.next ∧
      ∀ read, read < s.reads.next → (t.reads.reads read).identity = (s.reads.reads read).identity := by
    rcases parts.reads with same | ⟨event, guard, same⟩
    · rw [same]
      exact ⟨le_refl _, le_refl _, fun _ _ => rfl⟩
    · rw [same]
      obtain ⟨clock, next⟩ := reads_onward config s.reads event mediated.scheduler guard
      exact ⟨clock, next, fun read below => Reads.known_reads_keep config.reads s.reads event read below⟩
  have streams : s.streams.next ≤ t.streams.next ∧
      (∀ k, k < s.streams.next → t.streams.classes k = s.streams.classes k) ∧
      ∀ k symbols venue, Asks s.streams.book k symbols venue → Asks t.streams.book k symbols venue := by
    rcases parts.streams with same | ⟨event, guard, same⟩
    · rw [same]
      exact ⟨le_refl _, fun _ _ => rfl, fun _ _ _ asks => asks⟩
    · rw [same]
      obtain ⟨next, classes⟩ := streams_onward s.streams event
      exact ⟨next, classes, fun k symbols venue asks =>
        OrderBook.asks_socket_step s.streams mediated.permitted event guard k symbols venue asks⟩
  exact
    { warm := parts.warm
      clock := reads.1
      reads := reads.2.1
      identity := reads.2.2
      closures := parts.closures
      streams := streams.1
      classes := streams.2.1
      asks := streams.2.2 }

theorem parts_invariants (mediated : Mediated config s) (parts : Parts config s t) :
    Scheduler.Invariant t.reads.scheduler ∧ Permitted t.streams := by
  constructor
  · rcases parts.reads with same | ⟨event, guard, same⟩
    · rw [same]
      exact mediated.scheduler
    · rw [same]
      exact Reads.scheduler_invariant_step config.reads s.reads event mediated.scheduler guard
  · rcases parts.streams with same | ⟨event, guard, same⟩
    · rw [same]
      exact mediated.permitted
    · rw [same]
      exact OrderBook.permitted_perform s.streams event mediated.permitted guard

theorem ready_by_later (visit : Visit V β) (early late : ℚ) (ready : visit.readyBy early) (later : early ≤ late) :
    visit.readyBy late := by
  obtain ⟨call, before, poll, earlier, calls, polls, state, checked⟩ := ready
  exact ⟨call, before, poll, earlier, calls, polls, state, le_trans checked later⟩

theorem sound_onward (onward : Onward s t) (visit : Visit V β) (sound : Sound config s visit)
    (reads : ∀ read, visit.reads read → read < s.reads.next)
    (streams : ∀ k, visit.streams k → k < s.streams.next) : Sound config t visit where
  granted := sound.granted
  cleared := by
    intro cleared
    obtain ⟨warm, ready⟩ := sound.cleared cleared
    exact ⟨onward.warm warm, ready_by_later visit _ _ ready onward.clock⟩
  reading := by
    intro read reading
    rw [onward.identity read (reads read reading), onward.closures read (reads read reading)]
    exact sound.reading read reading
  streaming := by
    intro k streaming
    obtain ⟨principal, symbols, venue, known, asked, class_, asks⟩ := sound.streaming k streaming
    refine ⟨principal, symbols, venue, known, asked, ?_, onward.asks k _ _ asks⟩
    rw [onward.classes k (streams k streaming)]
    exact class_

end Onward

section Writes

variable (config : Configuration) (s t : Door V β)

theorem mediated_opened (policy streamPolicy : AdmissionPolicy) (limits : Limits) (clock : ℚ) (live : Bool) :
    Mediated config (Door.opened policy streamPolicy limits clock live : Door V β) where
  scheduler := Scheduler.invariant_initial policy clock
  permitted := OrderBook.permitted_opened streamPolicy limits clock
  visits _ :=
    { granted := fun admitted => by cases admitted
      cleared := fun cleared => by cases cleared
      reading := fun _ same => by cases same
      streaming := fun _ same => by cases same }
  unborn _ _ := rfl
  reads := given_out_none _ _ (fun _ _ same => by cases same)
  streams := given_out_none _ _ (fun _ _ same => by cases same)

theorem mediated_keep (mediated : Mediated config s) (parts : Parts config s t) (visits : t.visits = s.visits)
    (next : t.next = s.next) (reads : t.reads.next = s.reads.next) (streams : t.streams.next = s.streams.next) :
    Mediated config t where
  scheduler := (parts_invariants config s t mediated parts).1
  permitted := (parts_invariants config s t mediated parts).2
  visits := by
    rw [visits]
    exact fun id => sound_onward config s t (onward_parts config s t mediated parts) _ (mediated.visits id)
      (mediated.reads.below id) (mediated.streams.below id)
  unborn := by
    rw [visits, next]
    exact mediated.unborn
  reads := by
    rw [visits, reads]
    exact mediated.reads
  streams := by
    rw [visits, streams]
    exact mediated.streams

def Gives (before after : Nat) (owns : Nat → Prop) : Prop :=
  (after = before ∧ ∀ number, ¬ owns number) ∨ (after = before + 1 ∧ ∀ number, owns number ↔ number = before)

theorem given_out_gives (table : Nat → Visit V β) (owns : Visit V β → Nat → Prop) (before after id : Nat)
    (entry : Visit V β) (given : GivenOut table owns before) (free : ∀ number, ¬ owns (table id) number)
    (gives : Gives before after (owns entry)) : GivenOut (Function.update table id entry) owns after := by
  rcases gives with ⟨same, nothing⟩ | ⟨next, number⟩
  · rw [same]
    exact given_out_keep table owns before given id entry free nothing
  · rw [next]
    exact given_out_next table owns before given id entry free number

def Place.free : Place V β → Bool
  | .reading _ => false
  | .streaming _ => false
  | _ => true

theorem free_owns (visit : Visit V β) (free : visit.place.free = true) :
    (∀ read, ¬ visit.reads read) ∧ ∀ k, ¬ visit.streams k := by
  constructor
  · intro read reading
    rw [reading] at free
    cases free
  · intro k streaming
    rw [streaming] at free
    cases free

structure Writes (id : Nat) (visit : Visit V β) : Prop where
  parts : Parts config s t
  visits : t.visits = Function.update s.visits id visit
  known : id < t.next
  next : s.next ≤ t.next
  free : (s.visits id).place.free = true
  sound : Sound config t visit
  reads : Gives s.reads.next t.reads.next visit.reads
  streams : Gives s.streams.next t.streams.next visit.streams

theorem mediated_write (mediated : Mediated config s) (id : Nat) (visit : Visit V β)
    (writes : Writes config s t id visit) : Mediated config t := by
  have onward := onward_parts config s t mediated writes.parts
  obtain ⟨noRead, noStream⟩ := free_owns _ writes.free
  refine
    { scheduler := (parts_invariants config s t mediated writes.parts).1
      permitted := (parts_invariants config s t mediated writes.parts).2
      visits := ?_
      unborn := ?_
      reads := ?_
      streams := ?_ }
  · intro j
    rw [writes.visits]
    by_cases here : j = id
    · rw [here, Function.update_self]
      exact writes.sound
    · rw [Function.update_of_ne here]
      exact sound_onward config s t onward _ (mediated.visits j) (mediated.reads.below j) (mediated.streams.below j)
  · intro j late
    have different : j ≠ id := fun same => absurd writes.known (not_lt.mpr (same ▸ late))
    rw [writes.visits, Function.update_of_ne different]
    exact mediated.unborn j (le_trans writes.next late)
  · rw [writes.visits]
    exact given_out_gives _ _ _ _ id visit mediated.reads noRead writes.reads
  · rw [writes.visits]
    exact given_out_gives _ _ _ _ id visit mediated.streams noStream writes.streams

end Writes

structure Visit.Same (before after : Visit V β) : Prop where
  path : after.path = before.path
  apiKey : after.apiKey = before.apiKey
  query : after.query = before.query
  principal : after.principal = before.principal
  asked : after.asked = before.asked

section Moves

variable (config : Configuration) (s : Door V β)

theorem granted_same (before after : Visit V β) (same : before.Same after) (principal : InternalPrincipal)
    (asked : Asked) (granted : Granted config before principal asked) : Granted config after principal asked where
  known := same.principal.trans granted.known
  asks := same.asked.trans granted.asks
  key := by
    rw [same.apiKey]
    exact granted.key
  capable := granted.capable
  parsed := by
    rw [same.path, same.query]
    exact granted.parsed

theorem known_visit (mediated : Mediated config s) (id : Nat) (present : (s.visits id).place ≠ .absent) :
    id < s.next := by
  by_contra late
  have absent := mediated.unborn id (not_lt.mp late)
  exact present (by rw [absent]; rfl)

theorem writes_moved (t : Door V β) (mediated : Mediated config s) (id : Nat) (visit : Visit V β)
    (parts : Parts config s t) (visits : t.visits = Function.update s.visits id visit) (next : t.next = s.next)
    (reads : t.reads.next = s.reads.next) (streams : t.streams.next = s.streams.next)
    (same : (s.visits id).Same visit) (before : (s.visits id).place.free = true)
    (present : (s.visits id).place.admitted = true) (after : visit.place.free = true)
    (cleared : visit.place.cleared = true → t.warm = true ∧ visit.readyBy t.reads.scheduler.clock) :
    Mediated config t := by
  have nothing := free_owns visit after
  have some_ : (s.visits id).place ≠ .absent := by
    intro absent
    rw [absent] at present
    cases present
  apply mediated_write config s t mediated id visit
  refine
    { parts := parts
      visits := visits
      known := ?_
      next := Nat.le_of_eq next.symm
      free := before
      sound := ?_
      reads := .inl ⟨reads, nothing.1⟩
      streams := .inl ⟨streams, nothing.2⟩ }
  · rw [next]
    exact known_visit config s mediated id some_
  · refine ⟨?_, cleared, ?_, ?_⟩
    · intro _
      obtain ⟨principal, asked, granted⟩ := (mediated.visits id).granted present
      exact ⟨principal, asked, granted_same config _ visit same principal asked granted⟩
    · exact fun read reading => absurd reading (nothing.1 read)
    · exact fun k streaming => absurd streaming (nothing.2 k)

theorem place_same (visit : Visit V β) (place : Place V β) : visit.Same { visit with place := place } :=
  ⟨rfl, rfl, rfl, rfl, rfl⟩

theorem mediated_place (mediated : Mediated config s) (id : Nat) (place : Place V β)
    (before : (s.visits id).place.free = true) (present : (s.visits id).place.admitted = true)
    (after : place.free = true) (cleared : place.cleared = true → (s.visits id).place.cleared = true) :
    Mediated config (s.setPlace id place) := by
  apply writes_moved config s (s.setPlace id place) mediated id { s.visits id with place := place }
    (parts_visit config s _ rfl rfl rfl rfl) rfl rfl rfl rfl (place_same _ place) before present after
  intro held
  exact (mediated.visits id).cleared (cleared held)

theorem pollable_facts (place : Place V β) (polledAt : ℚ) (pollable : place.pollable polledAt = true) :
    place.free = true ∧ place.admitted = true := by
  cases place with
  | gate passage => exact ⟨rfl, rfl⟩
  | asleep passage wakeAt => exact ⟨rfl, rfl⟩
  | _ => cases pollable

theorem gate_facts (passage : Passage) (outcome : Gate) :
    (Door.gatePlace passage outcome : Place V β).free = true ∧
      ((Door.gatePlace passage outcome : Place V β).cleared = true → outcome = .passed) := by
  cases outcome with
  | passed => exact ⟨rfl, fun _ => rfl⟩
  | refused => exact ⟨rfl, fun cleared => by cases cleared⟩
  | asleep wakeAt => exact ⟨rfl, fun cleared => by cases cleared⟩

theorem gate_passed (state : ManagerState) (deadline checkedAt : ℚ) (passed : gate state deadline checkedAt = .passed) :
    state = .ready := by
  cases state with
  | ready => rfl
  | refreshing =>
      simp only [gate] at passed
      split at passed
      · cases passed
      · cases passed
  | _ => cases passed

theorem ready_warm (reading : Option ManagerState) (ready : (tokenReadiness (s.health reading)).1 = .ready) :
    s.warm = true := by
  cases warm : s.warm with
  | true => rfl
  | false =>
      rw [Door.health, warm, if_neg Bool.false_ne_true] at ready
      cases ready

theorem mediated_polled (mediated : Mediated config s) (id : Nat) (passage : Passage) (earlier : List Call)
    (call : Call) (reading : Option ManagerState) (polledAt checkedAt : ℚ)
    (pollable : (s.visits id).place.pollable polledAt = true) (current : s.reads.scheduler.clock ≤ checkedAt) :
    Mediated config (s.polled id passage earlier call
      ⟨polledAt, checkedAt, (tokenReadiness (s.health reading)).1⟩) := by
  obtain ⟨free, present⟩ := pollable_facts (s.visits id).place polledAt pollable
  obtain ⟨after, cleared⟩ := gate_facts (V := V) (β := β) passage
    (gate (tokenReadiness (s.health reading)).1 call.deadline checkedAt)
  apply writes_moved config s _ mediated id _ (parts_polled config s id passage earlier call _ current) rfl rfl
    rfl rfl ⟨rfl, rfl, rfl, rfl, rfl⟩ free present after
  intro held
  have ready := gate_passed _ call.deadline checkedAt (cleared held)
  exact ⟨ready_warm s reading ready, _, earlier, _, call.polls, rfl, rfl, ready, le_refl _⟩

end Moves

section Requests

variable (config : Configuration) (s : Door V β)

theorem begin_some (visit : Visit V β) (startedAt checkedAt enqueuedAt now observedAt wall : ℚ)
    (event : Reads.Event V)
    (begun : Door.begin visit startedAt checkedAt enqueuedAt now observedAt wall = some event) :
    ∃ principal asked operationName messages, visit.principal = some principal ∧ visit.asked = some asked ∧
      asked.operation = some (operationName, messages) ∧
      event = .begin operationName principal.priorityClass messages startedAt checkedAt enqueuedAt now observedAt
        wall := by
  rw [Door.begin] at begun
  obtain ⟨principal, known, begun⟩ := Option.bind_eq_some_iff.mp begun
  obtain ⟨asked, asks, begun⟩ := Option.bind_eq_some_iff.mp begun
  obtain ⟨⟨operationName, messages⟩, operation, begun⟩ := Option.bind_eq_some_iff.mp begun
  cases begun
  exact ⟨principal, asked, operationName, messages, known, asks, operation, rfl⟩

theorem is_passed (place : Place V β) (passage : Passage) (passed : place.isPassed passage = true) :
    place = .passed passage := by
  cases place with
  | passed other => rw [of_decide_eq_true passed]
  | _ => cases passed

theorem mediated_serve (mediated : Mediated config s) (id : Nat)
    (startedAt checkedAt enqueuedAt now observedAt wall : ℚ)
    (guard : doorEnabled config s (.serve id startedAt checkedAt enqueuedAt now observedAt wall)) :
    Mediated config (s.serve config id startedAt checkedAt enqueuedAt now observedAt wall) := by
  have parts := parts_perform config s _ guard
  obtain ⟨passed, enabled⟩ := guard
  have place := is_passed _ _ passed
  rw [doorPerform, Door.serve] at parts
  rw [Door.serve]
  cases begun : Door.begin (s.visits id) startedAt checkedAt enqueuedAt now observedAt wall with
  | none => exact mediated
  | some event =>
      rw [begun] at parts
      have guard := enabled event begun
      obtain ⟨principal, asked, operationName, messages, known, asks, operation, rfl⟩ :=
        begin_some (s.visits id) startedAt checkedAt enqueuedAt now observedAt wall event begun
      have step := Reads.perform_begun config.reads s.reads operationName principal.priorityClass messages startedAt
        checkedAt enqueuedAt now observedAt wall
      have onward := onward_parts config s _ mediated parts
      obtain ⟨warm, ready⟩ := (mediated.visits id).cleared (by rw [place]; rfl)
      apply mediated_write config s _ mediated id { s.visits id with place := .reading s.reads.next }
      refine
        { parts := parts
          visits := rfl
          known := known_visit config s mediated id (by rw [place]; exact fun same => by cases same)
          next := Nat.le_refl _
          free := by rw [place]; rfl
          sound := ?_
          reads := .inr ⟨step.next, fun read => ⟨fun same => by cases same; rfl, fun same => by rw [same]; rfl⟩⟩
          streams := .inl ⟨rfl, fun _ same => by cases same⟩ }
      refine ⟨?_, ?_, ?_, fun _ same => by cases same⟩
      · intro _
        obtain ⟨caller, wish, granted⟩ := (mediated.visits id).granted (by rw [place]; rfl)
        exact ⟨caller, wish, granted_same config _ _ (place_same _ _) caller wish granted⟩
      · intro _
        exact ⟨onward.warm warm, ready_by_later _ _ _ ready onward.clock⟩
      · intro read same
        cases same
        rw [show (Reads.perform config.reads s.reads _).reads s.reads.next = _ from rfl, step.own]
        exact ⟨principal, asked, known, asks, (Function.update_self ..).trans asks, operation, rfl,
          ready_by_later _ _ _ ready guard.1⟩

theorem set_visit_place (id : Nat) (visit : Visit V β) (place : Place V β) :
    (s.setVisit id visit).setPlace id place = s.setVisit id { visit with place := place } := by
  simp only [Door.setPlace, Door.setVisit, Function.update_self, Function.update_idem]

section Arrivals

variable (t : Door V β) (visit : Visit V β)

theorem sound_waiting (free : visit.place.free = true) (uncleared : visit.place.cleared = false)
    (granted : visit.place.admitted = true → ∃ principal asked, Granted config visit principal asked) :
    Sound config t visit where
  granted := granted
  cleared := fun cleared => by cases uncleared.symm.trans cleared
  reading := fun read reading => absurd reading ((free_owns visit free).1 read)
  streaming := fun k streaming => absurd streaming ((free_owns visit free).2 k)

theorem mediated_arrived (mediated : Mediated config s) (parts : Parts config s t)
    (visits : t.visits = Function.update s.visits s.next visit) (next : t.next = s.next + 1)
    (sound : Sound config t visit) (reads : Gives s.reads.next t.reads.next visit.reads)
    (streams : Gives s.streams.next t.streams.next visit.streams) : Mediated config t := by
  apply mediated_write config s t mediated s.next visit
  refine
    { parts := parts
      visits := visits
      known := ?_
      next := ?_
      free := ?_
      sound := sound
      reads := reads
      streams := streams }
  · rw [next]
    exact Nat.lt_succ_self s.next
  · rw [next]
    exact Nat.le_succ s.next
  · rw [mediated.unborn s.next (Nat.le_refl _)]
    rfl

theorem mediated_waiting (mediated : Mediated config s) (free : visit.place.free = true)
    (uncleared : visit.place.cleared = false)
    (granted : visit.place.admitted = true → ∃ principal asked, Granted config visit principal asked) :
    Mediated config ({ s with next := s.next + 1 }.setVisit s.next visit) := by
  obtain ⟨noRead, noStream⟩ := free_owns visit free
  exact mediated_arrived config s _ visit mediated (parts_visit config s _ rfl rfl rfl rfl) rfl rfl
    (sound_waiting config _ visit free uncleared granted) (.inl ⟨rfl, noRead⟩) (.inl ⟨rfl, noStream⟩)

end Arrivals

theorem passage_gate (asked : Asked) (id : Nat) (principal : InternalPrincipal) (now : ℚ)
    (operation : asked.operation ≠ none) :
    s.handle config id principal asked now = s.setPlace id (.gate (asked.passage config)) := by
  cases asked with
  | recentOrderBook symbol venue limit => exact absurd rfl operation
  | streamOrderBook symbols venue => exact absurd rfl operation
  | quotes | spot | chain | optionChain | history | movers | sessionHistory => rfl

theorem mediated_stream (mediated : Mediated config s) (visit : Visit V β) (principal : InternalPrincipal)
    (symbols : StreamSymbols) (venue : Venue) (now : ℚ) (current : s.streams.book.clock ≤ now)
    (granted : Granted config visit principal (.streamOrderBook symbols.symbols venue)) :
    Mediated config (({ s with next := s.next + 1 }.setVisit s.next visit).openStream s.next principal symbols venue
      now) := by
  obtain ⟨next, classes⟩ := OrderBook.socket_opened s.streams principal.priorityClass symbols venue now
  have place := set_visit_place { s with next := s.next + 1 } s.next visit (.streaming s.streams.next)
  apply mediated_arrived config s _ { visit with place := .streaming s.streams.next } mediated
  · exact ⟨fun held => held, .inl rfl, fun _ _ => rfl,
      .inr ⟨.request principal.priorityClass symbols venue now, ⟨current, trivial⟩, rfl⟩⟩
  · exact congrArg Door.visits place
  · rfl
  · refine ⟨?_, (fun cleared => by cases cleared), (fun _ same => by cases same), ?_⟩
    · exact fun _ => ⟨principal, _, granted_same config visit _ (place_same visit _) principal _ granted⟩
    · intro k streaming
      cases streaming
      refine ⟨principal, symbols.symbols, venue, granted.known, granted.asks, ?_, ?_⟩
      · exact (congrFun classes s.streams.next).trans (Function.update_self ..)
      · exact OrderBook.asks_request s.streams mediated.permitted principal.priorityClass symbols venue now
  · exact .inl ⟨rfl, fun _ same => by cases same⟩
  · exact .inr ⟨next, fun k => ⟨fun same => by cases same; rfl, fun same => by rw [same]; rfl⟩⟩

theorem stream_symbols_same (symbols : List String) (valid : StreamSymbols)
    (checked : streamSymbols symbols = some valid) : valid.symbols = symbols := by
  rw [streamSymbols] at checked
  split at checked
  · cases checked
    rfl
  · cases checked

theorem mediated_request (mediated : Mediated config s) (path : String) (apiKey : Text) (query : Query)
    (reading : Option ManagerState) (now : ℚ) (current : s.streams.book.clock ≤ now) :
    Mediated config (s.request config path apiKey query reading now) := by
  rw [Door.request]
  cases entered : enter (V := V) (β := β) config path apiKey query
      ({ s with next := s.next + 1 }.health reading) with
  | reply reply =>
      have serves := early_serves reply (enter_reply config path query _ apiKey reply entered)
      apply mediated_waiting config s _ mediated rfl
      · cases reply with
        | answer response =>
            cases response with
            | json value => cases serves
            | error code message status retryAfter => rfl
            | serverError => rfl
        | _ => rfl
      · intro admitted
        cases serves.symm.trans admitted
  | handle principal asked =>
      obtain ⟨key, capable, parsed⟩ := enter_granted config path query _ principal asked apiKey entered
      have granted : ∀ place : Place V β, Granted config
          ({ (Visit.absent : Visit V β) with
            path := path, apiKey := apiKey, query := query, principal := some principal, asked := some asked,
            place := place }) principal asked :=
        fun place => ⟨rfl, rfl, key, capable, parsed⟩
      dsimp only
      cases operation : asked.operation with
      | some named =>
          rw [passage_gate config _ asked _ principal now (by rw [operation]; exact fun same => by cases same),
            set_visit_place]
          exact mediated_waiting config s _ mediated rfl rfl (fun _ => ⟨principal, asked, granted _⟩)
      | none =>
          cases asked with
          | recentOrderBook symbol venue limit =>
              rw [Door.handle, set_visit_place]
              exact mediated_waiting config s _ mediated rfl rfl (fun _ => ⟨principal, _, granted _⟩)
          | streamOrderBook symbols venue =>
              rw [Door.handle]
              cases checked : streamSymbols symbols with
              | none =>
                  dsimp only
                  rw [set_visit_place]
                  exact mediated_waiting config s _ mediated rfl rfl (fun admitted => by cases admitted)
              | some valid =>
                  have same := stream_symbols_same symbols valid checked
                  exact mediated_stream config s mediated _ principal valid venue now current
                    (same ▸ granted .absent)
          | quotes | spot | chain | optionChain | history | movers | sessionHistory => cases operation

end Requests

section Runs

variable (config : Configuration)

theorem is_joining (place : Place V β) (joining : place.isJoining = true) : ∃ expires, place = .joining expires := by
  cases place with
  | joining expires => exact ⟨expires, rfl⟩
  | _ => cases joining

theorem awaits_facts (place : Place V β) (awaits : place.awaits = true) :
    place.free = true ∧ place.admitted = true := by
  cases place with
  | asleep passage wakeAt => exact ⟨rfl, rfl⟩
  | joining expires => exact ⟨rfl, rfl⟩
  | _ => cases awaits

theorem mediated_lookup (s : Door V β) (mediated : Mediated config s) (id : Nat) (found : Lookup V) (now : ℚ)
    (passed : (s.visits id).place.isPassed .side = true) : Mediated config (s.lookup config id found now) := by
  have place := is_passed _ _ passed
  have free : (s.visits id).place.free = true := by rw [place]; rfl
  have present : (s.visits id).place.admitted = true := by rw [place]; rfl
  have cleared : (s.visits id).place.cleared = true := by rw [place]; rfl
  cases found with
  | hit value => exact mediated_place config s mediated id _ free present rfl (fun _ => cleared)
  | malformed => exact mediated_place config s mediated id _ free present rfl (fun _ => cleared)
  | joined => exact mediated_place config s mediated id _ free present rfl (fun _ => cleared)
  | missed => exact mediated_place config s mediated id _ free present rfl (fun _ => cleared)

theorem mediated_join_ends (s : Door V β) (mediated : Mediated config s) (id : Nat) (ending : Joined V)
    (now wall : ℚ) (guard : doorEnabled config s (.joinEnds id ending now wall)) :
    Mediated config (s.joinEnds config id ending now wall) := by
  have parts := parts_perform config s _ guard
  obtain ⟨expires, place⟩ := is_joining _ guard.1
  have free : (s.visits id).place.free = true := by rw [place]; rfl
  have present : (s.visits id).place.admitted = true := by rw [place]; rfl
  have cleared : (s.visits id).place.cleared = true := by rw [place]; rfl
  cases ending with
  | value value => exact mediated_place config s mediated id _ free present rfl (fun _ => cleared)
  | timeout => exact mediated_place config s mediated id _ free present rfl (fun _ => cleared)
  | failed failure =>
      rw [doorPerform, Door.joinEnds] at parts
      rw [Door.joinEnds]
      cases class_ : failure.exception.head.exceptionClass with
      | upstreamUnavailable =>
          rw [class_] at parts
          apply writes_moved config s _ mediated id _ parts rfl rfl rfl rfl (place_same _ _) free present rfl
          intro held
          have onward := onward_parts config s _ mediated parts
          obtain ⟨warm, ready⟩ := (mediated.visits id).cleared cleared
          exact ⟨warm, ready_by_later _ _ _ ready onward.clock⟩
      | upstreamMalformed => exact mediated_place config s mediated id _ free present rfl (fun _ => cleared)
      | valueError => exact mediated_place config s mediated id _ free present rfl (fun _ => cleared)
      | other => exact mediated_place config s mediated id _ free present rfl (fun _ => cleared)

theorem mediated_perform (s : Door V β) (event : DoorEvent V β) (mediated : Mediated config s)
    (guard : doorEnabled config s event) : Mediated config (doorPerform config s event) := by
  have parts := parts_perform config s event guard
  cases event with
  | request path apiKey query reading now =>
      exact mediated_request config s mediated path apiKey query reading now guard
  | poll id reading polledAt startedAt checkedAt =>
      obtain ⟨pollable, first, second, third⟩ := guard
      have current : s.reads.scheduler.clock ≤ checkedAt := le_trans first (le_trans second third)
      rw [doorPerform, Door.poll]
      split
      · exact mediated_polled config s mediated id _ _ _ reading polledAt checkedAt pollable current
      · exact mediated_polled config s mediated id _ _ _ reading polledAt checkedAt pollable current
      · exact mediated
  | lookup id found now => exact mediated_lookup config s mediated id found now guard.1
  | joinEnds id ending now wall => exact mediated_join_ends config s mediated id ending now wall guard
  | serve id startedAt checkedAt enqueuedAt now observedAt wall =>
      exact mediated_serve config s mediated id startedAt checkedAt enqueuedAt now observedAt wall guard
  | cancel id =>
      obtain ⟨free, present⟩ := awaits_facts _ guard
      exact mediated_place config s mediated id .cancelled free present rfl (fun cleared => by cases cleared)
  | warmedUp => exact mediated_keep config s _ mediated parts rfl rfl rfl rfl
  | reads event =>
      have later : event.begins = false := by
        cases event with
        | begin => cases guard.1
        | _ => rfl
      exact mediated_keep config s _ mediated parts rfl rfl
        (Reads.perform_same_reads config.reads s.reads event later).next rfl
  | streams event =>
      have later : event.opens = false := by
        cases event with
        | request => cases guard.1
        | _ => rfl
      exact mediated_keep config s _ mediated parts rfl rfl rfl (OrderBook.socket_same s.streams event later).next

variable (policy streamPolicy : AdmissionPolicy) (limits : Limits) (clock : ℚ) (live : Bool) (s : Door V β)
variable (reached : Door.Reachable config policy streamPolicy limits clock live s)

include reached

theorem reachable_mediated : Mediated config s := by
  apply (door V β config).reaches_invariant Set.univ (Mediated config) _ _ s reached
    (mediated_opened config policy streamPolicy limits clock live)
  intro before event _ held guard
  exact mediated_perform config before event held guard

-- Behind the door the reads and the streams go through runs of their own systems.
theorem door_reads : Reads.Reachable config.reads policy clock s.reads := by
  apply (door V β config).reaches_project (Reads.gateway V config.reads) Set.univ Set.univ Door.reads
    (fun _ => True) (fun _ _ _ _ _ => trivial) _ _ s reached trivial
  intro before event _ _ guard
  rcases (parts_perform config before event guard).reads with same | ⟨step, enabled, same⟩
  · rw [show ((door V β config).perform before event).reads = before.reads from same]
    exact .refl
  · exact .single ⟨step, trivial, enabled, same⟩

theorem door_streams : Sockets.Reachable streamPolicy limits clock s.streams := by
  apply (door V β config).reaches_project (sockets β) Set.univ Set.univ Door.streams
    (fun _ => True) (fun _ _ _ _ _ => trivial) _ _ s reached trivial
  intro before event _ _ guard
  rcases (parts_perform config before event guard).streams with same | ⟨step, enabled, same⟩
  · rw [show ((door V β config).perform before event).streams = before.streams from same]
    exact .refl
  · exact .single ⟨step, trivial, enabled, same⟩

end Runs

structure Behind (config : Configuration) (s : Door V β) (read id : Nat) (principal : InternalPrincipal)
    (asked : Asked) : Prop where
  place : (s.visits id).place = .reading read
  only : ∀ other, (s.visits other).place = .reading read → other = id
  granted : Granted config (s.visits id) principal asked
  closure : s.closures read = some asked
  operation : asked.operation = some ((s.reads.reads read).operationName, (s.reads.reads read).messages)
  priority : (s.reads.reads read).priority = principal.priorityClass
  warm : s.warm = true
  ready : (s.visits id).readyBy (s.reads.reads read).startedAt

structure Streamed (config : Configuration) (s : Door V β) (k id : Nat) (principal : InternalPrincipal)
    (symbols : List String) (venue : Venue) : Prop where
  place : (s.visits id).place = .streaming k
  only : ∀ other, (s.visits other).place = .streaming k → other = id
  granted : Granted config (s.visits id) principal (.streamOrderBook symbols venue)
  priority : s.streams.classes k = principal.priorityClass
  sent : ∀ entry ∈ (s.streams.book.connections k).sent, entry ∈ s.streams.book.store.published ∧
    entry.snapshot.venue = venue ∧ entry.snapshot.symbol ∈ symbols

section Law

variable (config : Configuration) (s : Door V β) (mediated : Mediated config s)

include mediated

theorem read_behind (read : Nat) (below : read < s.reads.next) :
    ∃ id principal asked, Behind config s read id principal asked := by
  obtain ⟨id, place⟩ := mediated.reads.owned read below
  have place : (s.visits id).place = .reading read := place
  have sound := mediated.visits id
  obtain ⟨principal, asked, granted⟩ := sound.granted (by rw [place]; rfl)
  obtain ⟨caller, wish, known, asks, closure, operation, priority, ready⟩ := sound.reading read place
  cases granted.known.symm.trans known
  cases granted.asks.symm.trans asks
  exact ⟨id, principal, asked,
    { place := place
      only := fun other same => mediated.reads.once other id read same place
      granted := granted
      closure := closure
      operation := operation
      priority := priority
      warm := (sound.cleared (by rw [place]; rfl)).1
      ready := ready }⟩

theorem stream_behind (k : Nat) (below : k < s.streams.next)
    (requested : OrderBook.Requested s.streams.book k) :
    ∃ id principal symbols venue, Streamed config s k id principal symbols venue := by
  obtain ⟨id, place⟩ := mediated.streams.owned k below
  have place : (s.visits id).place = .streaming k := place
  have sound := mediated.visits id
  obtain ⟨principal, asked, granted⟩ := sound.granted (by rw [place]; rfl)
  obtain ⟨caller, symbols, venue, known, asks, class_, opened⟩ := sound.streaming k place
  cases granted.known.symm.trans known
  cases granted.asks.symm.trans asks
  refine ⟨id, principal, symbols, venue, place, ?_, granted, class_, ?_⟩
  · exact fun other same => mediated.streams.once other id k same place
  · intro entry member
    obtain ⟨published, here, named⟩ := OrderBook.requested_kept s.streams.book k requested entry (.inl member)
    rw [opened.venue] at here
    rw [opened.symbols] at named
    exact ⟨published, here, named⟩

end Law

-- Nothing is read from Schwab, queued, streamed or answered but for one request
-- of a caller with a known key and the capability, as the caller asked for it
-- and in the caller's class, and no read starts and no value is served before
-- the gateway was warm and READY.
theorem market_data_mediated (config : Configuration) (policy streamPolicy : AdmissionPolicy) (limits : Limits)
    (clock : ℚ) (live : Bool) (s : Door V β)
    (reached : Door.Reachable config policy streamPolicy limits clock live s) :
    (∀ job, job < s.reads.scheduler.next → ∃ id principal asked,
      Behind config s (s.reads.owner job) id principal asked ∧
        (s.reads.scheduler.admitted job → (s.reads.scheduler.jobs job).priority = principal.priorityClass)) ∧
    (∀ build ∈ s.reads.builds, build.job < s.reads.scheduler.next ∧ build.read = s.reads.owner build.job) ∧
    (∀ read value, (s.reads.reads read).stage = .answered (.json value) →
      ∃ id principal asked, Behind config s read id principal asked) ∧
    (∀ k, k < s.streams.next → ∃ id principal symbols venue, Streamed config s k id principal symbols venue) ∧
    (∀ id reply, (s.visits id).place = .answered reply → reply.serves = true →
      ∃ principal asked, Granted config (s.visits id) principal asked) ∧
    (∀ id value, (s.visits id).place = .answered (.answer (.json value)) →
      s.warm = true ∧ (s.visits id).readyBy s.reads.scheduler.clock) := by
  have mediated := reachable_mediated config policy streamPolicy limits clock live s reached
  have reads := door_reads config policy streamPolicy limits clock live s reached
  have streams := door_streams config policy streamPolicy limits clock live s reached
  obtain ⟨_, budgets⟩ := Reads.budgets_reachable config.reads policy clock s.reads reads
  have classed := Reads.classed_reachable config.reads policy clock s.reads reads
  have book := OrderBook.sockets_refine streamPolicy limits clock s.streams streams
  refine ⟨?_, ?_, ?_, ?_, ?_, ?_⟩
  · intro job below
    obtain ⟨id, principal, asked, behind⟩ := read_behind config s mediated _ (budgets.owner job below).1
    refine ⟨id, principal, asked, behind, ?_⟩
    intro admitted
    exact (classed job below admitted).trans behind.priority
  · intro build member
    obtain ⟨below, own, _⟩ := budgets.built build member
    exact ⟨below, own⟩
  · intro read value answered
    apply read_behind config s mediated read
    by_contra late
    rw [budgets.unused read (not_lt.mp late)] at answered
    cases answered
  · intro k below
    exact stream_behind config s mediated k below (OrderBook.reachable_requested limits clock s.streams.book book k)
  · intro id reply answered serves
    exact (mediated.visits id).granted (by rw [answered]; exact serves)
  · intro id value answered
    exact (mediated.visits id).cleared (by rw [answered]; rfl)

def sampleConfiguration : Configuration where
  sha256 := sampleSha256
  unicode := asciiUnicode
  authenticator := sampleAuthenticator
  reads := Reads.sampleSettings
  maxAge := OrderBook.fifteenSeconds
  chainCache := true
  sessionCache := true

-- The first request finds the gateway cold and then ready, and is answered; the
-- second one has no key.
def doorEvents : List (DoorEvent Nat Nat) :=
  [.request "/v1/spot" existingKey [("symbol", "spy")] (some .ready) 0, .poll 0 (some .ready) 0 0 0,
    .request "/v1/spot" [] [("symbol", "spy")] (some .ready) 0, .warmedUp,
    .poll 0 (some .ready) (1 / 100) (1 / 100) (1 / 100),
    .serve 0 (1 / 50) (1 / 50) (1 / 50) (1 / 50) (1 / 50) 0,
    .reads (.advance (.startLifecycle 0 (1 / 50) (1 / 50))), .reads (.startOperation 0 (1 / 50) (1 / 50)),
    .reads (.finishBuild 0 (.value 7) (1 / 2) 0 (1 / 2)), .reads (.advance (.wakeLifecycle 0 (1 / 2))),
    .reads (.resume 0 0 .first (1 / 2) (1 / 2) 0)]

def doorState : Door Nat Nat :=
  (door Nat Nat sampleConfiguration).performAll
    (Door.opened Scheduler.samplePolicy OrderBook.samplePolicy OrderBook.sampleLimits 0 true) doorEvents

theorem market_data_mediated_spot :
    (doorState.reads.reads 0).stage = .answered (.json 7) ∧ (doorState.visits 0).asked = some (.spot "SPY") ∧
      (doorState.reads.scheduler.jobs 0).priority = .protected ∧
      ∃ id principal asked, Behind sampleConfiguration doorState 0 id principal asked := by
  have reached : Door.Reachable sampleConfiguration Scheduler.samplePolicy OrderBook.samplePolicy
      OrderBook.sampleLimits 0 true doorState :=
    System.reaches_perform_all (door Nat Nat sampleConfiguration) Set.univ _ doorEvents (fun _ _ => trivial)
      (by decide +kernel)
  have answered : (doorState.reads.reads 0).stage = .answered (.json 7) := by decide +kernel
  have law := (market_data_mediated sampleConfiguration Scheduler.samplePolicy OrderBook.samplePolicy
    OrderBook.sampleLimits 0 true doorState reached).2.2.1 0 7 answered
  exact ⟨answered, by decide +kernel, by decide +kernel, law⟩

end SchwabGateway.Api
