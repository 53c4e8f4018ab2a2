import SchwabGateway.Token.Store

set_option autoImplicit false

namespace SchwabGateway.Token

open SchwabGateway.Python SchwabGateway.Library

variable (codec : Codec) (fault : Option Fault)

-- The parts of a write that its calls belong to: the file is created, it is
-- filled, it takes the token's place, and the directory is synced.
inductive Part where
  | creating
  | filling
  | replacing
  | syncing
deriving DecidableEq

def Call.part : Call → Part
  | .mkstemp | .fchmod | .fdopen | .serialization => .creating
  | .write | .flush | .fileFsync | .fileClose => .filling
  | .replace => .replacing
  | .directoryOpen | .directoryFsync | .directoryClose => .syncing

def Fault.tolerated (failing : Fault) : Bool :=
  failing.call = .directoryFsync && failing.errno ∈ toleratedErrnos

def strikes (part : Part) : Bool :=
  match fault with
  | some failing => failing.call.part = part && !failing.tolerated
  | none => false

theorem strikes_fault (part : Part) (struck : strikes fault part = true) :
    ∃ failing, fault = some failing ∧ failing.call.part = part ∧ failing.tolerated = false := by
  cases fault with
  | none => cases struck
  | some failing => simpa [strikes] using struck

theorem attempt_quiet (call : Call) (calm : strikes fault call.part = false)
    (notFsync : call ≠ .directoryFsync) : attempt fault call = .ok () := by
  cases fault with
  | none => rfl
  | some failing =>
      have other : failing.call ≠ call := by
        intro same
        subst same
        simp [strikes, Fault.tolerated, notFsync] at calm
      exact if_neg other

theorem perform_quiet (call : Call) (effect : Directory → Directory) (disk : Directory)
    (calm : strikes fault call.part = false) (notFsync : call ≠ .directoryFsync) :
    perform fault call effect disk = (.ok (), effect disk) := by
  simp only [perform, attempt_quiet fault call calm notFsync]

theorem fsync_directory_quiet (calm : strikes fault .syncing = false) :
    fsyncDirectory fault = .ok () := by
  cases fault with
  | none => rfl
  | some failing =>
      cases failing with
      | mk call errno =>
          cases call <;>
            simp_all [strikes, Call.part, Fault.tolerated, fsyncDirectory, attempt, tolerate, bind, Except.bind]

theorem fsync_directory_struck (struck : strikes fault .syncing = true) :
    ∃ errno, fsyncDirectory fault = .error (.osError errno) := by
  obtain ⟨failing, rfl, part, heeded⟩ := strikes_fault fault .syncing struck
  cases failing with
  | mk call errno =>
      refine ⟨errno, ?_⟩
      cases call <;>
        simp_all [Call.part, Fault.tolerated, fsyncDirectory, attempt, tolerate, bind, Except.bind]

theorem prepare_creating (token : PyValue) (disk : Directory)
    (struck : strikes fault .creating = true) :
    ∃ errno after, prepare codec fault token disk = (.error (.osError errno), after) ∧
      after.token = disk.token := by
  obtain ⟨failing, rfl, part, heeded⟩ := strikes_fault fault .creating struck
  cases failing with
  | mk call errno =>
      cases call <;> first | exact ⟨errno, _, rfl, rfl⟩ | cases part

theorem prepare_created (token : PyValue) (disk : Directory)
    (calm : strikes fault .creating = false) :
    prepare codec fault token disk =
      (do
        let content ← serialize codec token
        perform fault .write (Directory.withTemporary content)
        perform fault .flush id
        perform fault .fileFsync id
        perform fault .fileClose id) (disk.withTemporary []) := by
  unfold prepare
  rw [Attempt.bind_returns _ _ _ _ () (perform_quiet fault .mkstemp _ disk calm nofun)]
  rw [Attempt.bind_returns _ _ _ _ () (perform_quiet fault .fchmod id _ calm nofun)]
  rw [Attempt.bind_returns _ _ _ _ () (perform_quiet fault .fdopen id _ calm nofun)]
  rw [Attempt.bind_returns _ _ _ _ () (perform_quiet fault .serialization id _ calm nofun)]
  rfl

theorem serialize_dumped (token : PyValue) (content : Bytes) (disk : Directory)
    (dumped : codec.dump token = .ok content) :
    serialize codec token disk = (.ok content, disk) := by
  simp only [serialize, dumped]

theorem prepare_unserializable (token : PyValue) (disk : Directory) (error : DumpError)
    (calm : strikes fault .creating = false) (dumped : codec.dump token = .error error) :
    prepare codec fault token disk = (.error (raisedBy error), disk.withTemporary []) := by
  rw [prepare_created codec fault token disk calm]
  apply Attempt.bind_raises
  simp only [serialize, dumped]

theorem prepare_filling (token : PyValue) (disk : Directory) (content : Bytes)
    (calm : strikes fault .creating = false) (dumped : codec.dump token = .ok content)
    (struck : strikes fault .filling = true) :
    ∃ errno after, prepare codec fault token disk = (.error (.osError errno), after) ∧
      after.token = disk.token := by
  rw [prepare_created codec fault token disk calm]
  rw [Attempt.bind_returns _ _ _ _ content (serialize_dumped codec token content _ dumped)]
  obtain ⟨failing, rfl, part, heeded⟩ := strikes_fault fault .filling struck
  cases failing with
  | mk call errno =>
      cases call <;> first | exact ⟨errno, _, rfl, rfl⟩ | cases part

theorem prepare_done (token : PyValue) (disk : Directory) (content : Bytes)
    (calm : strikes fault .creating = false) (dumped : codec.dump token = .ok content)
    (filled : strikes fault .filling = false) :
    prepare codec fault token disk = (.ok (), disk.withTemporary content) := by
  rw [prepare_created codec fault token disk calm]
  rw [Attempt.bind_returns _ _ _ _ content (serialize_dumped codec token content _ dumped)]
  rw [Attempt.bind_returns _ _ _ _ () (perform_quiet fault .write _ _ filled nofun)]
  rw [Attempt.bind_returns _ _ _ _ () (perform_quiet fault .flush id _ filled nofun)]
  rw [Attempt.bind_returns _ _ _ _ () (perform_quiet fault .fileFsync id _ filled nofun)]
  exact perform_quiet fault .fileClose id _ filled nofun

theorem replace_quiet (disk : Directory) (calm : strikes fault .replacing = false)
    (file : disk.token ≠ some .directory) :
    replace fault disk = (.ok (), ⟨disk.temporary, none⟩) := by
  unfold replace
  rw [attempt_quiet fault .replace calm nofun]
  cases disk with
  | mk token temporary =>
      cases token with
      | none => rfl
      | some entry =>
          cases entry with
          | directory => exact absurd rfl file
          | regular mode content => rfl
          | special => rfl
          | symlink => rfl

theorem replace_fails (disk : Directory)
    (struck : strikes fault .replacing = true ∨ disk.token = some .directory) :
    ∃ errno, replace fault disk = (.error (.osError errno), disk) := by
  unfold replace
  cases struck with
  | inl struck =>
      obtain ⟨failing, rfl, part, heeded⟩ := strikes_fault fault .replacing struck
      cases failing with
      | mk call errno => cases call <;> first | exact ⟨errno, rfl⟩ | cases part
  | inr directory =>
      rw [directory]
      cases fault with
      | none => exact ⟨21, rfl⟩
      | some failing =>
          by_cases here : failing.call = .replace
          · exact ⟨failing.errno, by simp only [attempt, if_pos here]⟩
          · exact ⟨21, by simp only [attempt, if_neg here]⟩

def failedWrite : Except Exception Unit := .error (.token (.persistence notPersisted))

theorem write_raises (token : PyValue) (disk after : Directory) (errno : Nat)
    (raised : persist codec fault token disk = (.error (.osError errno), after)) :
    write codec fault token disk = (failedWrite, { after with temporary := none }) := by
  simp only [write, raised]
  rfl

theorem strikes_one (part other : Part) (struck : strikes fault part = true)
    (different : part ≠ other) : strikes fault other = false := by
  obtain ⟨failing, rfl, here, heeded⟩ := strikes_fault fault part struck
  simp [strikes, here, different]

structure Commits (token : PyValue) (entry : Option Entry) (content : Bytes) : Prop where
  created : strikes fault .creating = false
  dumped : codec.dump token = .ok content
  filled : strikes fault .filling = false
  replaced : strikes fault .replacing = false
  file : entry ≠ some .directory

theorem write_commits (token : PyValue) (entry : Option Entry) (content : Bytes)
    (commits : Commits codec fault token entry content) :
    persist codec fault token ⟨entry, none⟩ =
      (fsyncDirectory fault, ⟨some (.regular ownerOnly content), none⟩) := by
  have prepared := prepare_done codec fault token ⟨entry, none⟩ content commits.created
    commits.dumped commits.filled
  have renamed := replace_quiet fault (Directory.withTemporary content ⟨entry, none⟩)
    commits.replaced commits.file
  unfold persist
  rw [Attempt.bind_returns _ _ _ _ () prepared]
  rw [Attempt.bind_returns _ _ _ _ () renamed]
  rfl

theorem write_returns (token : PyValue) (entry : Option Entry) (content : Bytes)
    (commits : Commits codec fault token entry content) (synced : strikes fault .syncing = false) :
    write codec fault token ⟨entry, none⟩ =
      (.ok (), ⟨some (.regular ownerOnly content), none⟩) := by
  simp only [write, write_commits codec fault token entry content commits,
    fsync_directory_quiet fault synced]

theorem write_unsynced (token : PyValue) (entry : Option Entry) (content : Bytes)
    (commits : Commits codec fault token entry content) (struck : strikes fault .syncing = true) :
    write codec fault token ⟨entry, none⟩ =
      (failedWrite, ⟨some (.regular ownerOnly content), none⟩) := by
  obtain ⟨errno, raised⟩ := fsync_directory_struck fault struck
  apply write_raises codec fault token _ ⟨some (.regular ownerOnly content), none⟩ errno
  rw [write_commits codec fault token entry content commits, raised]

theorem write_too_deep (token : PyValue) (entry : Option Entry)
    (created : strikes fault .creating = false) (deep : codec.dump token = .error .recursionError) :
    write codec fault token ⟨entry, none⟩ = (.error .recursionError, ⟨entry, none⟩) := by
  have prepared := prepare_unserializable codec fault token ⟨entry, none⟩ _ created deep
  have raised : persist codec fault token ⟨entry, none⟩ = _ :=
    Attempt.bind_raises _ _ _ _ _ prepared
  simp only [write, raised]
  rfl

theorem write_prepare_raises (token : PyValue) (entry : Option Entry) (error : Exception)
    (after : Directory) (kept : after.token = entry)
    (reports : reported error = .token (.persistence notPersisted))
    (raised : prepare codec fault token ⟨entry, none⟩ = (.error error, after)) :
    write codec fault token ⟨entry, none⟩ = (failedWrite, ⟨entry, none⟩) := by
  have stopped : persist codec fault token ⟨entry, none⟩ = (.error error, after) :=
    Attempt.bind_raises _ _ _ _ _ raised
  subst kept
  simp only [write, stopped, reports]
  rfl

theorem write_uncommitted (token : PyValue) (entry : Option Entry)
    (notDeep : strikes fault .creating = false → codec.dump token ≠ .error .recursionError)
    (uncommitted : ∀ content, ¬ Commits codec fault token entry content) :
    write codec fault token ⟨entry, none⟩ = (failedWrite, ⟨entry, none⟩) := by
  cases created : strikes fault .creating with
  | true =>
      obtain ⟨errno, after, raised, kept⟩ :=
        prepare_creating codec fault token ⟨entry, none⟩ created
      exact write_prepare_raises codec fault token entry _ after kept rfl raised
  | false =>
      cases dumped : codec.dump token with
      | error error =>
          have raised := prepare_unserializable codec fault token ⟨entry, none⟩ error created dumped
          cases error with
          | typeError => exact write_prepare_raises codec fault token entry _ _ rfl rfl raised
          | valueError => exact write_prepare_raises codec fault token entry _ _ rfl rfl raised
          | recursionError => exact absurd dumped (notDeep created)
      | ok content =>
          cases filled : strikes fault .filling with
          | true =>
              obtain ⟨errno, after, raised, kept⟩ :=
                prepare_filling codec fault token ⟨entry, none⟩ content created dumped filled
              exact write_prepare_raises codec fault token entry _ after kept rfl raised
          | false =>
              have prepared :=
                prepare_done codec fault token ⟨entry, none⟩ content created dumped filled
              have blocked : strikes fault .replacing = true ∨ entry = some .directory := by
                by_contra free
                have calm : strikes fault .replacing = false := by simpa using fun h => free (.inl h)
                exact uncommitted content
                  ⟨created, dumped, filled, calm, fun directory => free (.inr directory)⟩
              obtain ⟨errno, failed⟩ :=
                replace_fails fault (Directory.withTemporary content ⟨entry, none⟩) blocked
              apply write_raises codec fault token _ (Directory.withTemporary content ⟨entry, none⟩) errno
              unfold persist
              rw [Attempt.bind_returns _ _ _ _ () prepared]
              exact Attempt.bind_raises _ _ _ _ _ failed

end SchwabGateway.Token
