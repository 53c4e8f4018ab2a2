import SchwabGateway.Token.Manager
import SchwabGateway.Token.Write

set_option autoImplicit false

namespace SchwabGateway.Token

open SchwabGateway.Python

variable (codec : Codec) (maxTokenBytes : Nat) (fault : Option Fault)

def WriteAtomic (token : PyValue) (entry : Option Entry) : Prop :=
  ∀ error after, write codec fault token ⟨entry, none⟩ = (.error error, after) →
    (∃ message, error = .token (.persistence message)) ∧ after = ⟨entry, none⟩

def ViewAtomic (token : PyValue) (entry : Option Entry) : Prop :=
  ∀ current, read codec maxTokenBytes ⟨entry, none⟩ = .ok current →
    ∀ error written, Callbacks.write codec fault ⟨some current⟩ token ⟨entry, none⟩ = written →
      written.outcome.result = .error error →
        written.callbacks.read = read codec maxTokenBytes written.outcome.disk

def WriteAllOrNothing (token : PyValue) (entry : Option Entry) : Prop :=
  WriteAtomic codec fault token entry ∧ ViewAtomic codec maxTokenBytes fault token entry

-- Serialization stays within the recursion limit when it is reached, and no
-- call that syncs the directory fails once the rename has changed the file.
structure Undisturbed (token : PyValue) (entry : Option Entry) : Prop where
  shallow : codec.dump token = .error .recursionError → strikes fault .creating = true
  synced : strikes fault .syncing = true → ∀ content, codec.dump token = .ok content →
    entry = some .directory ∨ entry = some (.regular ownerOnly content)

theorem write_undisturbed (token : PyValue) (entry : Option Entry) (error : Exception)
    (after : Directory) (undisturbed : Undisturbed codec fault token entry)
    (raised : write codec fault token ⟨entry, none⟩ = (.error error, after)) :
    error = .token (.persistence notPersisted) ∧ after = ⟨entry, none⟩ := by
  by_cases committed : ∃ content, Commits codec fault token entry content
  · obtain ⟨content, commits⟩ := committed
    cases synced : strikes fault .syncing with
    | false =>
        rw [write_returns codec fault token entry content commits synced] at raised
        cases raised
    | true =>
        rw [write_unsynced codec fault token entry content commits synced] at raised
        cases undisturbed.synced synced content commits.dumped with
        | inl directory => exact absurd directory commits.file
        | inr same =>
            cases raised
            exact ⟨rfl, by rw [same]⟩
  · have notDeep : strikes fault .creating = false → codec.dump token ≠ .error .recursionError := by
      intro created deep
      rw [undisturbed.shallow deep] at created
      cases created
    have nothing := write_uncommitted codec fault token entry notDeep
      (fun content commits => committed ⟨content, commits⟩)
    rw [nothing] at raised
    cases raised
    exact ⟨rfl, rfl⟩

theorem undisturbed_of_atomic (token : PyValue) (entry : Option Entry)
    (atomic : WriteAtomic codec fault token entry) : Undisturbed codec fault token entry where
  shallow deep := by
    cases created : strikes fault .creating with
    | true => rfl
    | false =>
        have raised := write_too_deep codec fault token entry created deep
        obtain ⟨⟨message, reported⟩, _⟩ := atomic _ _ raised
        cases reported
  synced struck content dumped := by
    by_cases file : entry = some .directory
    · exact .inl file
    · have commits : Commits codec fault token entry content :=
        ⟨strikes_one fault .syncing .creating struck nofun, dumped,
          strikes_one fault .syncing .filling struck nofun,
          strikes_one fault .syncing .replacing struck nofun, file⟩
      have raised := write_unsynced codec fault token entry content commits struck
      obtain ⟨_, same⟩ := atomic _ _ raised
      exact .inr (congrArg Directory.token same).symm

theorem scoped_write_raises (callbacks : Callbacks) (token : PyValue) (disk : Directory)
    (error : Exception)
    (raised : (callbacks.write codec fault token disk).outcome.result = .error error) :
    (callbacks.write codec fault token disk).callbacks = callbacks ∧
      ((callbacks.write codec fault token disk).outcome.disk = disk ∨
        validateTokenDocument codec token = .ok token ∧
        write codec fault token disk =
          (.error error, (callbacks.write codec fault token disk).outcome.disk)) := by
  unfold Callbacks.write at raised ⊢
  cases active : callbacks.current with
  | none => exact ⟨rfl, .inl rfl⟩
  | some current =>
      simp only [active, Outcome.after] at raised ⊢
      unfold persistScoped at raised ⊢
      cases valid : validateTokenDocument codec token with
      | error invalid => exact ⟨rfl, .inl rfl⟩
      | ok refreshed =>
          have same := validate_returns_value codec token refreshed valid
          subst same
          simp only [valid] at raised ⊢
          cases persisted : write codec fault refreshed disk with
          | mk result after =>
              cases result with
              | ok done => simp only [persisted] at raised; cases raised
              | error failure =>
                  cases failure <;>
                    simp only [persisted, Except.error.injEq] at raised ⊢ <;>
                      simp [raised]

theorem view_undisturbed (token : PyValue) (entry : Option Entry)
    (undisturbed : Undisturbed codec fault token entry) :
    ViewAtomic codec maxTokenBytes fault token entry := by
  intro current shown error written rfl raised
  obtain ⟨kept, untouched⟩ := scoped_write_raises codec fault ⟨some current⟩ token _ error raised
  have same : (Callbacks.write codec fault ⟨some current⟩ token ⟨entry, none⟩).outcome.disk =
      ⟨entry, none⟩ := by
    cases untouched with
    | inl untouched => exact untouched
    | inr failed =>
        exact (write_undisturbed codec fault token entry error _ undisturbed failed.2).2
  rw [kept, same, shown]
  rfl

theorem write_all_or_nothing_iff (token : PyValue) (entry : Option Entry) :
    WriteAllOrNothing codec maxTokenBytes fault token entry ↔
      Undisturbed codec fault token entry := by
  constructor
  · intro atomic
    exact undisturbed_of_atomic codec fault token entry atomic.1
  · intro undisturbed
    constructor
    · intro error after raised
      obtain ⟨reported, same⟩ :=
        write_undisturbed codec fault token entry error after undisturbed raised
      exact ⟨⟨notPersisted, reported⟩, same⟩
    · exact view_undisturbed codec maxTokenBytes fault token entry undisturbed

def sampleToken (stamp : Nat) : PyValue :=
  .dict [(.str "creation_timestamp", .int stamp),
    (.str "token", .dict [(.str "access_token", .str "a"), (.str "refresh_token", .str "r")])]

def sampleContent (stamp : Nat) : Bytes :=
  ("\x7b\"creation_timestamp\":" ++ Nat.repr stamp ++
    ",\"token\":\x7b\"access_token\":\"a\",\"refresh_token\":\"r\"\x7d\x7d\n").toList.map
      (fun char => UInt8.ofNat char.toNat)

def sampleFile (stamp : Nat) : Option Entry := some (.regular ownerOnly (sampleContent stamp))

def sampleCodec : Codec where
  dumps _ := true
  dump value :=
    match value with
    | .dict ((_, .int (.ofNat stamp)) :: _) => .ok (sampleContent stamp)
    | _ => .error .typeError
  load content :=
    if content = sampleContent 1 then .ok (sampleToken 1)
    else if content = sampleContent 2 then .ok (sampleToken 2)
    else if content = sampleContent 3 then .ok (sampleToken 3)
    else .error .invalid

theorem sample_valid (stamp : Nat) (positive : 0 < stamp) (small : stamp < floatLimit) :
    validateTokenDocument sampleCodec (sampleToken stamp) = .ok (sampleToken stamp) := by
  have double : floatOfInt (stamp : Int) = .ok (.finite (roundDouble (stamp : Int))) := by
    simp only [floatOfInt, Int.natAbs_natCast, if_pos small]
  have dated : creationTimestamp (.int stamp) = .ok (roundDouble (stamp : Int)) := by
    simp only [creationTimestamp, double]
    exact if_neg (by omega)
  simp [validateTokenDocument, sampleToken, PyValue.get, dated, nonemptyText, sampleCodec]

-- EIO from the fsync of the directory: the rename has been made, the caller is
-- told that the document could not be persisted, and the callbacks of the
-- transaction go on showing the old one.
theorem directory_fsync_loses_view :
    write sampleCodec (some ⟨.directoryFsync, 5⟩) (sampleToken 2) ⟨sampleFile 1, none⟩ =
        (failedWrite, ⟨sampleFile 2, none⟩) ∧
      read sampleCodec 1048576 ⟨sampleFile 2, none⟩ = .ok (sampleToken 2) ∧
      (Callbacks.write sampleCodec (some ⟨.directoryFsync, 5⟩) ⟨some (sampleToken 1)⟩
        (sampleToken 2) ⟨sampleFile 1, none⟩).callbacks.read = .ok (sampleToken 1) ∧
      ¬ WriteAllOrNothing sampleCodec 1048576 (some ⟨.directoryFsync, 5⟩) (sampleToken 2)
        (sampleFile 1) := by
  have different : sampleFile 1 ≠ sampleFile 2 := by decide +kernel
  have valid := sample_valid 2 (by omega) (by decide +kernel)
  refine ⟨rfl, ?_, by simp only [Callbacks.write, persistScoped, valid]; rfl, ?_⟩
  · have second : sampleContent 2 ≠ sampleContent 1 := by decide +kernel
    have loaded : sampleCodec.load (sampleContent 2) = .ok (sampleToken 2) :=
      by simp [sampleCodec, second]
    have fits : ¬ (sampleContent 2).length > 1048576 := by decide +kernel
    simp [read, sampleFile, loaded, fits]
  · intro atomic
    obtain ⟨_, same⟩ := atomic.1 _ _ rfl
    exact different (congrArg Directory.token same).symm

end SchwabGateway.Token
