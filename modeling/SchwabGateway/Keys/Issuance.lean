import Mathlib.Logic.Function.Basic
import SchwabGateway.Keys.Append
import SchwabGateway.Library.Cleanup

set_option autoImplicit false

namespace SchwabGateway.Keys

open SchwabGateway.Python SchwabGateway.Library

def outputExists : String := "output path already exists; choose a new output path"
def plaintextExists : String := "plaintext output path already exists; choose a new output path"

-- What a path leads to. Neither a directory nor a link to nothing can be
-- opened, and such a link does not exist for Path.exists.
inductive Entry (Content : Type) where
  | regular (mode : Nat) (content : Content)
  | directory
  | dangling

abbrev Files (Path Content : Type) := Path → Option (Entry Content)

def Entry.found {Content : Type} : Option (Entry Content) → Bool
  | some (.regular _ _) | some .directory => true
  | some .dangling | none => false

-- json.dump with its options and json.load. Nothing of a document that makes
-- an authenticator is lost on the way.
structure KeysCodec (Content : Type) where
  empty : Content
  dump : PyValue → Content
  plaintext : Text → Content
  parse : Content → Parsed
  reload : ∀ document authenticator, fromDocument document = .ok authenticator →
    ∃ payload, parse (dump document) = .value payload ∧ fromDocument payload = .ok authenticator

inductive KeyFile where
  | existingInput
  | output
  | plaintextOutput
deriving DecidableEq

inductive Line where
  | distribute
  | key
  | notPrinted
  | added
deriving DecidableEq

-- The calls of main after the arguments are parsed, each made at most once.
inductive IssueCall where
  | exists (file : KeyFile)
  | openRead (file : KeyFile)
  | stat (file : KeyFile)
  | load (file : KeyFile)
  | closeRead (file : KeyFile)
  | create (file : KeyFile)
  | fchmod (file : KeyFile)
  | fdopen (file : KeyFile)
  | write (file : KeyFile)
  | close (file : KeyFile)
  | unlink (file : KeyFile)
  | print (line : Line)
deriving DecidableEq

-- createdMode is 0o600 less the umask, torn what is in a file before it is
-- closed, and key the key if one is generated.
structure IssueAnswers (Content : Type) where
  fails : IssueCall → Bool
  createdMode : Nat
  torn : KeyFile → Content → Content
  key : GeneratedKey

structure Arguments (Path : Type) where
  existingInput : Option Path
  output : Path
  plaintextOutput : Option Path
  applicationId : String
  capability : String
  priority : PriorityClass

-- How main ends if it does not return: by parser.error, which names the
-- exception that was caught, or by an exception that nothing catches.
inductive Exit where
  | parserError (message : String)
  | reported (error : KeysError)
  | raised (error : KeysError)
deriving DecidableEq

-- failed says whether a step has raised an OSError or a ValueError.
structure Issuing (Path Content : Type) where
  files : Files Path Content
  digestWritten : Bool
  plaintextWritten : Bool
  failed : Bool

def Issuing.start {Path Content : Type} (files : Files Path Content) : Issuing Path Content :=
  ⟨files, false, false, false⟩

section Code

variable {Path Content α : Type} [DecidableEq Path] (sha256 : Sha256) (codec : KeysCodec Content)
  (answers : IssueAnswers Content) (arguments : Arguments Path)

abbrev IssueAction (Path Content α : Type) := Attempt Exit (Issuing Path Content) α

def Issuing.put (path : Path) (entry : Option (Entry Content)) (state : Issuing Path Content) :
    Issuing Path Content :=
  { state with files := Function.update state.files path entry }

def Issuing.fail (state : Issuing Path Content) : Issuing Path Content := { state with failed := true }

def step (result : Files Path Content → Except KeysError α) : IssueAction Path Content α := fun state =>
  match result state.files with
  | .ok value => (.ok value, state)
  | .error error => (.error (.raised error), state.fail)

def issueCall (call : IssueCall) : IssueAction Path Content Unit :=
  step (fun _ => if answers.fails call then .error .osError else .ok ())

def putEntry (path : Path) (mode : Nat) (content : Content) : IssueAction Path Content Unit :=
  Attempt.update (Issuing.put path (some (.regular mode content)))

def keysFile (file : KeyFile) (path : Path) (files : Files Path Content) : KeysFile :=
  match files path with
  | some (.regular mode content) =>
      if answers.fails (.openRead file) then .unopenable
      else if answers.fails (.stat file) || answers.fails (.closeRead file) then .failing
      else .opened mode (if answers.fails (.load file) then .unparsable else codec.parse content)
  | _ => .unopenable

-- O_CREAT with O_EXCL.
def createFile (file : KeyFile) (path : Path) : IssueAction Path Content Unit := do
  issueCall answers (.create file)
  step (fun files => if (files path).isSome then .error .osError else .ok ())
  putEntry path answers.createdMode codec.empty

-- write_private_json and write_private_text. The with block closes the file on
-- both ways out; nothing takes it away again.
def writePrivate (file : KeyFile) (path : Path) (content : Content) : IssueAction Path Content Unit := do
  createFile codec answers file path
  issueCall answers (.fchmod file)
  putEntry path 0o600 codec.empty
  issueCall answers (.fdopen file)
  putEntry path 0o600 (answers.torn file content)
  (issueCall answers (.write file)).ensuring (issueCall answers (.close file))
  putEntry path 0o600 content

def unlinkFile (file : KeyFile) (path : Path) : IssueAction Path Content Unit := do
  issueCall answers (.unlink file)
  Attempt.update (Issuing.put path none)

def issuedDocument (files : Files Path Content) : Except KeysError (PyValue × GeneratedKey) :=
  match arguments.existingInput with
  | none =>
      buildKeysDocument sha256 arguments.applicationId arguments.capability arguments.priority answers.key
  | some path =>
      appendKeysDocument sha256 (keysFile codec answers .existingInput path files) arguments.applicationId
        arguments.capability arguments.priority answers.key

def fromFile (file : KeyFile) (path : Path) (files : Files Path Content) : Except KeysError InternalKeyAuthenticator :=
  (loadFile (keysFile codec answers file path files)).map Prod.fst

-- The try block, from where the output is written.
def finish (plaintext : GeneratedKey) : IssueAction Path Content Unit := do
  let _ ← step (fromFile codec answers .output arguments.output)
  match arguments.plaintextOutput with
  | none => pure ()
  | some path => do
      writePrivate codec answers .plaintextOutput path (codec.plaintext plaintext.text)
      Attempt.update (fun state => { state with plaintextWritten := true })

def issue : IssueAction Path Content Unit := do
  let (document, plaintext) ← step (issuedDocument sha256 codec answers arguments)
  writePrivate codec answers .output arguments.output (codec.dump document)
  Attempt.update (fun state => { state with digestWritten := true })
  finish codec answers arguments plaintext

-- The except clause.
def recover : Exit → IssueAction Path Content Unit
  | .raised error => do
      Attempt.guarded Issuing.digestWritten (unlinkFile answers .output arguments.output)
      match arguments.plaintextOutput with
      | none => pure ()
      | some path => Attempt.guarded Issuing.plaintextWritten (unlinkFile answers .plaintextOutput path)
      Attempt.raising (.reported error)
  | other => Attempt.raising other

def checkAbsent (file : KeyFile) (path : Path) (message : String) : IssueAction Path Content Unit := do
  issueCall answers (.exists file)
  Attempt.reading (fun state => if Entry.found (state.files path) then .error (.parserError message) else .ok ())

def announceKey : IssueAction Path Content Unit :=
  match arguments.plaintextOutput with
  | none => do
      issueCall answers (.print .distribute)
      issueCall answers (.print .key)
  | some _ => issueCall answers (.print .notPrinted)

def announce : IssueAction Path Content Unit := do
  announceKey answers arguments
  issueCall answers (.print .added)

def main : IssueAction Path Content Unit := do
  checkAbsent answers .output arguments.output outputExists
  match arguments.plaintextOutput with
  | none => pure ()
  | some path => checkAbsent answers .plaintextOutput path plaintextExists
  (issue sha256 codec answers arguments).rescuing (recover answers arguments)
  announce answers arguments

end Code

section Conditions

variable {Path Content : Type} [DecidableEq Path] (sha256 : Sha256) (codec : KeysCodec Content)
  (answers : IssueAnswers Content) (arguments : Arguments Path) (files : Files Path Content)

def IssueAnswers.absent (file : KeyFile) (path : Path) : Bool :=
  !answers.fails (.exists file) && !Entry.found (files path)

def begins : Bool :=
  answers.absent files .output arguments.output &&
    match arguments.plaintextOutput with
    | none => true
    | some path => answers.absent files .plaintextOutput path

def built : Bool := (issuedDocument sha256 codec answers arguments files).isOk

def IssueAnswers.creates (file : KeyFile) (path : Path) : Bool :=
  !answers.fails (.create file) && (files path).isNone

def IssueAnswers.fills (file : KeyFile) : Bool :=
  !answers.fails (.fchmod file) && !answers.fails (.fdopen file) && !answers.fails (.write file) &&
    !answers.fails (.close file)

def IssueAnswers.reads (file : KeyFile) : Bool :=
  !answers.fails (.openRead file) && !answers.fails (.stat file) && !answers.fails (.closeRead file) &&
    !answers.fails (.load file)

def plaintextCreated : Bool :=
  match arguments.plaintextOutput with
  | none => true
  | some path => answers.creates files .plaintextOutput path && path ≠ arguments.output

def plaintextFilled : Bool :=
  match arguments.plaintextOutput with
  | none => true
  | some _ => answers.fills .plaintextOutput

def keyAnnounced : Bool :=
  match arguments.plaintextOutput with
  | none => !answers.fails (.print .distribute) && !answers.fails (.print .key)
  | some _ => !answers.fails (.print .notPrinted)

def announced : Bool := keyAnnounced answers arguments && !answers.fails (.print .added)

-- Once the output is created, it must be filled. Then the file can be read back
-- and the plaintext file created, filled and announced, or else the output is
-- to be taken away again.
def cleansUp : Bool :=
  !(begins answers arguments files && built sha256 codec answers arguments files &&
      answers.creates files .output arguments.output) ||
    (answers.fills .output &&
      if answers.reads .output && plaintextCreated answers arguments files then
        plaintextFilled answers arguments && announced answers arguments
      else !answers.fails (.unlink .output))

end Conditions

section Steps

variable {Path Content α : Type} (codec : KeysCodec Content) (answers : IssueAnswers Content)
  (arguments : Arguments Path) (files : Files Path Content) (state : Issuing Path Content)

theorem step_returns (result : Files Path Content → Except KeysError α) (value : α)
    (returned : result state.files = .ok value) : step result state = (.ok value, state) := by
  rw [step, returned]

theorem step_raises (result : Files Path Content → Except KeysError α) (error : KeysError)
    (raised : result state.files = .error error) : step result state = (.error (.raised error), state.fail) := by
  rw [step, raised]

theorem issue_call_returns (call : IssueCall) (answered : answers.fails call = false) :
    issueCall answers call state = (.ok (), state) :=
  step_returns state _ () (if_neg (by simp [answered]))

theorem issue_call_raises (call : IssueCall) (failed : answers.fails call = true) :
    issueCall answers call state = (.error (.raised .osError), state.fail) :=
  step_raises state _ .osError (if_pos failed)

theorem with_block_returns (file : KeyFile) (write : answers.fails (.write file) = false)
    (close : answers.fails (.close file) = false) :
    (issueCall answers (.write file)).ensuring (issueCall answers (.close file)) state = (.ok (), state) := by
  rw [Attempt.ensuring, issue_call_returns answers state _ write, issue_call_returns answers _ _ close]

theorem with_block_raises (file : KeyFile)
    (fails : (!answers.fails (.write file) && !answers.fails (.close file)) = false) :
    (issueCall answers (.write file)).ensuring (issueCall answers (.close file)) state =
      (.error (.raised .osError), state.fail) := by
  rw [Attempt.ensuring]
  cases write : answers.fails (.write file) with
  | true =>
      rw [issue_call_raises answers state _ write]
      cases close : answers.fails (.close file) with
      | true => rw [issue_call_raises answers _ _ close]; rfl
      | false => rw [issue_call_returns answers _ _ close]
  | false =>
      have close : answers.fails (.close file) = true := by simpa [write] using fails
      rw [issue_call_returns answers state _ write, issue_call_raises answers _ _ close]

theorem announce_key_returns (returns : keyAnnounced answers arguments = true) :
    announceKey answers arguments state = (.ok (), state) := by
  rw [keyAnnounced] at returns
  rw [announceKey]
  cases output : arguments.plaintextOutput with
  | none =>
      simp only [output, Bool.and_eq_true, Bool.not_eq_true'] at returns
      exact (Attempt.bind_returns _ _ _ _ _ (issue_call_returns answers state _ returns.1)).trans
        (issue_call_returns answers state _ returns.2)
  | some path =>
      simp only [output, Bool.not_eq_true'] at returns
      exact issue_call_returns answers state _ returns

theorem announce_key_raises (raises : keyAnnounced answers arguments = false) :
    announceKey answers arguments state = (.error (.raised .osError), state.fail) := by
  rw [keyAnnounced] at raises
  rw [announceKey]
  cases output : arguments.plaintextOutput with
  | none =>
      simp only [output] at raises
      cases distribute : answers.fails (.print .distribute) with
      | true => exact Attempt.bind_raises _ _ _ _ _ (issue_call_raises answers state _ distribute)
      | false =>
          have key : answers.fails (.print .key) = true := by simpa [distribute] using raises
          exact (Attempt.bind_returns _ _ _ _ _ (issue_call_returns answers state _ distribute)).trans
            (issue_call_raises answers state _ key)
  | some path =>
      have notPrinted : answers.fails (.print .notPrinted) = true := by simpa [output] using raises
      exact issue_call_raises answers state _ notPrinted

theorem announce_returns (returns : announced answers arguments = true) :
    announce answers arguments state = (.ok (), state) := by
  rw [announced, Bool.and_eq_true, Bool.not_eq_true'] at returns
  rw [announce, Attempt.bind_returns _ _ _ _ _ (announce_key_returns answers arguments state returns.1)]
  exact issue_call_returns answers state _ returns.2

theorem announce_raises (raises : announced answers arguments = false) :
    announce answers arguments state = (.error (.raised .osError), state.fail) := by
  rw [announce]
  cases key : keyAnnounced answers arguments with
  | false => exact Attempt.bind_raises _ _ _ _ _ (announce_key_raises answers arguments state key)
  | true =>
      have added : answers.fails (.print .added) = true := by simpa [announced, key] using raises
      exact (Attempt.bind_returns _ _ _ _ _ (announce_key_returns answers arguments state key)).trans
        (issue_call_raises answers state _ added)

theorem check_absent_returns (file : KeyFile) (path : Path) (message : String)
    (absent : answers.absent files file path = true) :
    checkAbsent answers file path message (.start files) = (.ok (), .start files) := by
  rw [IssueAnswers.absent, Bool.and_eq_true, Bool.not_eq_true', Bool.not_eq_true'] at absent
  rw [checkAbsent, Attempt.bind_returns _ _ _ _ _ (issue_call_returns answers (.start files) _ absent.1)]
  exact congrArg (fun result => (result, Issuing.start files)) (if_neg (by simp [Issuing.start, absent.2]))

theorem check_absent_refuses (file : KeyFile) (path : Path) (message : String)
    (present : answers.absent files file path = false) :
    ∃ exit after, checkAbsent answers file path message (.start files) = (.error exit, after) ∧
      after.files = files := by
  rw [checkAbsent]
  cases answered : answers.fails (.exists file) with
  | true => exact ⟨_, _, Attempt.bind_raises _ _ _ _ _ (issue_call_raises answers (.start files) _ answered), rfl⟩
  | false =>
      have found : Entry.found (files path) = true := by simpa [IssueAnswers.absent, answered] using present
      rw [Attempt.bind_returns _ _ _ _ _ (issue_call_returns answers (.start files) _ answered)]
      exact ⟨_, _, congrArg (fun result => (result, Issuing.start files)) (if_pos found), rfl⟩

variable [DecidableEq Path]

theorem create_file_creates (file : KeyFile) (path : Path) (creates : answers.creates state.files file path = true) :
    createFile codec answers file path state =
      (.ok (), state.put path (some (.regular answers.createdMode codec.empty))) := by
  simp only [IssueAnswers.creates, Bool.and_eq_true, Bool.not_eq_true', Option.isNone_iff_eq_none] at creates
  have free : (if (state.files path).isSome then .error .osError else .ok () : Except KeysError Unit) = .ok () :=
    if_neg (by simp [creates.2])
  rw [createFile, Attempt.bind_returns _ _ _ _ _ (issue_call_returns answers state _ creates.1),
    Attempt.bind_returns _ _ _ _ _ (step_returns state _ () free)]
  rfl

theorem create_file_refuses (file : KeyFile) (path : Path) (refuses : answers.creates state.files file path = false) :
    createFile codec answers file path state = (.error (.raised .osError), state.fail) := by
  rw [createFile]
  cases answered : answers.fails (.create file) with
  | true => exact Attempt.bind_raises _ _ _ _ _ (issue_call_raises answers state _ answered)
  | false =>
      have taken : (if (state.files path).isSome then .error .osError else .ok () : Except KeysError Unit) =
          .error .osError := if_pos (by simpa [IssueAnswers.creates, answered, Option.isSome_iff_ne_none] using refuses)
      rw [Attempt.bind_returns _ _ _ _ _ (issue_call_returns answers state _ answered)]
      exact Attempt.bind_raises _ _ _ _ _ (step_raises state _ .osError taken)

theorem put_entry_run (path : Path) (mode : Nat) (content : Content) :
    putEntry path mode content state = (.ok (), state.put path (some (.regular mode content))) := rfl

theorem put_put (path : Path) (first second : Option (Entry Content)) :
    (state.put path first).put path second = state.put path second := by
  rw [Issuing.put, Issuing.put, Issuing.put, Function.update_idem]

theorem write_private_fills (file : KeyFile) (path : Path) (content : Content)
    (creates : answers.creates state.files file path = true) (fills : answers.fills file = true) :
    writePrivate codec answers file path content state =
      (.ok (), state.put path (some (.regular 0o600 content))) := by
  simp only [IssueAnswers.fills, Bool.and_eq_true, Bool.not_eq_true'] at fills
  obtain ⟨⟨⟨fchmod, fdopen⟩, write⟩, close⟩ := fills
  rw [writePrivate, Attempt.bind_returns _ _ _ _ _ (create_file_creates codec answers state file path creates),
    Attempt.bind_returns _ _ _ _ _ (issue_call_returns answers _ _ fchmod),
    Attempt.bind_returns _ _ _ _ _ (put_entry_run _ _ _ _),
    Attempt.bind_returns _ _ _ _ _ (issue_call_returns answers _ _ fdopen),
    Attempt.bind_returns _ _ _ _ _ (put_entry_run _ _ _ _),
    Attempt.bind_returns _ _ _ _ _ (with_block_returns answers _ file write close), put_entry_run,
    put_put, put_put, put_put]

theorem write_private_tears (file : KeyFile) (path : Path) (content : Content)
    (creates : answers.creates state.files file path = true) (tears : answers.fills file = false) :
    ∃ entry, writePrivate codec answers file path content state =
      (.error (.raised .osError), (state.put path (some entry)).fail) := by
  rw [writePrivate, Attempt.bind_returns _ _ _ _ _ (create_file_creates codec answers state file path creates)]
  cases fchmod : answers.fails (.fchmod file) with
  | true => exact ⟨_, Attempt.bind_raises _ _ _ _ _ (issue_call_raises answers _ _ fchmod)⟩
  | false =>
      rw [Attempt.bind_returns _ _ _ _ _ (issue_call_returns answers _ _ fchmod),
        Attempt.bind_returns _ _ _ _ _ (put_entry_run _ _ _ _), put_put]
      cases fdopen : answers.fails (.fdopen file) with
      | true => exact ⟨_, Attempt.bind_raises _ _ _ _ _ (issue_call_raises answers _ _ fdopen)⟩
      | false =>
          have fails : (!answers.fails (.write file) && !answers.fails (.close file)) = false := by
            simpa [IssueAnswers.fills, fchmod, fdopen] using tears
          rw [Attempt.bind_returns _ _ _ _ _ (issue_call_returns answers _ _ fdopen),
            Attempt.bind_returns _ _ _ _ _ (put_entry_run _ _ _ _), put_put]
          exact ⟨_, Attempt.bind_raises _ _ _ _ _ (with_block_raises answers _ file fails)⟩

theorem write_private_refuses (file : KeyFile) (path : Path) (content : Content)
    (refuses : answers.creates state.files file path = false) :
    writePrivate codec answers file path content state = (.error (.raised .osError), state.fail) :=
  Attempt.bind_raises _ _ _ _ _ (create_file_refuses codec answers state file path refuses)

theorem unlink_file_returns (file : KeyFile) (path : Path) (answered : answers.fails (.unlink file) = false) :
    unlinkFile answers file path state = (.ok (), state.put path none) := by
  rw [unlinkFile, Attempt.bind_returns _ _ _ _ _ (issue_call_returns answers state _ answered)]
  rfl

theorem unlink_file_raises (file : KeyFile) (path : Path) (failed : answers.fails (.unlink file) = true) :
    unlinkFile answers file path state = (.error (.raised .osError), state.fail) :=
  Attempt.bind_raises _ _ _ _ _ (issue_call_raises answers state _ failed)

end Steps

end SchwabGateway.Keys
