import SchwabGateway.Keys.Issuance

set_option autoImplicit false

namespace SchwabGateway.Keys

open SchwabGateway.Python SchwabGateway.Library

section Document

variable {Path Content : Type} (sha256 : Sha256) (codec : KeysCodec Content) (answers : IssueAnswers Content)
  (arguments : Arguments Path) (files : Files Path Content)

theorem build_client_entry_built (applicationId capability : String) (priority : PriorityClass)
    (plaintext : GeneratedKey) (result : PyValue × GeneratedKey)
    (built : buildClientEntry sha256 applicationId capability priority plaintext = .ok result) :
    capability ∈ knownCapabilities ∧ validApplicationId applicationId = true ∧
      result = (clientEntry sha256 applicationId capability priority plaintext, plaintext) := by
  rw [buildClientEntry] at built
  by_cases known : capability ∉ knownCapabilities
  · rw [if_pos known] at built
    cases built
  · rw [if_neg known] at built
    obtain ⟨principal, created, same⟩ := (bind_ok_iff _ _ _).mp built
    cases same
    have id := (create_fields _ _ _ _ principal created).1
    exact ⟨not_not.mp known, id ▸ principal.idChecked, rfl⟩

theorem from_single_entry (entry : PyValue) (principal : InternalPrincipal)
    (read : readClient entry = .ok (some principal)) :
    ∃ authenticator,
      fromDocument (.dict [(.str "version", .int 1), (.str "clients", .list [entry])]) = .ok authenticator := by
  have whole : readClients [entry] = .ok [principal] := (read_clients_iff _ _).mpr (.cons read .nil)
  refine ⟨⟨[principal], List.cons_ne_nil _ _, List.nodup_singleton _, List.nodup_singleton _⟩, ?_⟩
  have keys : keysAre [(.str "version", .int 1), (.str "clients", .list [entry])] ["version", "clients"] = true := rfl
  have one : equalsOne (PyValue.get [(.str "version", .int 1), (.str "clients", .list [entry])] "version") = true := rfl
  rw [fromDocument, keys, one]
  refine (congrArg (· >>= InternalKeyAuthenticator.create) whole).trans ?_
  change InternalKeyAuthenticator.create [principal] = _
  rw [InternalKeyAuthenticator.create, dif_pos (List.cons_ne_nil _ _)]
  exact (dif_pos (List.nodup_singleton _)).trans (dif_pos (List.nodup_singleton _))

theorem issued_document_valid (document : PyValue) (plaintext : GeneratedKey)
    (issued : issuedDocument sha256 codec answers arguments files = .ok (document, plaintext)) :
    ∃ authenticator, fromDocument document = .ok authenticator := by
  rw [issuedDocument] at issued
  cases existing : arguments.existingInput with
  | none =>
      simp only [existing] at issued
      obtain ⟨result, built, same⟩ := (bind_ok_iff _ _ _).mp issued
      obtain ⟨known, validId, rfl⟩ := build_client_entry_built sha256 _ _ _ _ result built
      cases same
      exact from_single_entry _ _ (read_client_entry sha256 _ _ _ _ validId known)
  | some path =>
      simp only [existing] at issued
      obtain ⟨loaded, _, appended⟩ := (bind_ok_iff _ _ _).mp issued
      by_cases known : (clientsOf loaded.2).any (fun client => isKey arguments.applicationId (idOf client)) = true
      · cases (if_pos known).symm.trans appended
      · obtain ⟨result, _, checked⟩ := (bind_ok_iff _ _ _).mp ((if_neg known).symm.trans appended)
        obtain ⟨authenticator, valid, same⟩ := (bind_ok_iff _ _ _).mp checked
        cases same
        exact ⟨authenticator, valid⟩

theorem private_mode_closed : othersWrite 0o600 = false := by decide

theorem from_file_written (document : PyValue) (authenticator : InternalKeyAuthenticator) (path : Path)
    (valid : fromDocument document = .ok authenticator)
    (written : files path = some (.regular 0o600 (codec.dump document))) :
    (answers.reads .output = true → fromFile codec answers .output path files = .ok authenticator) ∧
      (answers.reads .output = false → ∃ error, fromFile codec answers .output path files = .error error) := by
  obtain ⟨payload, parsed, reloaded⟩ := codec.reload document authenticator valid
  rw [fromFile, keysFile, written]
  dsimp only
  rw [parsed]
  constructor
  · intro reads
    simp only [IssueAnswers.reads, Bool.and_eq_true, Bool.not_eq_true'] at reads
    obtain ⟨⟨⟨opened, stat⟩, close⟩, load⟩ := reads
    simp [opened, stat, close, load, loadFile, private_mode_closed, reloaded, bind, Except.bind, Except.map]
  · intro unread
    cases opened : answers.fails (.openRead .output) with
    | true => exact ⟨.valueError keysUnreadable, rfl⟩
    | false =>
        cases failing : answers.fails (.stat .output) || answers.fails (.closeRead .output) with
        | true => exact ⟨.osError, rfl⟩
        | false =>
            have load : answers.fails (.load .output) = true := by
              simp only [Bool.or_eq_false_iff] at failing
              simpa [IssueAnswers.reads, opened, failing] using unread
            exact ⟨.valueError keysUnreadable, by simp [load, loadFile, private_mode_closed, Except.map]⟩

end Document

section Leftovers

variable {Path Content : Type} (files : Files Path Content)

structure NothingLeft (run : Except Exit Unit × Issuing Path Content) : Prop where
  exits : ∃ exit, run.1 = .error exit
  kept : run.2.files = files

def LeavesNothing (run : Except Exit Unit × Issuing Path Content) : Prop :=
  run.2.failed = true → NothingLeft files run

theorem leaves_nothing_of (run : Except Exit Unit × Issuing Path Content) (exit : Exit) (after : Issuing Path Content)
    (ends : run = (.error exit, after)) (kept : after.files = files) : LeavesNothing files run := by
  intro _
  subst ends
  exact ⟨⟨exit, rfl⟩, kept⟩

theorem something_left (run : Except Exit Unit × Issuing Path Content) (exit : Exit) (after : Issuing Path Content)
    (ends : run = (.error exit, after)) (failed : after.failed = true) (path : Path) (entry : Entry Content)
    (free : files path = none) (left : after.files path = some entry) : ¬ LeavesNothing files run := by
  intro nothing
  subst ends
  have kept := (nothing failed).kept
  rw [kept, free] at left
  cases left

theorem output_free (answers : IssueAnswers Content) (arguments : Arguments Path)
    (created : answers.creates files .output arguments.output = true) : files arguments.output = none := by
  simp only [IssueAnswers.creates, Bool.and_eq_true, Option.isNone_iff_eq_none] at created
  exact created.2

end Leftovers

section Runs

variable {Path Content : Type} [DecidableEq Path] (sha256 : Sha256) (codec : KeysCodec Content)
  (answers : IssueAnswers Content) (arguments : Arguments Path) (files : Files Path Content)

def Issuing.digest (document : PyValue) : Issuing Path Content where
  files := Function.update files arguments.output (some (.regular 0o600 (codec.dump document)))
  digestWritten := true
  plaintextWritten := false
  failed := false

theorem issue_unbuilt (unbuilt : built sha256 codec answers arguments files = false) :
    ∃ error, issue sha256 codec answers arguments (.start files) =
      (.error (.raised error), (Issuing.start files).fail) := by
  rw [built] at unbuilt
  cases issued : issuedDocument sha256 codec answers arguments files with
  | ok result => simp [issued, Except.isOk, Except.toBool] at unbuilt
  | error error => exact ⟨error, Attempt.bind_raises _ _ _ _ _ (step_raises (.start files) _ error issued)⟩

section Built

variable (document : PyValue) (plaintext : GeneratedKey)
  (issued : issuedDocument sha256 codec answers arguments files = .ok (document, plaintext))

include issued

theorem issue_uncreated (uncreated : answers.creates files .output arguments.output = false) :
    issue sha256 codec answers arguments (.start files) = (.error (.raised .osError), (Issuing.start files).fail) := by
  rw [issue, Attempt.bind_returns _ _ _ _ _ (step_returns (.start files) _ _ issued)]
  exact Attempt.bind_raises _ _ _ _ _ (write_private_refuses codec answers (.start files) _ _ _ uncreated)

theorem issue_torn (created : answers.creates files .output arguments.output = true)
    (torn : answers.fills .output = false) :
    ∃ entry, issue sha256 codec answers arguments (.start files) =
      (.error (.raised .osError), ((Issuing.start files).put arguments.output (some entry)).fail) := by
  obtain ⟨entry, left⟩ := write_private_tears codec answers (.start files) _ _ (codec.dump document) created torn
  refine ⟨entry, ?_⟩
  rw [issue, Attempt.bind_returns _ _ _ _ _ (step_returns (.start files) _ _ issued)]
  exact Attempt.bind_raises _ _ _ _ _ left

theorem issue_written (created : answers.creates files .output arguments.output = true)
    (filled : answers.fills .output = true) :
    issue sha256 codec answers arguments (.start files) =
      finish codec answers arguments plaintext (.digest codec arguments files document) := by
  rw [issue, Attempt.bind_returns _ _ _ _ _ (step_returns (.start files) _ _ issued)]
  exact Attempt.bind_returns _ _ _ _ _ (write_private_fills codec answers (.start files) _ _ _ created filled)

theorem digest_read :
    ∃ authenticator, (answers.reads .output = true →
        fromFile codec answers .output arguments.output (Issuing.digest codec arguments files document).files =
          .ok authenticator) ∧
      (answers.reads .output = false → ∃ error,
        fromFile codec answers .output arguments.output (Issuing.digest codec arguments files document).files =
          .error error) := by
  obtain ⟨authenticator, valid⟩ := issued_document_valid sha256 codec answers arguments files document plaintext issued
  exact ⟨authenticator, from_file_written codec answers _ document authenticator arguments.output valid
    (Function.update_self _ _ _)⟩

-- What comes after the output ends with an exception: the output is there, and
-- the plaintext file if it could be created.
theorem finish_refused
    (refused : (answers.reads .output && plaintextCreated answers arguments files) = false) :
    ∃ error, finish codec answers arguments plaintext (.digest codec arguments files document) =
      (.error (.raised error), (Issuing.digest codec arguments files document).fail) := by
  obtain ⟨authenticator, read, unread⟩ := digest_read sha256 codec answers arguments files document plaintext issued
  rw [finish]
  cases reads : answers.reads .output with
  | false =>
      obtain ⟨error, raised⟩ := unread reads
      exact ⟨error, Attempt.bind_raises _ _ _ _ _ (step_raises (.digest codec arguments files document) _ error raised)⟩
  | true =>
      rw [Attempt.bind_returns _ _ _ _ _ (step_returns (.digest codec arguments files document) _ _ (read reads))]
      rw [reads, Bool.true_and, plaintextCreated] at refused
      cases output : arguments.plaintextOutput with
      | none => simp [output] at refused
      | some path =>
          have uncreated : answers.creates (Issuing.digest codec arguments files document).files .plaintextOutput path =
              false := by
            by_cases same : path = arguments.output
            · simp [IssueAnswers.creates, Issuing.digest, same]
            · have other : answers.creates files .plaintextOutput path = false := by
                simpa [output, same] using refused
              simpa [IssueAnswers.creates, Issuing.digest, same] using other
          exact ⟨.osError, Attempt.bind_raises _ _ _ _ _
            (write_private_refuses codec answers (.digest codec arguments files document) _ _ _ uncreated)⟩

end Built

theorem finish_created (document : PyValue) (path : Path) (output : arguments.plaintextOutput = some path)
    (created : plaintextCreated answers arguments files = true) :
    path ≠ arguments.output ∧ files path = none ∧
      answers.creates (Issuing.digest codec arguments files document).files .plaintextOutput path = true := by
  simp only [plaintextCreated, output, Bool.and_eq_true, decide_eq_true_eq] at created
  refine ⟨created.2, ?_, ?_⟩
  · have free := created.1
    simp only [IssueAnswers.creates, Bool.and_eq_true, Option.isNone_iff_eq_none] at free
    exact free.2
  · simpa [IssueAnswers.creates, Issuing.digest, created.2] using created.1

section Reached

variable (document : PyValue) (plaintext : GeneratedKey)
  (issued : issuedDocument sha256 codec answers arguments files = .ok (document, plaintext))
  (reads : answers.reads .output = true) (created : plaintextCreated answers arguments files = true)

include issued reads created

theorem finish_torn (torn : plaintextFilled answers arguments = false) :
    ∃ path entry, path ≠ arguments.output ∧ files path = none ∧
      finish codec answers arguments plaintext (.digest codec arguments files document) =
        (.error (.raised .osError), ((Issuing.digest codec arguments files document).put path (some entry)).fail) := by
  obtain ⟨authenticator, read, _⟩ := digest_read sha256 codec answers arguments files document plaintext issued
  cases output : arguments.plaintextOutput with
  | none => simp [plaintextFilled, output] at torn
  | some path =>
      obtain ⟨other, free, creates⟩ := finish_created codec answers arguments files document path output created
      have tears : answers.fills .plaintextOutput = false := by simpa [plaintextFilled, output] using torn
      obtain ⟨entry, left⟩ := write_private_tears codec answers (.digest codec arguments files document) _ _
        (codec.plaintext plaintext.text) creates tears
      refine ⟨path, entry, other, free, ?_⟩
      rw [finish, Attempt.bind_returns _ _ _ _ _ (step_returns (.digest codec arguments files document) _ _ (read reads))]
      simp only [output]
      exact Attempt.bind_raises _ _ _ _ _ left

theorem finish_filled (filled : plaintextFilled answers arguments = true) :
    ∃ after, finish codec answers arguments plaintext (.digest codec arguments files document) = (.ok (), after) ∧
      after.failed = false ∧ after.files arguments.output = some (.regular 0o600 (codec.dump document)) := by
  obtain ⟨authenticator, read, _⟩ := digest_read sha256 codec answers arguments files document plaintext issued
  rw [finish, Attempt.bind_returns _ _ _ _ _ (step_returns (.digest codec arguments files document) _ _ (read reads))]
  cases output : arguments.plaintextOutput with
  | none => exact ⟨_, rfl, rfl, Function.update_self _ _ _⟩
  | some path =>
      obtain ⟨other, _, creates⟩ := finish_created codec answers arguments files document path output created
      have fills : answers.fills .plaintextOutput = true := by simpa [plaintextFilled, output] using filled
      refine ⟨_, Attempt.bind_returns _ _ _ _ _ (write_private_fills codec answers
        (.digest codec arguments files document) _ _ (codec.plaintext plaintext.text) creates fills), rfl, ?_⟩
      exact (Function.update_of_ne (Ne.symm other) _ _).trans (Function.update_self _ _ _)

end Reached

section Ends

variable (state : Issuing Path Content)

theorem recover_keeps (error : KeysError) (digest : state.digestWritten = false)
    (plaintext : state.plaintextWritten = false) :
    recover answers arguments (.raised error) state = (.error (.reported error), state) := by
  rw [recover, Attempt.bind_returns _ _ _ _ _ (Attempt.guarded_skips _ _ state digest)]
  cases arguments.plaintextOutput with
  | none => rfl
  | some path => exact Attempt.bind_returns _ _ _ _ _ (Attempt.guarded_skips _ _ state plaintext)

theorem recover_unlinks (error : KeysError) (digest : state.digestWritten = true)
    (plaintext : state.plaintextWritten = false) (answered : answers.fails (.unlink .output) = false) :
    recover answers arguments (.raised error) state =
      (.error (.reported error), state.put arguments.output none) := by
  rw [recover, Attempt.bind_returns _ _ _ _ _ ((Attempt.guarded_passes _ _ state digest).trans
    (unlink_file_returns answers state _ _ answered))]
  cases arguments.plaintextOutput with
  | none => rfl
  | some path => exact Attempt.bind_returns _ _ _ _ _ (Attempt.guarded_skips _ _ _ plaintext)

theorem recover_stuck (error : KeysError) (digest : state.digestWritten = true)
    (failed : answers.fails (.unlink .output) = true) :
    recover answers arguments (.raised error) state = (.error (.raised .osError), state.fail) := by
  rw [recover]
  exact Attempt.bind_raises _ _ _ _ _ ((Attempt.guarded_passes _ _ state digest).trans
    (unlink_file_raises answers state _ _ failed))

end Ends

theorem main_refused (refused : begins answers arguments files = false) :
    ∃ exit after, main sha256 codec answers arguments (.start files) = (.error exit, after) ∧
      after.files = files := by
  rw [main]
  cases output : answers.absent files .output arguments.output with
  | false =>
      obtain ⟨exit, after, raised, kept⟩ := check_absent_refuses answers files .output _ outputExists output
      exact ⟨exit, after, Attempt.bind_raises _ _ _ _ _ raised, kept⟩
  | true =>
      rw [Attempt.bind_returns _ _ _ _ _ (check_absent_returns answers files .output _ outputExists output)]
      cases plaintextOutput : arguments.plaintextOutput with
      | none => simp [begins, output, plaintextOutput] at refused
      | some path =>
          have present : answers.absent files .plaintextOutput path = false := by
            simpa [begins, output, plaintextOutput] using refused
          obtain ⟨exit, after, raised, kept⟩ :=
            check_absent_refuses answers files .plaintextOutput path plaintextExists present
          exact ⟨exit, after, Attempt.bind_raises _ _ _ _ _ raised, kept⟩

theorem main_begins (passes : begins answers arguments files = true) :
    main sha256 codec answers arguments (.start files) =
      ((issue sha256 codec answers arguments).rescuing (recover answers arguments) >>= fun _ =>
        announce answers arguments) (.start files) := by
  rw [begins, Bool.and_eq_true] at passes
  rw [main, Attempt.bind_returns _ _ _ _ _ (check_absent_returns answers files .output _ outputExists passes.1)]
  cases plaintextOutput : arguments.plaintextOutput with
  | none => rfl
  | some path =>
      simp only [plaintextOutput] at passes
      exact Attempt.bind_returns _ _ _ _ _
        (check_absent_returns answers files .plaintextOutput path plaintextExists passes.2)

section Ending

variable (passes : begins answers arguments files = true)

include passes

theorem main_raises (error : KeysError) (exit : Exit) (state after : Issuing Path Content)
    (raised : issue sha256 codec answers arguments (.start files) = (.error (.raised error), state))
    (recovered : recover answers arguments (.raised error) state = (.error exit, after)) :
    main sha256 codec answers arguments (.start files) = (.error exit, after) := by
  rw [main_begins sha256 codec answers arguments files passes]
  exact Attempt.bind_raises _ _ _ _ _ ((Attempt.rescuing_raises _ _ _ _ _ raised).trans recovered)

theorem main_announces (state : Issuing Path Content)
    (returned : issue sha256 codec answers arguments (.start files) = (.ok (), state)) :
    main sha256 codec answers arguments (.start files) = announce answers arguments state := by
  rw [main_begins sha256 codec answers arguments files passes]
  exact Attempt.bind_returns _ _ _ _ _ (Attempt.rescuing_returns _ _ _ _ _ returned)

end Ending

section Phases

variable (passes : begins answers arguments files = true) (document : PyValue) (plaintext : GeneratedKey)
  (issued : issuedDocument sha256 codec answers arguments files = .ok (document, plaintext))
  (created : answers.creates files .output arguments.output = true)

include passes issued created

theorem torn_output_left (torn : answers.fills .output = false) :
    ¬ LeavesNothing files (main sha256 codec answers arguments (.start files)) := by
  obtain ⟨entry, raised⟩ := issue_torn sha256 codec answers arguments files document plaintext issued created torn
  have ends := main_raises sha256 codec answers arguments files passes _ _ _ _ raised
    (recover_keeps answers arguments _ .osError rfl rfl)
  exact something_left files _ _ _ ends rfl arguments.output entry
    (output_free files answers arguments created) (Function.update_self _ _ _)

variable (filled : answers.fills .output = true)

include filled

theorem refused_output_left (refused : (answers.reads .output && plaintextCreated answers arguments files) = false) :
    LeavesNothing files (main sha256 codec answers arguments (.start files)) ↔
      answers.fails (.unlink .output) = false := by
  obtain ⟨error, raised⟩ := finish_refused sha256 codec answers arguments files document plaintext issued refused
  rw [← issue_written sha256 codec answers arguments files document plaintext issued created filled] at raised
  have free := output_free files answers arguments created
  cases unlink : answers.fails (.unlink .output) with
  | false =>
      have ends := main_raises sha256 codec answers arguments files passes _ _ _ _ raised
        (recover_unlinks answers arguments _ error rfl rfl unlink)
      have kept : Function.update (Function.update files arguments.output (some (.regular 0o600 (codec.dump document))))
          arguments.output none = files := by
        rw [Function.update_idem, Function.update_eq_self_iff]
        exact free.symm
      exact ⟨fun _ => rfl, fun _ => leaves_nothing_of files _ _ _ ends kept⟩
  | true =>
      have ends := main_raises sha256 codec answers arguments files passes _ _ _ _ raised
        (recover_stuck answers arguments _ error rfl unlink)
      have left := something_left files _ _ _ ends rfl arguments.output _ free (Function.update_self _ _ _)
      exact ⟨fun nothing => absurd nothing left, nofun⟩

variable (reads : answers.reads .output = true) (reached : plaintextCreated answers arguments files = true)

include reads reached

theorem torn_plaintext_left (torn : plaintextFilled answers arguments = false) :
    ¬ LeavesNothing files (main sha256 codec answers arguments (.start files)) := by
  obtain ⟨path, entry, other, free, raised⟩ :=
    finish_torn sha256 codec answers arguments files document plaintext issued reads reached torn
  rw [← issue_written sha256 codec answers arguments files document plaintext issued created filled] at raised
  cases unlink : answers.fails (.unlink .output) with
  | false =>
      have ends := main_raises sha256 codec answers arguments files passes _ _ _ _ raised
        (recover_unlinks answers arguments _ .osError rfl rfl unlink)
      exact something_left files _ _ _ ends rfl path entry free
        ((Function.update_of_ne other _ _).trans (Function.update_self _ _ _))
  | true =>
      have ends := main_raises sha256 codec answers arguments files passes _ _ _ _ raised
        (recover_stuck answers arguments _ .osError rfl unlink)
      exact something_left files _ _ _ ends rfl path entry free (Function.update_self _ _ _)

theorem unannounced_left (finished : plaintextFilled answers arguments = true) :
    LeavesNothing files (main sha256 codec answers arguments (.start files)) ↔
      announced answers arguments = true := by
  obtain ⟨after, returned, unfailed, there⟩ :=
    finish_filled sha256 codec answers arguments files document plaintext issued reads reached finished
  rw [← issue_written sha256 codec answers arguments files document plaintext issued created filled] at returned
  have announces := main_announces sha256 codec answers arguments files passes after returned
  cases last : announced answers arguments with
  | true =>
      rw [announces, announce_returns answers arguments after last]
      refine ⟨fun _ => rfl, fun _ failed => ?_⟩
      rw [unfailed] at failed
      cases failed
  | false =>
      have ends := announces.trans (announce_raises answers arguments after last)
      have left := something_left files _ _ _ ends rfl arguments.output _
        (output_free files answers arguments created) there
      exact ⟨fun nothing => absurd nothing left, nofun⟩

end Phases

section Created

variable (passes : begins answers arguments files = true) (document : PyValue) (plaintext : GeneratedKey)
  (issued : issuedDocument sha256 codec answers arguments files = .ok (document, plaintext))
  (created : answers.creates files .output arguments.output = true)

include passes issued created

theorem created_output_clean_iff :
    LeavesNothing files (main sha256 codec answers arguments (.start files)) ↔
      (answers.fills .output &&
        if answers.reads .output && plaintextCreated answers arguments files then
          plaintextFilled answers arguments && announced answers arguments
        else !answers.fails (.unlink .output)) = true := by
  cases filled : answers.fills .output with
  | false =>
      have left := torn_output_left sha256 codec answers arguments files passes document plaintext issued created filled
      simpa using left
  | true =>
      rw [Bool.true_and]
      cases reached : answers.reads .output && plaintextCreated answers arguments files with
      | false =>
          rw [refused_output_left sha256 codec answers arguments files passes document plaintext issued created filled
            reached]
          simp
      | true =>
          obtain ⟨reads, reached⟩ := Bool.and_eq_true_iff.mp reached
          rw [if_pos rfl]
          cases finished : plaintextFilled answers arguments with
          | false =>
              have left := torn_plaintext_left sha256 codec answers arguments files passes document plaintext issued
                created filled reads reached finished
              simpa using left
          | true =>
              rw [Bool.true_and]
              exact unannounced_left sha256 codec answers arguments files passes document plaintext issued created
                filled reads reached finished

end Created

theorem issuance_failure_clean_iff :
    LeavesNothing files (main sha256 codec answers arguments (.start files)) ↔
      cleansUp sha256 codec answers arguments files = true := by
  rw [cleansUp]
  cases passes : begins answers arguments files with
  | false =>
      obtain ⟨exit, after, ends, kept⟩ := main_refused sha256 codec answers arguments files passes
      simpa using leaves_nothing_of files _ _ _ ends kept
  | true =>
      cases issued : issuedDocument sha256 codec answers arguments files with
      | error error =>
          have unbuilt : built sha256 codec answers arguments files = false := by
            rw [built, issued]
            rfl
          obtain ⟨error, raised⟩ := issue_unbuilt sha256 codec answers arguments files unbuilt
          have ends := main_raises sha256 codec answers arguments files passes _ _ _ _ raised
            (recover_keeps answers arguments _ error rfl rfl)
          rw [unbuilt]
          simpa using leaves_nothing_of files _ _ _ ends rfl
      | ok result =>
          obtain ⟨document, plaintext⟩ := result
          have made : built sha256 codec answers arguments files = true := by
            rw [built, issued]
            rfl
          rw [made]
          cases created : answers.creates files .output arguments.output with
          | false =>
              have raised := issue_uncreated sha256 codec answers arguments files document plaintext issued created
              have ends := main_raises sha256 codec answers arguments files passes _ _ _ _ raised
                (recover_keeps answers arguments _ .osError rfl rfl)
              simpa using leaves_nothing_of files _ _ _ ends rfl
          | true =>
              exact created_output_clean_iff sha256 codec answers arguments files passes document plaintext issued created

end Runs

section Sample

inductive SampleContent where
  | empty
  | document (payload : PyValue)
  | key (text : Text)
  | torn (text : Text)

def sampleCodec : KeysCodec SampleContent where
  empty := .empty
  dump := .document
  plaintext := .key
  parse
    | .document payload => .value payload
    | _ => .unparsable
  reload document _ valid := ⟨document, rfl, valid⟩

def SampleContent.cut : SampleContent → SampleContent
  | .key text => .torn (text.take 20)
  | _ => .empty

def fullDisk : IssueAnswers SampleContent where
  fails call := call = .write .plaintextOutput
  createdMode := 0o600
  torn _ content := content.cut
  key := newKey

def sampleArguments : Arguments String where
  existingInput := none
  output := "keys.json"
  plaintextOutput := some "scanner.key"
  applicationId := "equity-scanner"
  capability := "market_data:read"
  priority := .background

def tornKey : Option (Entry SampleContent) → Bool
  | some (.regular _ (.torn text)) => text = newKey.text.take 20
  | _ => false

def fullDiskRun : Except Exit Unit × Issuing String SampleContent :=
  main sampleSha256 sampleCodec fullDisk sampleArguments (.start fun _ => none)

theorem half_a_key_left :
    fullDiskRun.1 = .error (.reported .osError) ∧ (fullDiskRun.2.files "keys.json").isNone = true ∧
      tornKey (fullDiskRun.2.files "scanner.key") = true ∧ ¬ LeavesNothing (fun _ => none) fullDiskRun := by
  have run : fullDiskRun.2.failed = true ∧ fullDiskRun.1 = .error (.reported .osError) ∧
      (fullDiskRun.2.files "keys.json").isNone = true ∧ tornKey (fullDiskRun.2.files "scanner.key") = true := by
    decide +kernel
  obtain ⟨failed, exits, removed, torn⟩ := run
  refine ⟨exits, removed, torn, ?_⟩
  intro nothing
  rw [(nothing failed).kept] at torn
  cases torn

end Sample

end SchwabGateway.Keys
