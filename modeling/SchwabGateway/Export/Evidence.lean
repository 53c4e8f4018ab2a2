import SchwabGateway.Library.Evolves

set_option autoImplicit false

namespace SchwabGateway.Export

open SchwabGateway.Library

-- The names of a path, the last one first. The root has none.
abbrev Path := List String

inductive Node (Content : Type) where
  | directory
  | file (mode : Nat) (content : Content)
deriving DecidableEq

abbrev Disk (Content : Type) := Path → Option (Node Content)

inductive OsError where
  | exists_
  | notFound
  | notDirectory
  | failed
deriving DecidableEq

inductive EvidenceFile where
  | candles
  | manifest
deriving DecidableEq

inductive EvidenceCall where
  | mkdir (path : Path)
  | create (file : EvidenceFile)
  | write (file : EvidenceFile)
  | close (file : EvidenceFile)
  | chmod (file : EvidenceFile)
  | hash
deriving DecidableEq

-- createdMode is 0o666 less the umask, torn what is in a file whose writing
-- failed; write stands for all of the with block.
structure EvidenceAnswers (Content : Type) where
  fails : EvidenceCall → Bool
  createdMode : Nat
  empty : Content
  torn : EvidenceFile → Content → Content

section Code

variable {Content α : Type} (answers : EvidenceAnswers Content)

abbrev EvidenceAction (Content α : Type) := Attempt OsError (Disk Content) α

def isDirectory (disk : Disk Content) : Path → Bool
  | [] => true
  | path =>
      match disk path with
      | some .directory => true
      | _ => false

def evidenceCall (call : EvidenceCall) : EvidenceAction Content Unit :=
  Attempt.reading (fun _ => if answers.fails call then .error .failed else .ok ())

def putNode (path : Path) (node : Node Content) : EvidenceAction Content Unit :=
  Attempt.update (fun disk => Function.update disk path (some node))

def checkNew (disk : Disk Content) : Path → Except OsError Unit
  | [] => .error .exists_
  | name :: parent =>
      if isDirectory disk parent then
        if (disk (name :: parent)).isSome then .error .exists_ else .ok ()
      else if (disk parent).isSome then .error .notDirectory
      else .error .notFound

def makeDirectory (path : Path) : EvidenceAction Content Unit := do
  Attempt.reading (fun disk => checkNew disk path)
  evidenceCall answers (.mkdir path)
  putNode path .directory

-- The last except clause of Path.mkdir.
def tolerate (existOk : Bool) (path : Path) (error : OsError) : EvidenceAction Content Unit :=
  Attempt.reading (fun disk => if existOk && isDirectory disk path then .ok () else .error error)

-- Path.mkdir with parents=True.
def mkdir (existOk : Bool) : Path → EvidenceAction Content Unit
  | [] => tolerate existOk [] .exists_
  | name :: parent =>
      (makeDirectory answers (name :: parent)).rescuing fun error =>
        match error with
        | .notFound => do
            mkdir true parent
            (makeDirectory answers (name :: parent)).rescuing fun again =>
              match again with
              | .notFound => Attempt.raising .notFound
              | other => tolerate existOk (name :: parent) other
        | other => tolerate existOk (name :: parent) other

-- write_private_json from the new file on, with the text that json.dump writes
-- and its newline.
def fillPrivate (file : EvidenceFile) (path : Path) (content : Content) : EvidenceAction Content Unit := do
  evidenceCall answers (.create file)
  putNode path (.file answers.createdMode answers.empty)
  putNode path (.file answers.createdMode (answers.torn file content))
  (evidenceCall answers (.write file)).ensuring (evidenceCall answers (.close file))
  putNode path (.file answers.createdMode content)
  evidenceCall answers (.chmod file)
  putNode path (.file 0o600 content)

def writePrivateJson (file : EvidenceFile) (path : Path) (content : Content) : EvidenceAction Content Unit := do
  Attempt.reading (fun disk => checkNew disk path)
  fillPrivate answers file path content

def sha256File (sha256 : Content → String) (path : Path) : EvidenceAction Content String := do
  evidenceCall answers .hash
  Attempt.reading (fun disk =>
    match disk path with
    | some (.file _ content) => .ok (sha256 content)
    | some .directory => .error .failed
    | none => .error .notFound)

end Code

section Effects

variable {Content α : Type} (answers : EvidenceAnswers Content)

theorem check_new_absent (disk : Disk Content) (path : Path) (checked : checkNew disk path = .ok ()) :
    disk path = none := by
  cases path with
  | nil => cases checked
  | cons name parent =>
      rw [checkNew] at checked
      by_cases under : isDirectory disk parent = true
      · rw [if_pos under] at checked
        by_cases present : (disk (name :: parent)).isSome = true
        · rw [if_pos present] at checked
          cases checked
        · exact Option.not_isSome_iff_eq_none.mp present
      · rw [if_neg under] at checked
        by_cases present : (disk parent).isSome = true
        · rw [if_pos present] at checked
          cases checked
        · rw [if_neg present] at checked
          cases checked

theorem evolves_checked (path : Path) (body : EvidenceAction Content α) (allowed : Path → Node Content → Prop)
    (elsewhere : ∀ other, other ≠ path → Attempt.Keeps (fun disk : Disk Content => disk other) body)
    (here : ∀ before node, before path = none → (body before).2 path = some node → allowed path node) :
    Attempt.Evolves (Adds allowed) (Attempt.reading (fun disk => checkNew disk path) >>= fun _ => body) := by
  intro before
  cases checked : checkNew before path with
  | error error =>
      rw [Attempt.bind_raises _ _ before before error (by rw [Attempt.reading, checked])]
      exact adds_refl allowed before
  | ok done =>
      rw [Attempt.bind_reading _ _ before () checked]
      have absent := check_new_absent before path checked
      intro other
      by_cases same : other = path
      · rw [same, absent]
        cases left : (body before).2 path with
        | none => exact .inl rfl
        | some node => exact .inr ⟨rfl, node, rfl, here before node absent left⟩
      · exact .inl (elsewhere other same before)

theorem call_keeps {γ : Type} (part : Disk Content → γ) (call : EvidenceCall) :
    Attempt.Keeps part (evidenceCall answers call) :=
  Attempt.keeps_reading part _

theorem put_keeps (path other : Path) (different : other ≠ path) (node : Node Content) :
    Attempt.Keeps (ε := OsError) (fun disk : Disk Content => disk other) (putNode path node) := by
  intro before
  exact Function.update_of_ne different ..

def MadeFor (path at_ : Path) (node : Node Content) : Prop := at_ <:+ path ∧ node = .directory

theorem make_directory_adds (path above : Path) (inside : above <:+ path) :
    Attempt.Evolves (Adds (MadeFor path)) (makeDirectory answers above) := by
  apply evolves_checked above
  · intro other different
    exact Attempt.keeps_bind _ _ (call_keeps answers _ _) _ (fun _ => put_keeps above other different _)
  · intro before node absent left
    rw [Attempt.bind_run, evidenceCall, Attempt.reading] at left
    by_cases fails : answers.fails (.mkdir above) = true
    · rw [if_pos fails] at left
      dsimp only at left
      rw [absent] at left
      cases left
    · rw [if_neg fails] at left
      have put : Function.update before above (some .directory) above = some node := left
      rw [Function.update_self] at put
      exact ⟨inside, (Option.some.inj put).symm⟩

theorem mkdir_adds (existOk : Bool) (path run : Path) (inside : path <:+ run) :
    Attempt.Evolves (Adds (MadeFor run)) (mkdir answers existOk path) := by
  have tolerates : ∀ existOk path error,
      Attempt.Evolves (Adds (MadeFor run)) (tolerate existOk path error : EvidenceAction Content Unit) :=
    fun existOk path error => Attempt.evolves_reading _ (adds_refl _) _
  induction path generalizing existOk with
  | nil => exact tolerates existOk [] .exists_
  | cons name parent ih =>
      have made := make_directory_adds answers run (name :: parent) inside
      rw [mkdir]
      apply Attempt.evolves_rescuing _ (adds_trans _) _ made
      intro error
      cases error with
      | notFound =>
          apply Attempt.evolves_bind _ (adds_trans _) _ (ih true ((List.suffix_cons name parent).trans inside))
          intro _
          apply Attempt.evolves_rescuing _ (adds_trans _) _ made
          intro again
          cases again with
          | notFound => exact adds_refl _
          | exists_ | notDirectory | failed => exact tolerates existOk _ _
      | exists_ | notDirectory | failed => exact tolerates existOk _ _

theorem fill_private_keeps (file : EvidenceFile) (path other : Path) (different : other ≠ path) (content : Content) :
    Attempt.Keeps (fun disk : Disk Content => disk other) (fillPrivate answers file path content) := by
  have put : ∀ node : Node Content,
      Attempt.Keeps (ε := OsError) (fun disk : Disk Content => disk other) (putNode path node) :=
    put_keeps path other different
  apply Attempt.keeps_bind _ _ (call_keeps answers _ _)
  intro _
  apply Attempt.keeps_bind _ _ (put _)
  intro _
  apply Attempt.keeps_bind _ _ (put _)
  intro _
  apply Attempt.keeps_bind _ _ (Attempt.keeps_ensuring _ _ (call_keeps answers _ _) _ (call_keeps answers _ _))
  intro _
  apply Attempt.keeps_bind _ _ (put _)
  intro _
  exact Attempt.keeps_bind _ _ (call_keeps answers _ _) _ (fun _ => put _)

theorem write_private_adds (file : EvidenceFile) (path : Path) (content : Content) :
    Attempt.Evolves (Adds (fun at_ _ => at_ = path)) (writePrivateJson answers file path content) :=
  evolves_checked path _ _ (fun other different => fill_private_keeps answers file path other different content)
    (fun _ _ _ _ => rfl)

theorem write_private_complete (file : EvidenceFile) (path : Path) (content : Content) (before after : Disk Content)
    (returned : writePrivateJson answers file path content before = (.ok (), after)) :
    before path = none ∧ after path = some (.file 0o600 content) := by
  obtain ⟨done, state, checked, returned⟩ := Attempt.bind_returned _ _ _ _ _ returned
  refine ⟨check_new_absent before path (Prod.ext_iff.mp checked).1, ?_⟩
  obtain ⟨_, _, _, returned⟩ := Attempt.bind_returned _ _ _ _ _ returned
  obtain ⟨_, _, _, returned⟩ := Attempt.bind_returned _ _ _ _ _ returned
  obtain ⟨_, _, _, returned⟩ := Attempt.bind_returned _ _ _ _ _ returned
  obtain ⟨_, _, _, returned⟩ := Attempt.bind_returned _ _ _ _ _ returned
  obtain ⟨_, _, _, returned⟩ := Attempt.bind_returned _ _ _ _ _ returned
  obtain ⟨_, _, _, returned⟩ := Attempt.bind_returned _ _ _ _ _ returned
  cases returned
  exact Function.update_self ..

theorem sha256_keeps {γ : Type} (part : Disk Content → γ) (sha256 : Content → String) (path : Path) :
    Attempt.Keeps part (sha256File answers sha256 path) :=
  Attempt.keeps_bind _ _ (call_keeps answers _ _) _ (fun _ => Attempt.keeps_reading _ _)

theorem sha256_returned (sha256 : Content → String) (path : Path) (mode : Nat) (content : Content)
    (before after : Disk Content) (digest : String) (there : before path = some (.file mode content))
    (returned : sha256File answers sha256 path before = (.ok digest, after)) : digest = sha256 content := by
  obtain ⟨_, middle, called, read⟩ := Attempt.bind_returned _ _ _ _ _ returned
  have kept := call_keeps answers (fun disk : Disk Content => disk) .hash before
  rw [called] at kept
  dsimp only at kept
  rw [Attempt.reading, kept, there] at read
  cases read
  rfl

end Effects

end SchwabGateway.Export
