import Mathlib.Data.List.ReduceOption
import SchwabGateway.Keys.Authenticator

set_option autoImplicit false

namespace SchwabGateway.Keys

open SchwabGateway.Python SchwabGateway.Library

def unsupportedCapability : String := "unsupported gateway capability"
def idExists (id : String) : String := "gateway application ID already exists: " ++ id

-- What token_urlsafe returns: ASCII, and 32 bytes are not nothing.
structure GeneratedKey where
  text : Text
  nonempty : text ≠ []
  ascii : text.isAscii = true

section Code

variable (sha256 : Sha256)

def clientEntry (applicationId capability : String) (priority : PriorityClass) (plaintext : GeneratedKey) : PyValue :=
  .dict [(.str "id", .str applicationId), (.str "key_sha256", .str (sha256.hexdigest plaintext.text)),
    (.str "capabilities", .list [.str capability]), (.str "priority_class", .str (priorityValue priority))]

def buildClientEntry (applicationId capability : String) (priority : PriorityClass) (plaintext : GeneratedKey) :
    Except KeysError (PyValue × GeneratedKey) :=
  if capability ∉ knownCapabilities then .error (.valueError unsupportedCapability)
  else do
    let _ ← InternalPrincipal.create applicationId (sha256.hexdigest plaintext.text) {capability} priority
    .ok (clientEntry sha256 applicationId capability priority plaintext, plaintext)

def buildKeysDocument (applicationId capability : String) (priority : PriorityClass) (plaintext : GeneratedKey) :
    Except KeysError (PyValue × GeneratedKey) := do
  let (entry, plaintext) ← buildClientEntry sha256 applicationId capability priority plaintext
  .ok (.dict [(.str "version", .int 1), (.str "clients", .list [entry])], plaintext)

def clientsOf (document : PyValue) : List PyValue :=
  match document with
  | .dict entries =>
      match PyValue.get entries "clients" with
      | .list items => items
      | _ => []
  | _ => []

def versionOf (document : PyValue) : PyValue :=
  match document with
  | .dict entries => PyValue.get entries "version"
  | _ => .none

def idOf (client : PyValue) : PyValue :=
  match client with
  | .dict entries => PyValue.get entries "id"
  | _ => .none

def appendedDocument (existing entry : PyValue) : PyValue :=
  .dict [(.str "version", versionOf existing), (.str "clients", .list (clientsOf existing ++ [entry]))]

def appendKeysDocument (existingInput : KeysFile) (applicationId capability : String) (priority : PriorityClass)
    (plaintext : GeneratedKey) : Except KeysError (PyValue × GeneratedKey) := do
  let (_, existing) ← loadFile existingInput
  if (clientsOf existing).any (fun client => isKey applicationId (idOf client)) then
    .error (.valueError (idExists applicationId))
  else do
    let (entry, plaintext) ← buildClientEntry sha256 applicationId capability priority plaintext
    let document := appendedDocument existing entry
    let _ ← fromDocument document
    .ok (document, plaintext)

end Code

section Reading

theorem read_clients_iff (items : List PyValue) (principals : List InternalPrincipal) :
    readClients items = .ok principals ↔
      List.Forall₂ (fun item principal => readClient item = .ok (some principal)) items principals := by
  rw [readClients, bind_ok_iff]
  constructor
  · rintro ⟨found, read, whole⟩
    rw [map_m_ok_iff] at read
    by_cases short : found.reduceOption.length ≠ items.length
    · rw [if_pos short] at whole
      cases whole
    · rw [if_neg short] at whole
      cases whole
      have every : ∀ entry ∈ found, entry.isSome = true := by
        rw [← List.reduceOption_length_eq_iff, ← read.length_eq]
        exact not_not.mp short
      clear short
      induction read with
      | nil => exact .nil
      | @cons item entry items found here rest ih =>
          obtain ⟨principal, rfl⟩ := Option.isSome_iff_exists.mp (every entry List.mem_cons_self)
          exact .cons here (ih fun other member => every other (List.mem_cons_of_mem _ member))
  · intro each
    refine ⟨principals.map some, ?_, ?_⟩
    · rw [map_m_ok_iff, List.forall₂_map_right_iff]
      exact each
    · have same : (principals.map some).reduceOption = principals := by
        simp [List.reduceOption, List.filterMap_map]
      rw [same, if_neg (not_not.mpr each.length_eq.symm)]

theorem read_client_fields (item : PyValue) (principal : InternalPrincipal)
    (read : readClient item = .ok (some principal)) :
    ∃ fields, clientFields item = some fields ∧ principalOf fields = .ok principal := by
  rw [readClient] at read
  cases found : clientFields item with
  | none =>
      rw [found] at read
      cases read
  | some fields =>
      rw [found] at read
      cases made : principalOf fields with
      | error error =>
          simp only [made] at read
          cases read
      | ok other =>
          simp only [made] at read
          cases read
          exact ⟨fields, rfl, made⟩

theorem create_fields (clientId keySha256 : String) (capabilities : Finset String) (priorityClass : PriorityClass)
    (principal : InternalPrincipal)
    (created : InternalPrincipal.create clientId keySha256 capabilities priorityClass = .ok principal) :
    principal.clientId = clientId ∧ principal.keySha256 = keySha256 ∧ principal.capabilities = capabilities ∧
      principal.priorityClass = priorityClass := by
  rw [InternalPrincipal.create] at created
  split at created
  · split at created
    · split at created
      · cases created
        exact ⟨rfl, rfl, rfl, rfl⟩
      · cases created
    · cases created
  · cases created

theorem read_client_id (item : PyValue) (principal : InternalPrincipal)
    (read : readClient item = .ok (some principal)) : idOf item = .str principal.clientId := by
  obtain ⟨fields, found, made⟩ := read_client_fields item principal read
  obtain ⟨priorityClass, _, created⟩ := (bind_ok_iff _ _ _).mp made
  rw [(create_fields _ _ _ _ principal created).1]
  cases item with
  | dict entries =>
      rw [clientFields] at found
      split at found
      · split at found
        · rename_i id _ _ _ named _ _ _
          obtain ⟨texts, _, rfl⟩ := Option.map_eq_some_iff.mp found
          exact named
        · cases found
      · cases found
  | none | bool | int | float | str | list | object => cases found

theorem ids_known (items : List PyValue) (principals : List InternalPrincipal) (applicationId : String)
    (each : List.Forall₂ (fun item principal => readClient item = .ok (some principal)) items principals) :
    items.any (fun client => isKey applicationId (idOf client)) = true ↔
      applicationId ∈ principals.map InternalPrincipal.clientId := by
  induction each with
  | nil => simp
  | @cons item principal items principals here rest ih =>
      rw [List.any_cons, Bool.or_eq_true, ih, List.map_cons, List.mem_cons, read_client_id item principal here]
      simp only [isKey, decide_eq_true_eq]
      exact or_congr_left eq_comm

end Reading

section Entry

variable (sha256 : Sha256) (applicationId capability : String) (priority : PriorityClass) (plaintext : GeneratedKey)
  (validId : validApplicationId applicationId = true) (known : capability ∈ knownCapabilities)

def newPrincipal : InternalPrincipal where
  clientId := applicationId
  keySha256 := sha256.hexdigest plaintext.text
  capabilities := {capability}
  priorityClass := priority
  idChecked := validId
  digestChecked := sha256.checked plaintext.text
  capabilitiesChecked := Finset.singleton_subset_iff.mpr known

theorem new_principal_created :
    InternalPrincipal.create applicationId (sha256.hexdigest plaintext.text) {capability} priority =
      .ok (newPrincipal sha256 applicationId capability priority plaintext validId known) := by
  rw [InternalPrincipal.create, dif_pos validId, dif_pos (sha256.checked plaintext.text),
    dif_pos (Finset.singleton_subset_iff.mpr known)]
  rfl

theorem priority_of_value : priorityOf (priorityValue priority) = .ok priority := by
  cases priority with
  | «protected» => rfl
  | background => rfl

theorem read_client_entry :
    readClient (clientEntry sha256 applicationId capability priority plaintext) =
      .ok (some (newPrincipal sha256 applicationId capability priority plaintext validId known)) := by
  have fields : clientFields (clientEntry sha256 applicationId capability priority plaintext) =
      some ⟨applicationId, sha256.hexdigest plaintext.text, [capability], priorityValue priority⟩ := by
    rfl
  have made : principalOf ⟨applicationId, sha256.hexdigest plaintext.text, [capability], priorityValue priority⟩ =
      .ok (newPrincipal sha256 applicationId capability priority plaintext validId known) := by
    rw [principalOf, priority_of_value, ← new_principal_created]
    rfl
  rw [readClient, fields]
  simp only [made]

include validId known

theorem build_client_entry_known :
    buildClientEntry sha256 applicationId capability priority plaintext =
      .ok (clientEntry sha256 applicationId capability priority plaintext, plaintext) := by
  rw [buildClientEntry, if_neg (not_not.mpr known), new_principal_created sha256 _ _ _ _ validId known]
  rfl

end Entry

section Authentication

variable (principals : List InternalPrincipal) (principal : InternalPrincipal)

theorem matching_append (candidate : String) :
    matching candidate (principals ++ [principal]) =
      if candidate = principal.keySha256 then some principal else matching candidate principals := by
  rw [matching, List.foldl_append]
  rfl

theorem create_appended (authenticator : InternalKeyAuthenticator)
    (newId : principal.clientId ∉ authenticator.principals.map InternalPrincipal.clientId) :
    (principal.keySha256 ∈ authenticator.principals.map InternalPrincipal.keySha256 →
      InternalKeyAuthenticator.create (authenticator.principals ++ [principal]) =
        .error (.valueError digestsNotUnique)) ∧
    (principal.keySha256 ∉ authenticator.principals.map InternalPrincipal.keySha256 →
      ∃ next, InternalKeyAuthenticator.create (authenticator.principals ++ [principal]) = .ok next ∧
        next.principals = authenticator.principals ++ [principal]) := by
  have nonempty : authenticator.principals ++ [principal] ≠ [] := by simp
  have ids : ((authenticator.principals ++ [principal]).map InternalPrincipal.clientId).Nodup := by
    rw [List.map_append, List.map_singleton, List.nodup_append_comm, List.singleton_append, List.nodup_cons]
    exact ⟨newId, authenticator.ids⟩
  have digests : ((authenticator.principals ++ [principal]).map InternalPrincipal.keySha256).Nodup ↔
      principal.keySha256 ∉ authenticator.principals.map InternalPrincipal.keySha256 := by
    rw [List.map_append, List.map_singleton, List.nodup_append_comm, List.singleton_append, List.nodup_cons]
    exact and_iff_left authenticator.digests
  constructor
  · intro present
    rw [InternalKeyAuthenticator.create, dif_pos nonempty, dif_pos ids,
      dif_neg (mt digests.mp (not_not.mpr present))]
  · intro absent
    refine ⟨⟨_, nonempty, ids, digests.mpr absent⟩, ?_, rfl⟩
    rw [InternalKeyAuthenticator.create, dif_pos nonempty, dif_pos ids, dif_pos (digests.mpr absent)]

theorem authenticate_appended (sha256 : Sha256) (authenticator next : InternalKeyAuthenticator)
    (plaintext : GeneratedKey) (appended : next.principals = authenticator.principals ++ [principal])
    (digest : principal.keySha256 = sha256.hexdigest plaintext.text) (key : Text)
    (collisionFree : sha256.hexdigest key = sha256.hexdigest plaintext.text → key = plaintext.text) :
    next.authenticate sha256 key =
      if key = plaintext.text then .ok (some principal) else authenticator.authenticate sha256 key := by
  rw [InternalKeyAuthenticator.authenticate, InternalKeyAuthenticator.authenticate, hashApiKey]
  by_cases presented : key = plaintext.text
  · subst presented
    rw [if_neg plaintext.nonempty, if_neg plaintext.nonempty, if_pos (ascii_encodable _ plaintext.ascii), if_pos rfl]
    change Except.ok (matching _ next.principals) = _
    rw [appended, matching_append, if_pos digest.symm]
  · rw [if_neg presented]
    by_cases empty : key = []
    · rw [if_pos empty, if_pos empty]
    · rw [if_neg empty, if_neg empty, if_neg empty]
      by_cases encodable : key.encodable = true
      · have other : sha256.hexdigest key ≠ principal.keySha256 := fun same =>
          presented (collisionFree (same.trans digest))
        rw [if_pos encodable]
        change Except.ok (matching _ next.principals) = Except.ok (matching _ authenticator.principals)
        rw [appended, matching_append, if_neg other]
      · rw [if_neg encodable]
        rfl

end Authentication

section Documents

variable (sha256 : Sha256) (existing : PyValue) (authenticator : InternalKeyAuthenticator)
  (valid : fromDocument existing = .ok authenticator)

include valid

theorem from_document_shape :
    equalsOne (versionOf existing) = true ∧ readClients (clientsOf existing) = .ok authenticator.principals := by
  cases existing with
  | dict entries =>
      rw [fromDocument] at valid
      split at valid
      · rename_i shape
        rw [Bool.and_eq_true] at shape
        cases clients : PyValue.get entries "clients" with
        | list items =>
            simp only [clients] at valid
            obtain ⟨principals, read, created⟩ := (bind_ok_iff _ _ _).mp valid
            have same : authenticator.principals = principals := by
              rw [InternalKeyAuthenticator.create] at created
              split at created
              · split at created
                · split at created
                  · cases created
                    rfl
                  · cases created
                · cases created
              · cases created
            refine ⟨shape.2, ?_⟩
            simp only [clientsOf, clients, same]
            exact read
        | none | bool | int | float | str | dict | object =>
            simp only [clients] at valid
            cases valid
      · cases valid
  | none | bool | int | float | str | list | object => cases valid

theorem from_appended (entry : PyValue) (principal : InternalPrincipal)
    (read : readClient entry = .ok (some principal)) :
    fromDocument (appendedDocument existing entry) =
      InternalKeyAuthenticator.create (authenticator.principals ++ [principal]) := by
  obtain ⟨version, clients⟩ := from_document_shape existing authenticator valid
  have each := (read_clients_iff _ _).mp clients
  have whole : readClients (clientsOf existing ++ [entry]) = .ok (authenticator.principals ++ [principal]) :=
    (read_clients_iff _ _).mpr (List.rel_append each (.cons read .nil))
  have keys : keysAre [(.str "version", versionOf existing), (.str "clients", .list (clientsOf existing ++ [entry]))]
      ["version", "clients"] = true := rfl
  have one : equalsOne (PyValue.get [(.str "version", versionOf existing),
      (.str "clients", .list (clientsOf existing ++ [entry]))] "version") = true := version
  rw [appendedDocument, fromDocument, keys, one]
  exact (congrArg (· >>= InternalKeyAuthenticator.create) whole)

end Documents

section Appending

variable (sha256 : Sha256) (existing : PyValue) (authenticator : InternalKeyAuthenticator)
  (valid : fromDocument existing = .ok authenticator) (mode : Nat) (closed : othersWrite mode = false)
  (applicationId capability : String) (validId : validApplicationId applicationId = true)
  (known : capability ∈ knownCapabilities) (priority : PriorityClass) (plaintext : GeneratedKey)

structure Appended (document : PyValue) (next : InternalKeyAuthenticator) : Prop where
  version : versionOf document = versionOf existing
  clients : clientsOf document =
    clientsOf existing ++ [clientEntry sha256 applicationId capability priority plaintext]
  accepted : fromDocument document = .ok next

def InternalKeyAuthenticator.clientIds (authenticator : InternalKeyAuthenticator) : List String :=
  authenticator.principals.map InternalPrincipal.clientId

def InternalKeyAuthenticator.keyDigests (authenticator : InternalKeyAuthenticator) : List String :=
  authenticator.principals.map InternalPrincipal.keySha256

include valid closed

theorem append_loads :
    loadFile (.opened mode (.value existing)) = .ok (authenticator, existing) := by
  rw [loadFile, closed]
  simp [valid, bind, Except.bind]

theorem append_known_id (present : applicationId ∈ authenticator.clientIds) :
    appendKeysDocument sha256 (.opened mode (.value existing)) applicationId capability priority plaintext =
      .error (.valueError (idExists applicationId)) := by
  have clients := (read_clients_iff _ _).mp (from_document_shape existing authenticator valid).2
  rw [appendKeysDocument, append_loads existing authenticator valid mode closed]
  exact if_pos ((ids_known _ _ applicationId clients).mpr present)

include validId known

theorem append_new_id (absent : applicationId ∉ authenticator.clientIds) :
    appendKeysDocument sha256 (.opened mode (.value existing)) applicationId capability priority plaintext =
      (InternalKeyAuthenticator.create (authenticator.principals ++
        [newPrincipal sha256 applicationId capability priority plaintext validId known])).map (fun _ =>
          (appendedDocument existing (clientEntry sha256 applicationId capability priority plaintext), plaintext)) := by
  have clients := (read_clients_iff _ _).mp (from_document_shape existing authenticator valid).2
  have unknown : ¬ (clientsOf existing).any (fun client => isKey applicationId (idOf client)) = true :=
    mt (ids_known _ _ applicationId clients).mp absent
  rw [appendKeysDocument, append_loads existing authenticator valid mode closed]
  refine (if_neg unknown).trans ?_
  rw [build_client_entry_known sha256 applicationId capability priority plaintext validId known]
  rw [← from_appended existing authenticator valid _ _
    (read_client_entry sha256 applicationId capability priority plaintext validId known)]
  change (fromDocument (appendedDocument existing _) >>= fun _ => .ok (appendedDocument existing _, plaintext)) = _
  cases fromDocument (appendedDocument existing (clientEntry sha256 applicationId capability priority plaintext)) with
  | ok next => rfl
  | error error => rfl

-- A collision aside, the new key makes the new principal known and every other
-- key is what it was. (A digest that is there already raises.)
theorem append_preserves_credentials :
    (applicationId ∈ authenticator.clientIds →
      appendKeysDocument sha256 (.opened mode (.value existing)) applicationId capability priority plaintext =
        .error (.valueError (idExists applicationId))) ∧
    (applicationId ∉ authenticator.clientIds →
      sha256.hexdigest plaintext.text ∈ authenticator.keyDigests →
      appendKeysDocument sha256 (.opened mode (.value existing)) applicationId capability priority plaintext =
        .error (.valueError digestsNotUnique)) ∧
    (applicationId ∉ authenticator.clientIds →
      sha256.hexdigest plaintext.text ∉ authenticator.keyDigests →
      ∃ document next principal,
        appendKeysDocument sha256 (.opened mode (.value existing)) applicationId capability priority plaintext =
          .ok (document, plaintext) ∧
        Appended sha256 existing applicationId capability priority plaintext document next ∧
        (principal.clientId = applicationId ∧ principal.capabilities = {capability} ∧
          principal.priorityClass = priority) ∧
        ∀ key, (sha256.hexdigest key = sha256.hexdigest plaintext.text → key = plaintext.text) →
          next.authenticate sha256 key =
            if key = plaintext.text then .ok (some principal) else authenticator.authenticate sha256 key) := by
  have run := append_new_id sha256 existing authenticator valid mode closed applicationId capability validId known
    priority plaintext
  refine ⟨append_known_id sha256 existing authenticator valid mode closed applicationId capability priority plaintext,
    ?_, ?_⟩
  · intro absent taken
    rw [run absent, (create_appended (newPrincipal sha256 applicationId capability priority plaintext validId known)
      authenticator absent).1 taken]
    rfl
  · intro absent fresh
    obtain ⟨next, created, appended⟩ :=
      (create_appended (newPrincipal sha256 applicationId capability priority plaintext validId known)
        authenticator absent).2 fresh
    have accepted := from_appended existing authenticator valid _ _
      (read_client_entry sha256 applicationId capability priority plaintext validId known)
    refine ⟨appendedDocument existing (clientEntry sha256 applicationId capability priority plaintext), next,
      newPrincipal sha256 applicationId capability priority plaintext validId known, ?_,
      ⟨rfl, rfl, accepted.trans created⟩, ⟨rfl, rfl, rfl⟩, ?_⟩
    · rw [run absent, created]
      rfl
    intro key collisionFree
    exact authenticate_appended _ sha256 authenticator next plaintext appended rfl key collisionFree

end Appending

section Sample

def existingKey : Text := asciiText "Zy1Xw3Vu5Ts7Rq9Po0Nm2Lk4Ji6Hg8Fe0Dc2Ba4Aa6c"

def existingDigest : String := "647b69ccdd014a4e8688c23a399e7741991063a727db1e0b6b697db8acf02e20"

def newKey : GeneratedKey where
  text := asciiText "q7Xb0Yp3Lr9sVt2uWm4Kc6Nd8Ze1Ff5Gh7Ji0Oa2Bp4"
  nonempty := by decide +kernel
  ascii := by decide +kernel

def newDigest : String := "106f585be1aa7ec82b5aaa685ca83060c8f579c9b1cc69a93a2b0f80ff0793bc"

def otherDigest : String := "e3b0c44298fc1c149afbf4c8996fb92427ae41e4649b934ca495991b7852b855"

def sampleSha256 : Sha256 where
  hexdigest text :=
    if text = existingKey then existingDigest
    else if text = newKey.text then newDigest
    else otherDigest
  checked text := by
    split
    · decide +kernel
    · split
      · decide +kernel
      · decide +kernel

def samplePrincipal : InternalPrincipal where
  clientId := "butterfly-guy"
  keySha256 := existingDigest
  capabilities := {"market_data:read"}
  priorityClass := .protected
  idChecked := by decide +kernel
  digestChecked := by decide +kernel
  capabilitiesChecked := by decide +kernel

def sampleAuthenticator : InternalKeyAuthenticator where
  principals := [samplePrincipal]
  nonempty := by decide +kernel
  ids := by decide +kernel
  digests := by decide +kernel

def sampleDocument : PyValue :=
  .dict [(.str "version", .int 1), (.str "clients", .list [
    .dict [(.str "id", .str "butterfly-guy"), (.str "key_sha256", .str existingDigest),
      (.str "capabilities", .list [.str "market_data:read"]), (.str "priority_class", .str "protected")]])]

theorem sample_document_valid : fromDocument sampleDocument = .ok sampleAuthenticator := by
  decide +kernel

theorem append_equity_scanner :
    ∃ (document : PyValue) (next : InternalKeyAuthenticator) (principal : InternalPrincipal),
      appendKeysDocument sampleSha256 (.opened 0o600 (.value sampleDocument)) "equity-scanner" "market_data:read"
        .background newKey = .ok (document, newKey) ∧
      principal.clientId = "equity-scanner" ∧
      next.authenticate sampleSha256 newKey.text = .ok (some principal) ∧
      next.authenticate sampleSha256 existingKey = .ok (some samplePrincipal) := by
  obtain ⟨document, next, principal, run, _, fields, answers⟩ :=
    (append_preserves_credentials sampleSha256 sampleDocument sampleAuthenticator sample_document_valid 0o600
      (by decide) "equity-scanner" "market_data:read" (by decide +kernel) (by decide +kernel) .background
      newKey).2.2 (by decide +kernel) (by decide +kernel)
  refine ⟨document, next, principal, run, fields.1, ?_, ?_⟩
  · rw [answers newKey.text (fun _ => rfl), if_pos rfl]
  · rw [answers existingKey (by decide +kernel), if_neg (by decide +kernel)]
    decide +kernel

end Sample

end SchwabGateway.Keys
