import Mathlib.Data.Finset.Dedup
import Mathlib.Data.Finset.SDiff
import SchwabGateway.Admission
import SchwabGateway.Library.Except
import SchwabGateway.Python.Text
import SchwabGateway.Python.Value

set_option autoImplicit false

namespace SchwabGateway.Keys

open SchwabGateway.Python SchwabGateway.Library

-- The exceptions of the key files: the OSErrors that nothing turns into
-- another, and the ValueErrors, those of the code by their texts.
inductive KeysError where
  | osError
  | valueError (message : String)
  | unknownCapabilities (unknown : Finset String)
  | invalidPriority (value : String)
  | unicodeError
deriving DecidableEq

def invalidApplicationId : String := "invalid gateway application ID"
def invalidDigest : String := "key_sha256 must be a lowercase SHA-256 digest"
def principalRequired : String := "at least one gateway principal is required"
def idsNotUnique : String := "gateway client IDs must be unique"
def digestsNotUnique : String := "gateway API key digests must be unique"
def invalidSchema : String := "invalid gateway keys file schema"
def invalidClientEntry : String := "invalid gateway client entry"
def keysUnreadable : String := "gateway keys file could not be read or parsed"
def keysWritable : String := "gateway keys file must not be group/world writable"
def keyEmpty : String := "API key must not be empty"

def knownCapabilities : Finset String := {"market_data:read"}

def isLowerAlnum (c : Char) : Bool := ('a' ≤ c && c ≤ 'z') || ('0' ≤ c && c ≤ '9')

-- [a-z0-9](?:[a-z0-9-]{0,62}[a-z0-9])?
def validApplicationId (id : String) : Bool :=
  match id.toList with
  | [] => false
  | first :: rest =>
      isLowerAlnum first &&
        match rest.getLast? with
        | none => true
        | some last =>
            isLowerAlnum last && rest.length ≤ 63 && rest.dropLast.all (fun c => isLowerAlnum c || c = '-')

-- [0-9a-f]{64}
def validDigest (digest : String) : Bool :=
  digest.length = 64 && digest.toList.all (fun c => ('0' ≤ c && c ≤ '9') || ('a' ≤ c && c ≤ 'f'))

def priorityValue : PriorityClass → String
  | .protected => "protected"
  | .background => "background"

def priorityOf (value : String) : Except KeysError PriorityClass :=
  if value = "protected" then .ok .protected
  else if value = "background" then .ok .background
  else .error (.invalidPriority value)

structure InternalPrincipal where
  clientId : String
  keySha256 : String
  capabilities : Finset String
  priorityClass : PriorityClass
  idChecked : validApplicationId clientId = true
  digestChecked : validDigest keySha256 = true
  capabilitiesChecked : capabilities ⊆ knownCapabilities
deriving DecidableEq

def InternalPrincipal.create (clientId keySha256 : String) (capabilities : Finset String)
    (priorityClass : PriorityClass) : Except KeysError InternalPrincipal :=
  if id : validApplicationId clientId = true then
    if digest : validDigest keySha256 = true then
      if known : capabilities ⊆ knownCapabilities then
        .ok ⟨clientId, keySha256, capabilities, priorityClass, id, digest, known⟩
      else .error (.unknownCapabilities (capabilities \ knownCapabilities))
    else .error (.valueError invalidDigest)
  else .error (.valueError invalidApplicationId)

structure InternalKeyAuthenticator where
  principals : List InternalPrincipal
  nonempty : principals ≠ []
  ids : (principals.map InternalPrincipal.clientId).Nodup
  digests : (principals.map InternalPrincipal.keySha256).Nodup
deriving DecidableEq

def InternalKeyAuthenticator.create (principals : List InternalPrincipal) :
    Except KeysError InternalKeyAuthenticator :=
  if nonempty : principals ≠ [] then
    if ids : (principals.map InternalPrincipal.clientId).Nodup then
      if digests : (principals.map InternalPrincipal.keySha256).Nodup then
        .ok ⟨principals, nonempty, ids, digests⟩
      else .error (.valueError digestsNotUnique)
    else .error (.valueError idsNotUnique)
  else .error (.valueError principalRequired)

def isKey (name : String) : PyValue → Bool
  | .str key => key = name
  | _ => false

-- set(entries) == set(names).
def keysAre (entries : List (PyValue × PyValue)) (names : List String) : Bool :=
  entries.all (fun entry => names.any (isKey · entry.1)) &&
    names.all (fun name => entries.any (fun entry => isKey name entry.1))

-- value == 1, which True and 1.0 are as well.
def equalsOne : PyValue → Bool
  | .int n => n = 1
  | .bool value => value
  | .float (.finite value) => value = 1
  | _ => false

structure ClientFields where
  id : String
  keySha256 : String
  capabilities : List String
  priorityClass : String

def textOf : PyValue → Option String
  | .str text => some text
  | _ => none

-- The items that the condition of the generator lets through.
def clientFields : PyValue → Option ClientFields
  | .dict entries =>
      if keysAre entries ["id", "key_sha256", "capabilities", "priority_class"] then
        match PyValue.get entries "id", PyValue.get entries "key_sha256", PyValue.get entries "capabilities",
            PyValue.get entries "priority_class" with
        | .str id, .str keySha256, .list capabilities, .str priorityClass =>
            (capabilities.mapM textOf).map (fun texts => ⟨id, keySha256, texts, priorityClass⟩)
        | _, _, _, _ => none
      else none
  | _ => none

def principalOf (fields : ClientFields) : Except KeysError InternalPrincipal := do
  let priorityClass ← priorityOf fields.priorityClass
  InternalPrincipal.create fields.id fields.keySha256 fields.capabilities.toFinset priorityClass

-- An item that is let through and makes no principal ends the whole.
def readClient (item : PyValue) : Except KeysError (Option InternalPrincipal) :=
  match clientFields item with
  | none => .ok none
  | some fields =>
      match principalOf fields with
      | .ok principal => .ok (some principal)
      | .error _ => .error (.valueError invalidClientEntry)

def readClients (items : List PyValue) : Except KeysError (List InternalPrincipal) := do
  let found ← items.mapM readClient
  if found.reduceOption.length ≠ items.length then .error (.valueError invalidClientEntry)
  else .ok found.reduceOption

def fromDocument (payload : PyValue) : Except KeysError InternalKeyAuthenticator :=
  match payload with
  | .dict entries =>
      if keysAre entries ["version", "clients"] && equalsOne (PyValue.get entries "version") then
        match PyValue.get entries "clients" with
        | .list items => do
            let principals ← readClients items
            InternalKeyAuthenticator.create principals
        | _ => .error (.valueError invalidSchema)
      else .error (.valueError invalidSchema)
  | _ => .error (.valueError invalidSchema)

-- What json.load makes of the file: undecodable is what raises a UnicodeError,
-- which is no JSONDecodeError.
inductive Parsed where
  | value (payload : PyValue)
  | unparsable
  | undecodable

-- A failing call on the open file is not in the try block.
inductive KeysFile where
  | unopenable
  | failing
  | opened (mode : Nat) (parsed : Parsed)

def othersWrite (mode : Nat) : Bool := mode &&& 0o022 ≠ 0

def loadFile (file : KeysFile) : Except KeysError (InternalKeyAuthenticator × PyValue) :=
  match file with
  | .unopenable => .error (.valueError keysUnreadable)
  | .failing => .error .osError
  | .opened mode parsed =>
      if othersWrite mode then .error (.valueError keysWritable)
      else
        match parsed with
        | .unparsable => .error (.valueError keysUnreadable)
        | .undecodable => .error .unicodeError
        | .value payload => do
            let authenticator ← fromDocument payload
            .ok (authenticator, payload)

structure Sha256 where
  hexdigest : Text → String
  checked : ∀ text, validDigest (hexdigest text) = true

section Authentication

variable (sha256 : Sha256)

def hashApiKey (apiKey : Text) : Except KeysError String :=
  if apiKey = [] then .error (.valueError keyEmpty)
  else if apiKey.encodable then .ok (sha256.hexdigest apiKey)
  else .error .unicodeError

-- The scan keeps the last principal that matches.
def matching (candidate : String) (principals : List InternalPrincipal) : Option InternalPrincipal :=
  principals.foldl (fun authenticated principal =>
    if candidate = principal.keySha256 then some principal else authenticated) none

def InternalKeyAuthenticator.authenticate (authenticator : InternalKeyAuthenticator) (apiKey : Text) :
    Except KeysError (Option InternalPrincipal) :=
  if apiKey = [] then .ok none
  else do
    let candidate ← hashApiKey sha256 apiKey
    .ok (matching candidate authenticator.principals)

end Authentication

end SchwabGateway.Keys
