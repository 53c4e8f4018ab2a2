import SchwabGateway.Library.Attempt
import SchwabGateway.Token.Document

set_option autoImplicit false

namespace SchwabGateway.Token

open SchwabGateway.Python

-- What a path can name. Opening never follows a symbolic link.
inductive Entry where
  | regular (mode : Nat) (content : Bytes)
  | directory
  | special
  | symlink
deriving DecidableEq

-- The token's directory as one transaction sees it: the token path and the
-- temporary file of the write that is going on.
structure Directory where
  token : Option Entry
  temporary : Option Entry
deriving DecidableEq

def ownerOnly : Nat := 0o600

variable (codec : Codec)

def read (maxTokenBytes : Nat) (disk : Directory) : Except Exception PyValue :=
  match disk.token with
  | none => .error (.token (.missing documentMissing))
  | some .symlink => .error (.token (.corrupt documentUnsafe))
  | some .directory => .error (.token (.corrupt documentNotRegular))
  | some .special => .error (.token (.corrupt documentNotRegular))
  | some (.regular mode content) =>
      if mode ≠ ownerOnly then .error (.token (.corrupt documentPermissions))
      else if content.length > maxTokenBytes then .error (.token (.corrupt documentTooLarge))
      else
        match codec.load content with
        | .ok value => .ok value
        | .error .invalid => .error (.token (.corrupt documentNotJson))
        | .error .recursionError => .error .recursionError

inductive Call where
  | mkstemp
  | fchmod
  | fdopen
  | serialization
  | write
  | flush
  | fileFsync
  | fileClose
  | replace
  | directoryOpen
  | directoryFsync
  | directoryClose
deriving DecidableEq

structure Fault where
  call : Call
  errno : Nat
deriving DecidableEq

variable (fault : Option Fault)

def attempt (call : Call) : Except Exception Unit :=
  match fault with
  | some failing => if failing.call = call then .error (.osError failing.errno) else .ok ()
  | none => .ok ()

-- EINVAL, ENOTSUP and EBADF: the file system has no fsync for directories.
def toleratedErrnos : List Nat := [22, 95, 9]

def tolerate (synced : Except Exception Unit) : Except Exception Unit :=
  match synced with
  | .error (.osError errno) =>
      if errno ∈ toleratedErrnos then .ok () else .error (.osError errno)
  | other => other

-- The descriptor is closed on both ways out, and a failing close replaces
-- whatever was being raised.
def fsyncDirectory : Except Exception Unit := do
  attempt fault .directoryOpen
  let synced := tolerate (attempt fault .directoryFsync)
  attempt fault .directoryClose
  synced

-- The try block: the disk keeps what was done before an exception.
abbrev DiskAction (α : Type) := Library.Attempt Exception Directory α

def perform (call : Call) (effect : Directory → Directory) : DiskAction Unit := fun disk =>
  match attempt fault call with
  | .ok () => (.ok (), effect disk)
  | .error error => (.error error, disk)

def raisedBy : DumpError → Exception
  | .typeError => .typeError
  | .valueError => .valueError
  | .recursionError => .recursionError

def serialize (token : PyValue) : DiskAction Bytes := fun disk =>
  match codec.dump token with
  | .ok content => (.ok content, disk)
  | .error error => (.error (raisedBy error), disk)

def Directory.withTemporary (content : Bytes) (disk : Directory) : Directory :=
  { disk with temporary := some (.regular ownerOnly content) }

-- The with block: the temporary file is created, filled, synced and closed.
def prepare (token : PyValue) : DiskAction Unit := do
  perform fault .mkstemp (Directory.withTemporary [])
  perform fault .fchmod id
  perform fault .fdopen id
  perform fault .serialization id
  let content ← serialize codec token
  perform fault .write (Directory.withTemporary content)
  perform fault .flush id
  perform fault .fileFsync id
  perform fault .fileClose id

-- A file cannot be renamed over a directory (EISDIR is 21).
def replace : DiskAction Unit := fun disk =>
  match attempt fault .replace, disk.token with
  | .error error, _ => (.error error, disk)
  | .ok (), some .directory => (.error (.osError 21), disk)
  | .ok (), _ => (.ok (), { token := disk.temporary, temporary := none })

def persist (token : PyValue) : DiskAction Unit := do
  prepare codec fault token
  replace fault
  fun disk => (fsyncDirectory fault, disk)

-- The except clause. A recursion error is none of the three it names.
def reported : Exception → Exception
  | .osError _ => .token (.persistence notPersisted)
  | .typeError => .token (.persistence notPersisted)
  | .valueError => .token (.persistence notPersisted)
  | other => other

-- What is left of the temporary file is unlinked on every way out.
def write (token : PyValue) (disk : Directory) : Except Exception Unit × Directory :=
  match persist codec fault token disk with
  | (.ok (), after) => (.ok (), { after with temporary := none })
  | (.error error, after) => (.error (reported error), { after with temporary := none })

end SchwabGateway.Token
