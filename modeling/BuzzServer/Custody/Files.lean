/-
This file models the custody of agent identities, one system call at a time.

A secret is written to a temporary file and linked to its final name, so that it
appears there complete or not at all, and the temporary name is removed
afterwards. The two names share one inode, which is why the model keeps names
and inodes apart. Any number of callers provision, load and purge; any system
call may fail, a failing write may leave a part of its text, and a crash loses
every caller and no file.

Keys and the uuids of temporary names come from outside: nothing is assumed
about them here.
-/

import BuzzServer.Concurrent.Auxiliary
import BuzzServer.Concurrent.Discipline
import BuzzServer.Domain.Basic
import BuzzServer.Relational.Table

namespace BuzzServer

open Relational Concurrent Concurrent.Fallible

/-! ### Files and keys -/

/-- The names under the custody root: the secret of an agent, and the temporary files its
provisioning writes. -/
inductive CustodyName where
  | secret (id : AgentId)
  | temporary (id : AgentId) (uuid : Nat)
  deriving DecidableEq

inductive FileKind where
  | file
  | directory
  | symlink (toDirectory : Bool)
  deriving DecidableEq

structure Metadata where
  kind : FileKind
  (uid mode : Nat)
  deriving DecidableEq

structure Inode where
  content : List Char
  metadata : Metadata
  deriving DecidableEq

inductive IoError where
  | notFound
  | alreadyExists
  | other

inductive CustodyError where
  | io (error : IoError)
  | unsafeRoot
  | wrongOwner
  | unsafeSecret
  | invalidSecret

/-- The owner that custody files have to have, and the user the process creates files as. -/
structure CustodyPolicy where
  (expectedOwnerUid processUid : Nat)

/-- The metadata of a file that was created with mode 0600. -/
def CustodyPolicy.fileMetadata (policy : CustodyPolicy) : Metadata :=
  ⟨.file, policy.processUid, 0o600⟩

def secretHexBytes : Nat := 64

/-- Key pairs and their texts: a secret key is written as 64 hex digits and read back. -/
structure KeyCodec (Keys : Type) where
  toSecretHex : Keys → List Char
  parse : List Char → Option Keys
  publicKey : Keys → String
  length_toSecretHex : ∀ keys, (toSecretHex keys).length = secretHexBytes
  hex_toSecretHex : ∀ keys, (toSecretHex keys).all isAsciiHexDigit = true
  parse_toSecretHex : ∀ keys, parse (toSecretHex keys) = some keys

theorem KeyCodec.toSecretHex_injective {Keys : Type} (codec : KeyCodec Keys) {first second : Keys}
    (same : codec.toSecretHex first = codec.toSecretHex second) : first = second := by
  have parsed := codec.parse_toSecretHex first
  rw [same, codec.parse_toSecretHex] at parsed
  exact (Option.some.inj parsed).symm

structure CustodiedIdentity where
  agentId : AgentId
  publicKey : String
  deriving DecidableEq

/-! ### The world and its system calls -/

/-- The custody root and the files under it, what the sources of keys and uuids give next, and
whether the next system call fails. -/
structure CustodyWorld (Keys : Type) where
  root : Option Metadata
  files : Table CustodyName Nat
  inodes : Table Nat Inode
  nextInode : Nat
  entropy : Keys
  uuid : Nat
  fails : Bool
  /-- How much of its text a failing write leaves in the file. -/
  written : Nat

inductive CustodyCall where
  | provision (id : AgentId)
  | load (id : AgentId)
  | purge (id : AgentId)
  deriving DecidableEq

/-- The system calls, with a mark at the beginning and the end of a call of the custody. -/
inductive CustodyAction (Keys : Type) : Type → Type where
  | enter (call : CustodyCall) : CustodyAction Keys Unit
  | createDirAll : CustodyAction Keys (Except IoError Unit)
  | rootMetadata : CustodyAction Keys (Except IoError Metadata)
  | setRootPermissions (mode : Nat) : CustodyAction Keys (Except IoError Unit)
  | symlinkMetadata (name : CustodyName) : CustodyAction Keys (Except IoError Metadata)
  | open (name : CustodyName) : CustodyAction Keys (Except IoError Nat)
  | read (handle count : Nat) : CustodyAction Keys (Except IoError (List Char))
  | generateKeys : CustodyAction Keys Keys
  | newUuid : CustodyAction Keys Nat
  | createNew (name : CustodyName) : CustodyAction Keys (Except IoError Nat)
  | writeAll (handle : Nat) (text : List Char) : CustodyAction Keys (Except IoError Unit)
  | syncAll (handle : Nat) : CustodyAction Keys (Except IoError Unit)
  | hardLink (source target : CustodyName) : CustodyAction Keys (Except IoError Unit)
  | removeFile (name : CustodyName) : CustodyAction Keys (Except IoError Unit)
  | provisioned (id : AgentId) (outcome : Except CustodyError CustodiedIdentity) :
      CustodyAction Keys Unit
  | loaded (id : AgentId) (outcome : Except CustodyError Keys) : CustodyAction Keys Unit
  | purged (id : AgentId) (outcome : Except CustodyError Unit) : CustodyAction Keys Unit

namespace CustodyWorld

variable {Keys : Type} (policy : CustodyPolicy) (world : CustodyWorld Keys)

/-- A directory that exists is left alone; a missing one is created. -/
def createDirAll : Except IoError Unit × CustodyWorld Keys :=
  match world.root with
  | none => (.ok (), { world with root := some ⟨.directory, policy.processUid, 0o755⟩ })
  | some metadata =>
      if metadata.kind = .directory ∨ metadata.kind = .symlink true then (.ok (), world)
      else (.error .alreadyExists, world)

def rootMetadata : Except IoError Metadata :=
  match world.root with
  | none => .error .notFound
  | some metadata => .ok metadata

def setRootPermissions (mode : Nat) : Except IoError Unit × CustodyWorld Keys :=
  match world.root with
  | none => (.error .notFound, world)
  | some metadata => (.ok (), { world with root := some { metadata with mode := mode } })

variable (name : CustodyName)

/-- The inode of a name. -/
def openFile : Except IoError Nat :=
  match world.files.lookup name with
  | none => .error .notFound
  | some inode => .ok inode

def symlinkMetadata : Except IoError Metadata :=
  match (world.files.lookup name).bind world.inodes.lookup with
  | none => .error .notFound
  | some inode => .ok inode.metadata

/-- At most a number of characters of a file. -/
def read (handle count : Nat) : Except IoError (List Char) :=
  match world.inodes.lookup handle with
  | none => .error .other
  | some inode => .ok (inode.content.take count)

/-- A new empty file, if the name is free. -/
def createNew : Except IoError Nat × CustodyWorld Keys :=
  if name ∈ world.files then (.error .alreadyExists, world)
  else
    (.ok world.nextInode, { world with
        files := world.files.insert name world.nextInode
        inodes := world.inodes.insert world.nextInode ⟨[], policy.fileMetadata⟩
        nextInode := world.nextInode + 1 })

/-- A text at the end of a file. -/
def append (handle : Nat) (text : List Char) : CustodyWorld Keys :=
  match world.inodes.lookup handle with
  | none => world
  | some inode =>
      { world with
        inodes := world.inodes.insert handle { inode with content := inode.content ++ text } }

/-- A second name for a file, if it is free. -/
def hardLink (source target : CustodyName) : Except IoError Unit × CustodyWorld Keys :=
  match world.files.lookup source with
  | none => (.error .notFound, world)
  | some inode =>
      if target ∈ world.files then (.error .alreadyExists, world)
      else (.ok (), { world with files := world.files.insert target inode })

def removeFile : Except IoError Unit × CustodyWorld Keys :=
  if name ∈ world.files then (.ok (), { world with files := world.files.erase name })
  else (.error .notFound, world)

/-- A system call that changes nothing if it fails. -/
def unlessFails {Result : Type} (call : Except IoError Result × CustodyWorld Keys) :
    Except IoError Result × CustodyWorld Keys :=
  if world.fails then (.error .other, world) else call

/-- What a system call responds, and the world it leaves. -/
def perform ⦃Response : Type⦄ (action : CustodyAction Keys Response)
    (world : CustodyWorld Keys) : Response × CustodyWorld Keys :=
  match action with
  | .enter _ => ((), world)
  | .createDirAll => world.unlessFails (world.createDirAll policy)
  | .rootMetadata => world.unlessFails (world.rootMetadata, world)
  | .setRootPermissions mode => world.unlessFails (world.setRootPermissions mode)
  | .symlinkMetadata name => world.unlessFails (world.symlinkMetadata name, world)
  | .open name => world.unlessFails (world.openFile name, world)
  | .read handle count => world.unlessFails (world.read handle count, world)
  | .generateKeys => (world.entropy, world)
  | .newUuid => (world.uuid, world)
  | .createNew name => world.unlessFails (world.createNew policy name)
  | .writeAll handle text =>
      if world.fails then (.error .other, world.append handle (text.take world.written))
      else (.ok (), world.append handle text)
  | .syncAll _ => world.unlessFails (.ok (), world)
  | .hardLink source target => world.unlessFails (world.hardLink source target)
  | .removeFile name => world.unlessFails (world.removeFile name)
  | .provisioned _ _ => ((), world)
  | .loaded _ _ => ((), world)
  | .purged _ _ => ((), world)

end CustodyWorld

/-! ### The custody -/

/-- A call of the custody that may fail. -/
abbrev Custody (Keys : Type) : Type → Type 1 := Fallible (CustodyAction Keys) CustodyError

section

variable (codec : KeyCodec Keys) (policy : CustodyPolicy)

def prepareRoot : Custody Keys Unit := do
  attempt .io .createDirAll
  let metadata ← attempt .io .rootMetadata
  if metadata.kind ≠ .directory then throw .unsafeRoot
  else if metadata.uid ≠ policy.expectedOwnerUid then throw .wrongOwner
  else attempt .io (.setRootPermissions 0o700)

/-- Whether a secret is a plain file that only its owner can touch. -/
def Metadata.isSafe (metadata : Metadata) : Bool :=
  decide (metadata.kind = .file) && decide (metadata.uid = policy.expectedOwnerUid) &&
    decide (metadata.mode &&& 0o077 = 0)

/-- The keys a text stands for. -/
def parseSecret (secret : List Char) : Custody Keys Keys :=
  if secret.length ≠ secretHexBytes ∨ secret.all isAsciiHexDigit = false then
    throw .invalidSecret
  else
    match codec.parse secret with
    | some keys => pure keys
    | none => throw .invalidSecret

def readKeys (name : CustodyName) : Custody Keys Keys := do
  let metadata ← attempt .io (.symlinkMetadata name)
  if metadata.isSafe policy then do
    let handle ← attempt .io (.open name)
    let secret ← attempt .io (.read handle (secretHexBytes + 1))
    parseSecret codec secret
  else throw .unsafeSecret

/-- New keys, written to a temporary file and linked to the name of the secret, unless another
caller was first. The keys are read back from that name in either case. -/
def createKeys (id : AgentId) : Custody Keys Keys := do
  let keys ← always .generateKeys
  let uuid ← always .newUuid
  let handle ← attempt .io (.createNew (.temporary id uuid))
  attempt .io (.writeAll handle (codec.toSecretHex keys))
  attempt .io (.syncAll handle)
  let linked ← always (.hardLink (.temporary id uuid) (.secret id))
  match linked with
  | .ok () | .error .alreadyExists => do
      attempt .io (.removeFile (.temporary id uuid))
      readKeys codec policy (.secret id)
  | .error error => do
      let _ ← always (.removeFile (.temporary id uuid))
      throw (.io error)

/-- What provisioning does after it has looked for keys. -/
def keysOrCreate (id : AgentId) : Except CustodyError Keys → Custody Keys Keys
  | .ok keys => pure keys
  | .error (.io .notFound) => createKeys codec policy id
  | .error error => throw error

def provision (id : AgentId) : Custody Keys CustodiedIdentity := do
  prepareRoot policy
  let found ← capture (readKeys codec policy (.secret id))
  let keys ← keysOrCreate codec policy id found
  return ⟨id, codec.publicKey keys⟩

variable (id : AgentId)

def load : Custody Keys Keys := do
  prepareRoot policy
  readKeys codec policy (.secret id)

/-- A secret that is not there is purged already. -/
def purge : Custody Keys Unit := do
  prepareRoot policy
  let removed ← always (.removeFile (.secret id))
  match removed with
  | .ok () | .error .notFound => pure ()
  | .error error => throw (.io error)

/-- A call of the custody, its answer marked. -/
def CustodyCall.serve : CustodyCall → Program (CustodyAction Keys) Unit
  | .provision id =>
      .step (.enter (.provision id)) fun _ =>
        (BuzzServer.provision codec policy id).run.bind fun outcome =>
          Program.perform (.provisioned id outcome)
  | .load id =>
      .step (.enter (.load id)) fun _ =>
        (BuzzServer.load codec policy id).run.bind fun outcome =>
          Program.perform (.loaded id outcome)
  | .purge id =>
      .step (.enter (.purge id)) fun _ =>
        (BuzzServer.purge policy id).run.bind fun outcome =>
          Program.perform (.purged id outcome)

/-! ### The callers -/

/-- What changes around the callers: the sources of keys and uuids, and what fails. -/
inductive CustodyInterference (world : CustodyWorld Keys) : CustodyWorld Keys → Prop
  | sources (entropy : Keys) (uuid : Nat) :
      CustodyInterference world { world with entropy := entropy, uuid := uuid }
  | faults (fails : Bool) (written : Nat) :
      CustodyInterference world { world with fails := fails, written := written }

abbrev Caller : Type := Nat

/-- Any number of callers of the custody. A crash loses them and keeps the files. -/
def custodians : System Caller (CustodyAction Keys) (CustodyWorld Keys) where
  perform := fun _ _ action world => CustodyWorld.perform policy action world
  starts := fun _ world program after =>
    after = world ∧ ∃ call : CustodyCall, program = call.serve codec policy
  environment := CustodyInterference
  restarts := fun world after threads => after = world ∧ threads = fun _ => .done ()

end

/-! ### What was done -/

/-- What the callers have done: who created a file, the agent a file was linked for, the keys
a caller has drawn and not written, all keys drawn, the calls in progress, the purges past
their removal, what was answered, and the agents that were purged and not provisioned
since. -/
structure CustodyNote (Keys : Type) where
  writers : Table Nat Caller
  published : Table Nat AgentId
  held : Table Caller Keys
  drawn : List Keys
  calls : Table Caller CustodyCall
  removed : Table Caller Unit
  provisioned : List CustodiedIdentity
  loaded : List (AgentId × Keys)
  purged : Table AgentId Unit

abbrev CustodyState (Keys : Type) : Type := CustodyWorld Keys × CustodyNote Keys

namespace CustodyNote

def blank : CustodyNote Keys := ⟨∅, ∅, ∅, [], ∅, ∅, [], [], ∅⟩

variable (note : CustodyNote Keys) (caller : Caller)

/-- A call begins. A provisioning ends what a purge has achieved. -/
def enter (call : CustodyCall) : CustodyNote Keys :=
  { note with
    calls := note.calls.insert caller call
    removed := note.removed.erase caller
    purged :=
      match call with
      | .provision id => note.purged.erase id
      | _ => note.purged }

def draw (keys : Keys) : CustodyNote Keys :=
  { note with held := note.held.insert caller keys, drawn := keys :: note.drawn }

def create : Except IoError Nat → CustodyNote Keys
  | .ok inode => { note with writers := note.writers.insert inode caller }
  | .error _ => note

def write : CustodyNote Keys :=
  { note with held := note.held.erase caller }

def link (source : Option Nat) (target : CustodyName) : Except IoError Unit → CustodyNote Keys
  | .ok () =>
      match source, target with
      | some inode, .secret id => { note with published := note.published.insert inode id }
      | _, _ => note
  | .error _ => note

def remove (name : CustodyName) (outcome : Except IoError Unit) : CustodyNote Keys :=
  match name, outcome with
  | .secret _, .ok () | .secret _, .error .notFound =>
      { note with removed := note.removed.insert caller () }
  | _, _ => note

def answer : CustodyNote Keys :=
  { note with calls := note.calls.erase caller }

def answerProvision : Except CustodyError CustodiedIdentity → CustodyNote Keys
  | .ok identity => { note.answer caller with provisioned := identity :: note.provisioned }
  | .error _ => note.answer caller

def answerLoad (id : AgentId) : Except CustodyError Keys → CustodyNote Keys
  | .ok keys => { note.answer caller with loaded := (id, keys) :: note.loaded }
  | .error _ => note.answer caller

def answerPurge (id : AgentId) : Except CustodyError Unit → CustodyNote Keys
  | .ok () => { note.answer caller with purged := note.purged.insert id () }
  | .error _ => note.answer caller

variable (note : CustodyNote Keys)

theorem create_eq (outcome : Except IoError Nat) :
    ∃ writers, note.create caller outcome = { note with writers := writers } := by
  cases outcome <;> exact ⟨_, rfl⟩

theorem link_eq (source : Option Nat) (target : CustodyName) (outcome : Except IoError Unit) :
    ∃ published, note.link source target outcome = { note with published := published } := by
  unfold link
  split
  · split <;> exact ⟨_, rfl⟩
  · exact ⟨_, rfl⟩

theorem remove_eq (name : CustodyName) (outcome : Except IoError Unit) :
    ∃ removed, note.remove caller name outcome = { note with removed := removed } := by
  unfold remove
  split <;> exact ⟨_, rfl⟩

end CustodyNote

section

variable (codec : KeyCodec Keys) (policy : CustodyPolicy)

/-- How the note follows the system calls. -/
def noteCustody (caller : Caller) ⦃Response : Type⦄ (action : CustodyAction Keys Response)
    (world : CustodyWorld Keys) (note : CustodyNote Keys) : CustodyNote Keys :=
  match action with
  | .enter call => note.enter caller call
  | .generateKeys => note.draw caller world.entropy
  | .createNew name => note.create caller (CustodyWorld.perform policy (.createNew name) world).1
  | .writeAll _ _ => note.write caller
  | .hardLink source target =>
      note.link (world.files.lookup source) target
        (CustodyWorld.perform policy (.hardLink source target) world).1
  | .removeFile name =>
      note.remove caller name (CustodyWorld.perform policy (.removeFile name) world).1
  | .provisioned _ outcome => note.answerProvision caller outcome
  | .loaded id outcome => note.answerLoad caller id outcome
  | .purged id outcome => note.answerPurge caller id outcome
  | _ => note

/-- A crash ends every call. -/
def custodyNotes : Auxiliary Caller (CustodyAction Keys) (CustodyWorld Keys) (CustodyNote Keys)
    where
  act := noteCustody policy
  restart := fun note => { note with calls := ∅, removed := ∅, held := ∅ }

def notedCustodians : System Caller (CustodyAction Keys) (CustodyState Keys) :=
  (custodians codec policy).annotated (custodyNotes policy)

/-- A custody in which nothing was ever stored, with no call in progress. The root may exist. -/
def CustodyReachable (admits : Condition Caller (CustodyAction Keys) (CustodyState Keys))
    (pool : Pool Caller (CustodyAction Keys) (CustodyState Keys)) : Prop :=
  ∃ world : CustodyWorld Keys, world.files = ∅ ∧ world.inodes = ∅ ∧
    (notedCustodians codec policy).Reaches admits ⟨(world, .blank), fun _ => .done ()⟩ pool

end

end BuzzServer
