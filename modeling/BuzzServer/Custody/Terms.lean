/-
This file states the terms on which the callers of the custody share its files,
and proves that every call keeps them.

A caller owns the files it creates until it has linked them: it alone writes
them, links them and removes their temporary name. A file that was linked for an
agent holds a complete key and is never written again, so that whoever reads the
name of the secret reads a complete key, whoever wrote it.
-/

import BuzzServer.Custody.Files

namespace BuzzServer

open Relational Concurrent Discipline CustodyName CustodyWorld

/-! ### The terms -/

variable {Keys : Type}

section

variable (codec : KeyCodec Keys) (policy : CustodyPolicy)

/-- The custody root is a directory of the expected owner. -/
def CustodyWorld.RootSafe (world : CustodyWorld Keys) : Prop :=
  ∃ metadata, world.root = some metadata ∧ metadata.kind = .directory ∧
    metadata.uid = policy.expectedOwnerUid

/-- A file that holds a key. -/
def KeyCodec.secretFile (keys : Keys) : Inode := ⟨codec.toSecretHex keys, policy.fileMetadata⟩

/-- A file was linked for the agent, and holds its keys. -/
def Published (id : AgentId) (keys : Keys) (state : CustodyState Keys) : Prop :=
  ∃ inode, state.2.published.lookup inode = some id ∧
    state.1.inodes.lookup inode = some (codec.secretFile policy keys)

/-- What holds of the files between any two system calls. -/
structure CustodyState.Sound (state : CustodyState Keys) : Prop where
  named : ∀ name inode, state.1.files.lookup name = some inode → inode ∈ state.1.inodes
  bounded : ∀ inode ∈ state.1.inodes, inode < state.1.nextInode
  written : ∀ inode ∈ state.2.writers, inode ∈ state.1.inodes
  published : ∀ inode id, state.2.published.lookup inode = some id →
    ∃ keys, state.1.inodes.lookup inode = some (codec.secretFile policy keys)
  secret : ∀ id inode, state.1.files.lookup (.secret id) = some inode →
    state.2.published.lookup inode = some id

/-- What a caller counts on: its own notes, the files it created and their temporary names,
the files that were linked, and the root. -/
structure CustodyState.Spares (caller : Caller) (before after : CustodyState Keys) : Prop where
  calls : after.2.calls.lookup caller = before.2.calls.lookup caller
  removed : after.2.removed.lookup caller = before.2.removed.lookup caller
  held : after.2.held.lookup caller = before.2.held.lookup caller
  own : ∀ inode, before.2.writers.lookup inode = some caller →
    after.2.writers.lookup inode = some caller ∧
      after.2.published.lookup inode = before.2.published.lookup inode ∧
      after.1.inodes.lookup inode = before.1.inodes.lookup inode
  temporary : ∀ id uuid inode, before.1.files.lookup (.temporary id uuid) = some inode →
    before.2.writers.lookup inode = some caller →
      after.1.files.lookup (.temporary id uuid) = some inode
  published : ∀ inode id, before.2.published.lookup inode = some id →
    after.2.published.lookup inode = some id ∧
      after.1.inodes.lookup inode = before.1.inodes.lookup inode
  root : before.1.RootSafe policy → after.1.RootSafe policy

/-- A temporary file of the caller's provisioning. -/
structure Drafted (caller : Caller) (id : AgentId) (uuid inode : Nat)
    (state : CustodyState Keys) : Prop where
  call : state.2.calls.lookup caller = some (.provision id)
  root : state.1.RootSafe policy
  file : state.1.files.lookup (.temporary id uuid) = some inode
  writer : state.2.writers.lookup inode = some caller

/-- What has to hold when a caller makes a system call. -/
def custodyDuty : Condition Caller (CustodyAction Keys) (CustodyState Keys) :=
  fun caller _ action state =>
    match action with
    | .createNew name => ∃ id uuid, name = .temporary id uuid
    | .writeAll handle text =>
        state.2.writers.lookup handle = some caller ∧ state.2.published.lookup handle = none ∧
          state.1.inodes.lookup handle = some ⟨[], policy.fileMetadata⟩ ∧
          ∃ keys, state.2.held.lookup caller = some keys ∧ text = codec.toSecretHex keys
    | .hardLink source target =>
        ∃ id uuid inode keys, source = .temporary id uuid ∧ target = .secret id ∧
          Drafted policy caller id uuid inode state ∧
          state.2.published.lookup inode = none ∧
          state.1.inodes.lookup inode = some (codec.secretFile policy keys)
    | .removeFile name =>
        (∃ id, name = .secret id ∧ state.2.calls.lookup caller = some (.purge id)) ∨
          ∃ id uuid inode, name = .temporary id uuid ∧ Drafted policy caller id uuid inode state
    | .provisioned id (.ok identity) =>
        identity.agentId = id ∧ state.1.RootSafe policy ∧ policy.fileMetadata.isSafe policy = true ∧
          ∃ keys, codec.publicKey keys = identity.publicKey ∧ Published codec policy id keys state
    | .loaded id (.ok keys) => Published codec policy id keys state
    | .purged id (.ok ()) =>
        state.2.calls.lookup caller = some (.purge id) ∧ caller ∈ state.2.removed
    | _ => True

/-- The terms on which the callers share the files. -/
def custodyTerms : Discipline Caller (CustodyAction Keys) (CustodyState Keys) where
  invariant := CustodyState.Sound codec policy
  rely := CustodyState.Spares policy
  duty := custodyDuty codec policy
  idle := fun _ _ => True

end

/-! ### Every system call keeps the terms -/

/-- A step that touches no file, and no note of another caller. -/
structure CustodyState.Quiet {Keys : Type} (policy : CustodyPolicy) (caller : Caller)
    (before after : CustodyState Keys) : Prop where
  files : after.1.files = before.1.files
  inodes : after.1.inodes = before.1.inodes
  nextInode : after.1.nextInode = before.1.nextInode
  root : before.1.RootSafe policy → after.1.RootSafe policy
  writers : after.2.writers = before.2.writers
  published : after.2.published = before.2.published
  calls : ∀ other, other ≠ caller → after.2.calls.lookup other = before.2.calls.lookup other
  removed : ∀ other, other ≠ caller → after.2.removed.lookup other = before.2.removed.lookup other
  held : ∀ other, other ≠ caller → after.2.held.lookup other = before.2.held.lookup other

variable {policy : CustodyPolicy} {codec : KeyCodec Keys}

section

variable {caller other : Caller}
variable {before after : CustodyState Keys}

theorem CustodyState.Quiet.sound (quiet : before.Quiet policy caller after)
    (sound : before.Sound codec policy) : after.Sound codec policy := by
  refine ⟨?_, ?_, ?_, ?_, ?_⟩
  · rw [quiet.files, quiet.inodes]
    exact sound.named
  · rw [quiet.inodes, quiet.nextInode]
    exact sound.bounded
  · rw [quiet.writers, quiet.inodes]
    exact sound.written
  · rw [quiet.published, quiet.inodes]
    exact sound.published
  · rw [quiet.files, quiet.published]
    exact sound.secret

theorem CustodyState.Quiet.spares (quiet : before.Quiet policy caller after)
    (different : other ≠ caller) : before.Spares policy other after where
  calls := quiet.calls other different
  removed := quiet.removed other different
  held := quiet.held other different
  own := by
    intro inode writes
    rw [quiet.writers, quiet.published, quiet.inodes]
    exact ⟨writes, rfl, rfl⟩
  temporary := by
    intro id uuid inode named _
    rw [quiet.files]
    exact named
  published := by
    intro inode id linked
    rw [quiet.published, quiet.inodes]
    exact ⟨linked, rfl⟩
  root := quiet.root

theorem CustodyState.Spares.refl (policy : CustodyPolicy) (caller : Caller)
    (state : CustodyState Keys) : state.Spares policy caller state :=
  ⟨rfl, rfl, rfl, fun _ writes => ⟨writes, rfl, rfl⟩, fun _ _ _ named _ => named,
    fun _ _ linked => ⟨linked, rfl⟩, fun safe => safe⟩

theorem CustodyState.Spares.trans {first second third : CustodyState Keys}
    (left : first.Spares policy caller second) (right : second.Spares policy caller third) :
    first.Spares policy caller third where
  calls := right.calls.trans left.calls
  removed := right.removed.trans left.removed
  held := right.held.trans left.held
  own := by
    intro inode writes
    obtain ⟨still, linked, kept⟩ := left.own inode writes
    obtain ⟨later, alsoLinked, alsoKept⟩ := right.own inode still
    exact ⟨later, alsoLinked.trans linked, alsoKept.trans kept⟩
  temporary := by
    intro id uuid inode named writes
    exact right.temporary id uuid inode (left.temporary id uuid inode named writes)
      (left.own inode writes).1
  published := by
    intro inode id linked
    obtain ⟨still, kept⟩ := left.published inode id linked
    obtain ⟨later, alsoKept⟩ := right.published inode id still
    exact ⟨later, alsoKept.trans kept⟩
  root := fun safe => right.root (left.root safe)

end

section

variable {caller : Caller}
variable {world : CustodyWorld Keys} {note : CustodyNote Keys}

theorem CustodyWorld.unlessFails_cases {Result : Type}
    (call : Except IoError Result × CustodyWorld Keys) :
    world.unlessFails call = (.error .other, world) ∨ world.unlessFails call = call := by
  unfold unlessFails
  split
  · exact .inl rfl
  · exact .inr rfl

theorem rootSafe_createDirAll (safe : world.RootSafe policy) :
    (world.createDirAll policy).2.RootSafe policy := by
  obtain ⟨metadata, exists_root, directory, owner⟩ := safe
  unfold CustodyWorld.createDirAll
  rw [exists_root]
  simp only [directory]
  exact ⟨metadata, exists_root, directory, owner⟩

theorem rootSafe_setRootPermissions (mode : Nat) (safe : world.RootSafe policy) :
    (world.setRootPermissions mode).2.RootSafe policy := by
  obtain ⟨metadata, exists_root, directory, owner⟩ := safe
  unfold CustodyWorld.setRootPermissions
  rw [exists_root]
  exact ⟨_, rfl, directory, owner⟩

/-- The state after a system call. -/
def CustodyState.after (policy : CustodyPolicy) (caller : Caller) {Response : Type}
    (action : CustodyAction Keys Response) (state : CustodyState Keys) : CustodyState Keys :=
  ((CustodyWorld.perform policy action state.1).2, noteCustody policy caller action state.1 state.2)

/-- The system calls that touch no file. -/
def CustodyAction.isQuiet {Response : Type} : CustodyAction Keys Response → Bool
  | .createNew _ | .writeAll _ _ | .hardLink _ _ | .removeFile _ => false
  | _ => true

variable {later : CustodyNote Keys}

/-- A state that differs in the notes of the caller alone. -/
theorem quiet_note (writers : later.writers = note.writers)
    (published : later.published = note.published)
    (calls : ∀ other, other ≠ caller → later.calls.lookup other = note.calls.lookup other)
    (removed : ∀ other, other ≠ caller → later.removed.lookup other = note.removed.lookup other)
    (held : ∀ other, other ≠ caller → later.held.lookup other = note.held.lookup other) :
    CustodyState.Quiet policy caller (world, note) (world, later) :=
  ⟨rfl, rfl, rfl, fun safe => safe, writers, published, calls, removed, held⟩

theorem quiet_refl (state : CustodyState Keys) : state.Quiet policy caller state :=
  quiet_note rfl rfl (fun _ _ => rfl) (fun _ _ => rfl) fun _ _ => rfl

/-- A system call that may change the root and nothing else. -/
theorem quiet_unlessFails {Result : Type} {call : Except IoError Result × CustodyWorld Keys}
    (files : call.2.files = world.files) (inodes : call.2.inodes = world.inodes)
    (nextInode : call.2.nextInode = world.nextInode)
    (root : world.RootSafe policy → call.2.RootSafe policy) :
    CustodyState.Quiet policy caller (world, note) ((world.unlessFails call).2, note) := by
  rcases world.unlessFails_cases call with failed | done
  · rw [failed]
    exact quiet_refl _
  · rw [done]
    exact ⟨files, inodes, nextInode, root, rfl, rfl, fun _ _ => rfl, fun _ _ => rfl, fun _ _ => rfl⟩

theorem quiet_createDirAll : CustodyState.Quiet policy caller (world, note)
      ((world.unlessFails (world.createDirAll policy)).2, note) := by
  refine quiet_unlessFails ?_ ?_ ?_ rootSafe_createDirAll
  all_goals
    unfold CustodyWorld.createDirAll
    split
    · rfl
    · split <;> rfl

theorem quiet_setRootPermissions (mode : Nat) : CustodyState.Quiet policy caller (world, note)
      ((world.unlessFails (world.setRootPermissions mode)).2, note) := by
  refine quiet_unlessFails ?_ ?_ ?_ (rootSafe_setRootPermissions mode)
  all_goals
    unfold CustodyWorld.setRootPermissions
    split <;> rfl

theorem quiet_answer (writers : later.writers = note.writers)
    (published : later.published = note.published)
    (calls : later.calls = note.calls.erase caller) (removed : later.removed = note.removed)
    (held : later.held = note.held) :
    CustodyState.Quiet policy caller (world, note) (world, later) := by
  refine quiet_note writers published (fun other different => ?_) (fun other _ => ?_)
    fun other _ => ?_
  · rw [calls, AList.lookup_erase_ne different]
  · rw [removed]
  · rw [held]

/-- The system calls that touch no file are quiet. -/
theorem quiet_of_isQuiet {Response : Type} {action : CustodyAction Keys Response}
    (quiet : action.isQuiet = true) :
    CustodyState.Quiet policy caller (world, note)
      (CustodyState.after policy caller action (world, note)) := by
  cases action with
  | enter call =>
    refine quiet_note rfl rfl (fun other different => ?_) (fun other different => ?_) fun _ _ => rfl
    · exact AList.lookup_insert_ne different
    · exact AList.lookup_erase_ne different
  | createDirAll => exact quiet_createDirAll
  | rootMetadata | symlinkMetadata name | «open» name | read handle count | syncAll handle =>
    exact quiet_unlessFails rfl rfl rfl fun safe => safe
  | setRootPermissions mode => exact quiet_setRootPermissions mode
  | generateKeys =>
    refine quiet_note rfl rfl (fun _ _ => rfl) (fun _ _ => rfl) fun other different => ?_
    exact AList.lookup_insert_ne different
  | newUuid => exact quiet_refl _
  | provisioned id outcome | loaded id outcome | purged id outcome =>
    cases outcome <;> exact quiet_answer rfl rfl rfl rfl rfl
  | createNew | writeAll | hardLink | removeFile => cases quiet

/-! ### The system calls that touch files -/

/-- What a system call does to the files: nothing, or one change that its duty allows. -/
inductive FileEffect (codec : KeyCodec Keys) (policy : CustodyPolicy) (caller : Caller)
    (world : CustodyWorld Keys) (note : CustodyNote Keys) :
    ∀ ⦃Response : Type⦄, CustodyAction Keys Response → CustodyState Keys → Prop
  | quiet {Response : Type} {action : CustodyAction Keys Response} {after : CustodyState Keys}
      (same : CustodyState.Quiet policy caller (world, note) after) :
      FileEffect codec policy caller world note action after
  | create {id : AgentId} {uuid : Nat} (free : .temporary id uuid ∉ world.files) :
      FileEffect codec policy caller world note (.createNew (.temporary id uuid)) ({ world with
            files := world.files.insert (.temporary id uuid) world.nextInode
            inodes := world.inodes.insert world.nextInode ⟨[], policy.fileMetadata⟩
            nextInode := world.nextInode + 1 },
          { note with writers := note.writers.insert world.nextInode caller })
  | write {handle : Nat} {keys : Keys} {text : List Char}
      (writer : note.writers.lookup handle = some caller)
      (unlinked : note.published.lookup handle = none)
      (empty : world.inodes.lookup handle = some ⟨[], policy.fileMetadata⟩)
      (holds : note.held.lookup caller = some keys) (part : text <+: codec.toSecretHex keys) :
      FileEffect codec policy caller world note (.writeAll handle (codec.toSecretHex keys))
        ({ world with inodes := world.inodes.insert handle ⟨text, policy.fileMetadata⟩ },
          { note with held := note.held.erase caller })
  | link {id : AgentId} {uuid inode : Nat} {keys : Keys}
      (drafted : Drafted policy caller id uuid inode (world, note))
      (unlinked : note.published.lookup inode = none)
      (complete : world.inodes.lookup inode = some (codec.secretFile policy keys))
      (free : .secret id ∉ world.files) :
      FileEffect codec policy caller world note (.hardLink (.temporary id uuid) (.secret id))
        ({ world with files := world.files.insert (.secret id) inode },
          { note with published := note.published.insert inode id })
  | clean {id : AgentId} {uuid inode : Nat}
      (drafted : Drafted policy caller id uuid inode (world, note)) :
      FileEffect codec policy caller world note (.removeFile (.temporary id uuid))
        ({ world with files := world.files.erase (.temporary id uuid) }, note)
  | purge {id : AgentId} (call : note.calls.lookup caller = some (.purge id)) :
      FileEffect codec policy caller world note (.removeFile (.secret id))
        ({ world with files := world.files.erase (.secret id) },
          { note with removed := note.removed.insert caller () })

theorem erase_of_notMem {Key Row : Type} [DecidableEq Key] {table : Table Key Row} {key : Key}
    (absent : key ∉ table) : table.erase key = table := by
  apply AList.ext
  exact List.kerase_of_notMem_keys absent

/-- What a new temporary file changes, unless it cannot be created. -/
theorem after_createNew (caller : Caller) (world : CustodyWorld Keys) (note : CustodyNote Keys)
    (name : CustodyName) :
    CustodyState.after policy caller (.createNew name) (world, note) = (world, note) ∨
      name ∉ world.files ∧ CustodyState.after policy caller (.createNew name) (world, note) =
        ({ world with
            files := world.files.insert name world.nextInode
            inodes := world.inodes.insert world.nextInode ⟨[], policy.fileMetadata⟩
            nextInode := world.nextInode + 1 },
          { note with writers := note.writers.insert world.nextInode caller }) := by
  simp only [CustodyState.after, CustodyWorld.perform, noteCustody]
  rcases world.unlessFails_cases (world.createNew policy name) with failed | done
  · rw [failed]
    exact .inl rfl
  · rw [done]
    by_cases taken : name ∈ world.files
    · simp only [createNew, taken]
      exact .inl rfl
    · simp only [createNew, taken]
      exact .inr ⟨not_false, rfl⟩

theorem createNew_effect {name : CustodyName}
    (duty : custodyDuty codec policy caller (.createNew name) (world, note)) :
    FileEffect codec policy caller world note (.createNew name)
      (CustodyState.after policy caller (.createNew name) (world, note)) := by
  obtain ⟨id, uuid, rfl⟩ := duty
  rcases after_createNew caller world note (.temporary id uuid) with same | ⟨free, created⟩
  · rw [same]
    exact .quiet (quiet_refl _)
  · rw [created]
    exact .create free

variable {handle : Nat}

/-- What a write to an empty file changes: a part of the text is there, all of it if the write
succeeds. -/
theorem after_writeAll {text : List Char}
    (empty : world.inodes.lookup handle = some ⟨[], policy.fileMetadata⟩) :
    ∃ part, part <+: text ∧ CustodyState.after policy caller (.writeAll handle text) (world, note) =
        ({ world with inodes := world.inodes.insert handle ⟨part, policy.fileMetadata⟩ },
          { note with held := note.held.erase caller }) := by
  have appended : ∀ part : List Char, world.append handle part =
      { world with inodes := world.inodes.insert handle ⟨part, policy.fileMetadata⟩ } := by
    intro part
    unfold CustodyWorld.append
    rw [empty]
    rfl
  simp only [CustodyState.after, CustodyWorld.perform, appended]
  split
  · exact ⟨_, List.take_prefix _ _, rfl⟩
  · exact ⟨_, List.prefix_refl _, rfl⟩

theorem writeAll_effect {text : List Char}
    (duty : custodyDuty codec policy caller (.writeAll handle text) (world, note)) :
    FileEffect codec policy caller world note (.writeAll handle text)
      (CustodyState.after policy caller (.writeAll handle text) (world, note)) := by
  obtain ⟨writer, unlinked, empty, keys, holds, rfl⟩ := duty
  obtain ⟨part, written, after⟩ := after_writeAll empty
  rw [after]
  exact .write writer unlinked empty holds written

theorem hardLink_effect {source target : CustodyName}
    (duty : custodyDuty codec policy caller (.hardLink source target) (world, note)) :
    FileEffect codec policy caller world note (.hardLink source target)
      (CustodyState.after policy caller (.hardLink source target) (world, note)) := by
  obtain ⟨id, uuid, inode, keys, rfl, rfl, drafted, unlinked, complete⟩ := duty
  simp only [CustodyState.after, CustodyWorld.perform, noteCustody]
  have file : world.files.lookup (.temporary id uuid) = some inode := drafted.file
  rcases world.unlessFails_cases (world.hardLink (.temporary id uuid) (.secret id)) with
    failed | done
  · rw [failed]
    exact .quiet (quiet_refl _)
  · rw [done]
    by_cases taken : secret id ∈ world.files
    · simp only [hardLink, file, taken]
      exact .quiet (quiet_refl _)
    · simp only [hardLink, file, taken]
      exact .link drafted unlinked complete taken

theorem removeFile_effect {name : CustodyName}
    (duty : custodyDuty codec policy caller (.removeFile name) (world, note)) :
    FileEffect codec policy caller world note (.removeFile name)
      (CustodyState.after policy caller (.removeFile name) (world, note)) := by
  simp only [CustodyState.after, CustodyWorld.perform, noteCustody]
  rcases world.unlessFails_cases (world.removeFile name) with failed | done
  · rw [failed]
    refine .quiet ?_
    cases name <;> exact quiet_refl _
  · rw [done]
    rcases duty with ⟨id, rfl, call⟩ | ⟨id, uuid, inode, rfl, drafted⟩
    · by_cases present : secret id ∈ world.files
      · simp only [removeFile, present]
        exact .purge call
      · have same := erase_of_notMem present
        simp only [removeFile, present]
        have effect : FileEffect codec policy caller world note (.removeFile (.secret id)) _ :=
          .purge call
        rw [same] at effect
        exact effect
    · have present : temporary id uuid ∈ world.files := Table.mem_of_lookup drafted.file
      simp only [removeFile, present]
      exact .clean drafted

/-- The inversion: a system call that does its duty is quiet or makes one of the changes. -/
theorem fileEffect_of_duty {Response : Type} {action : CustodyAction Keys Response}
    (duty : custodyDuty codec policy caller action (world, note)) :
    FileEffect codec policy caller world note action
      (CustodyState.after policy caller action (world, note)) := by
  cases action with
  | createNew name => exact createNew_effect duty
  | writeAll handle text => exact writeAll_effect duty
  | hardLink source target => exact hardLink_effect duty
  | removeFile name => exact removeFile_effect duty
  | _ => exact .quiet (quiet_of_isQuiet rfl)

variable {Response : Type} {action : CustodyAction Keys Response} {after : CustodyState Keys}

theorem notMem_nextInode (sound : CustodyState.Sound codec policy (world, note)) :
    world.nextInode ∉ world.inodes :=
  fun member => Nat.lt_irrefl _ (sound.bounded _ member)

theorem Sound.mem_of_published (sound : CustodyState.Sound codec policy (world, note)) {inode : Nat}
    {id : AgentId} (linked : note.published.lookup inode = some id) : inode ∈ world.inodes := by
  obtain ⟨keys, stored⟩ := sound.published inode id linked
  exact Table.mem_of_lookup stored

theorem sound_create (sound : CustodyState.Sound codec policy (world, note)) (id : AgentId)
    (uuid : Nat) :
    CustodyState.Sound codec policy ({ world with
          files := world.files.insert (.temporary id uuid) world.nextInode
          inodes := world.inodes.insert world.nextInode ⟨[], policy.fileMetadata⟩
          nextInode := world.nextInode + 1 },
        { note with writers := note.writers.insert world.nextInode caller }) := by
  refine ⟨fun name inode named => ?_, fun inode member => ?_, fun inode member => ?_,
    fun inode other linked => ?_, fun other inode named => ?_⟩
  · rw [AList.mem_insert]
    rw [Table.lookup_insert_eq] at named
    split at named
    · exact .inl (Option.some.inj named).symm
    · exact .inr (sound.named name inode named)
  · rcases (AList.mem_insert _).mp member with rfl | earlier
    · exact Nat.lt_succ_self _
    · exact Nat.lt_succ_of_lt (sound.bounded inode earlier)
  · rw [AList.mem_insert]
    rcases (AList.mem_insert _).mp member with rfl | earlier
    · exact .inl rfl
    · exact .inr (sound.written inode earlier)
  · obtain ⟨keys, stored⟩ := sound.published inode other linked
    refine ⟨keys, ?_⟩
    have different : inode ≠ world.nextInode := by
      rintro rfl
      exact notMem_nextInode sound (Table.mem_of_lookup stored)
    exact (AList.lookup_insert_ne different).trans stored
  · rw [Table.lookup_insert_eq] at named
    exact sound.secret other inode named

theorem sound_write (sound : CustodyState.Sound codec policy (world, note))
    (file : Inode) (member : handle ∈ world.inodes)
    (unlinked : note.published.lookup handle = none) :
    CustodyState.Sound codec policy ({ world with inodes := world.inodes.insert handle file },
        { note with held := note.held.erase caller }) := by
  refine ⟨fun name inode named => ?_, fun inode stored => ?_, fun inode stored => ?_,
    fun inode id linked => ?_, sound.secret⟩
  · exact (AList.mem_insert _).mpr (.inr (sound.named name inode named))
  · rcases (AList.mem_insert _).mp stored with rfl | earlier
    · exact sound.bounded _ member
    · exact sound.bounded inode earlier
  · exact (AList.mem_insert _).mpr (.inr (sound.written inode stored))
  · obtain ⟨keys, stored⟩ := sound.published inode id linked
    refine ⟨keys, ?_⟩
    have different : inode ≠ handle := by
      rintro rfl
      rw [show note.published.lookup inode = _ from linked] at unlinked
      cases unlinked
    exact (AList.lookup_insert_ne different).trans stored

theorem sound_link (sound : CustodyState.Sound codec policy (world, note)) {id : AgentId}
    {inode : Nat} {keys : Keys}
    (complete : world.inodes.lookup inode = some (codec.secretFile policy keys))
    (unlinked : note.published.lookup inode = none) :
    CustodyState.Sound codec policy ({ world with files := world.files.insert (.secret id) inode },
        { note with published := note.published.insert inode id }) := by
  refine ⟨fun name other named => ?_, sound.bounded, sound.written, fun other owner linked => ?_,
    fun owner other named => ?_⟩
  · rw [Table.lookup_insert_eq] at named
    split at named
    · exact Option.some.inj named ▸ Table.mem_of_lookup complete
    · exact sound.named name other named
  · rw [Table.lookup_insert_eq] at linked
    split at linked
    · next same => exact ⟨keys, same ▸ complete⟩
    · exact sound.published other owner linked
  · rw [Table.lookup_insert_eq] at named ⊢
    split at named
    · next same =>
      cases same
      rw [if_pos (Option.some.inj named).symm]
    · have linked := sound.secret owner other named
      rw [if_neg]
      · exact linked
      · rintro rfl
        rw [show note.published.lookup other = _ from linked] at unlinked
        cases unlinked

/-- Removing a name keeps the files sound, whatever is noted with it. -/
theorem sound_erase (sound : CustodyState.Sound codec policy (world, note)) (name : CustodyName)
    (writers : later.writers = note.writers)
    (published : later.published = note.published) :
    CustodyState.Sound codec policy ({ world with files := world.files.erase name }, later) := by
  have earlier : ∀ other inode, (world.files.erase name).lookup other = some inode →
      world.files.lookup other = some inode := by
    intro other inode named
    rw [Table.lookup_erase_eq] at named
    split at named
    · cases named
    · exact named
  refine ⟨fun other inode named => sound.named other inode (earlier other inode named),
    sound.bounded, ?_, ?_, fun id inode named => ?_⟩
  · rw [writers]
    exact sound.written
  · rw [published]
    exact sound.published
  · rw [published]
    exact sound.secret id inode (earlier _ inode named)

theorem FileEffect.sound (effect : FileEffect codec policy caller world note action after)
    (sound : CustodyState.Sound codec policy (world, note)) : after.Sound codec policy := by
  cases effect with
  | quiet same => exact same.sound sound
  | create free => exact sound_create sound _ _
  | write writer unlinked empty holds part =>
    exact sound_write sound _ (Table.mem_of_lookup empty) unlinked
  | link drafted unlinked complete free => exact sound_link sound complete unlinked
  | clean drafted | purge call => exact sound_erase sound _ rfl rfl

/-! ### What the other callers keep -/

variable {other : Caller}

theorem FileEffect.spares (effect : FileEffect codec policy caller world note action after)
    (sound : CustodyState.Sound codec policy (world, note)) (different : other ≠ caller) :
    CustodyState.Spares policy other (world, note) after := by
  cases effect with
  | quiet same => exact same.spares different
  | @create id uuid free =>
    have fresh := notMem_nextInode sound
    refine { CustodyState.Spares.refl policy other (world, note) with
      own := fun inode writes => ?_, temporary := fun owner number inode named _ => ?_,
      published := fun inode owner linked => ⟨linked, ?_⟩, root := fun safe => safe }
    · have older : inode ≠ world.nextInode := by
        rintro rfl
        exact fresh (sound.written _ (Table.mem_of_lookup writes))
      exact ⟨(AList.lookup_insert_ne older).trans writes, rfl, AList.lookup_insert_ne older⟩
    · have elsewhere : temporary owner number ≠ .temporary id uuid := by
        intro same
        rw [same] at named
        exact free (Table.mem_of_lookup named)
      exact (AList.lookup_insert_ne elsewhere).trans named
    · have older : inode ≠ world.nextInode := by
        rintro rfl
        exact fresh (Sound.mem_of_published sound linked)
      exact AList.lookup_insert_ne older
  | @write handle keys text writer unlinked empty holds part =>
    refine { CustodyState.Spares.refl policy other (world, note) with
      held := AList.lookup_erase_ne different, own := fun inode writes => ?_,
      published := fun inode owner linked => ⟨linked, ?_⟩, root := fun safe => safe }
    · have elsewhere : inode ≠ handle := by
        rintro rfl
        exact different (Option.some.inj (writes.symm.trans writer))
      exact ⟨writes, rfl, AList.lookup_insert_ne elsewhere⟩
    · have elsewhere : inode ≠ handle := by
        rintro rfl
        rw [show note.published.lookup inode = _ from linked] at unlinked
        cases unlinked
      exact AList.lookup_insert_ne elsewhere
  | @link id uuid inode keys drafted unlinked complete free =>
    refine { CustodyState.Spares.refl policy other (world, note) with
      own := fun owned writes => ?_, temporary := fun owner number owned named _ => ?_,
      published := fun owned owner linked => ⟨?_, rfl⟩, root := fun safe => safe }
    · have elsewhere : owned ≠ inode := by
        rintro rfl
        exact different (Option.some.inj (writes.symm.trans drafted.writer))
      exact ⟨writes, AList.lookup_insert_ne elsewhere, rfl⟩
    · exact (AList.lookup_insert_ne (by simp)).trans named
    · have elsewhere : owned ≠ inode := by
        rintro rfl
        rw [show note.published.lookup owned = _ from linked] at unlinked
        cases unlinked
      exact (AList.lookup_insert_ne elsewhere).trans linked
  | @clean id uuid inode drafted =>
    refine { CustodyState.Spares.refl policy other (world, note) with
      temporary := fun owner number owned named writes => ?_, root := fun safe => safe }
    have elsewhere : temporary owner number ≠ .temporary id uuid := by
      intro same
      rw [same] at named
      obtain rfl : owned = inode := Option.some.inj (named.symm.trans drafted.file)
      exact different (Option.some.inj (writes.symm.trans drafted.writer))
    exact (AList.lookup_erase_ne elsewhere).trans named
  | @purge id call =>
    refine { CustodyState.Spares.refl policy other (world, note) with
      removed := AList.lookup_insert_ne different,
      temporary := fun owner number owned named _ => ?_, root := fun safe => safe }
    exact (AList.lookup_erase_ne (by simp)).trans named

/-- A system call that does its duty keeps the terms. -/
theorem custodyTerms_keeps (sound : CustodyState.Sound codec policy (world, note))
    (duty : custodyDuty codec policy caller action (world, note)) :
    (custodyTerms codec policy).Keeps (notedCustodians codec policy) caller action (world, note) :=
  ⟨(fileEffect_of_duty duty).sound sound,
    fun _ different => (fileEffect_of_duty duty).spares sound different⟩

end

end BuzzServer
