/-
This file proves that every call of the custody keeps the terms.

The argument follows the calls step by step. What a caller may count on after a
step is an assertion that the other callers leave true; a provisioning carries
its temporary file from its creation to its removal in this way, and whoever
reads a secret learns that it was linked for the agent and is complete.
-/

import BuzzServer.Custody.Terms

namespace BuzzServer

open Relational Concurrent Discipline Concurrent.Fallible Discipline.Triple AList CustodyState
  CustodyState.Spares CustodyWorld

section

variable {Keys : Type} {codec : KeyCodec Keys} {policy : CustodyPolicy} {caller : Caller}
variable {admits : Condition Caller (CustodyAction Keys) (CustodyState Keys)}
variable {Result : Type}

/-- From every state with the precondition, the call keeps the terms, and ends in one of the
postconditions. -/
abbrev Custodial (codec : KeyCodec Keys) (policy : CustodyPolicy)
    (admits : Condition Caller (CustodyAction Keys) (CustodyState Keys)) (caller : Caller)
    (pre : CustodyState Keys → Prop) (call : Custody Keys Result)
    (post : Result → CustodyState Keys → Prop) (failure : CustodyState Keys → Prop) : Prop :=
  (custodyTerms codec policy).Triple (notedCustodians codec policy) admits caller pre call.run
    (onOutcome post fun _ => failure)

/-- The caller is in a call and has checked the root. -/
def Prepared (policy : CustodyPolicy) (caller : Caller) (call : CustodyCall)
    (state : CustodyState Keys) : Prop :=
  state.2.calls.lookup caller = some call ∧ state.1.RootSafe policy

/-- The caller's temporary file, not linked yet, with what it holds. -/
structure Draft (policy : CustodyPolicy) (caller : Caller) (id : AgentId) (uuid inode : Nat)
    (content : Inode) (state : CustodyState Keys) : Prop
    extends Drafted policy caller id uuid inode state where
  unlinked : state.2.published.lookup inode = none
  stored : state.1.inodes.lookup inode = some content

/-! ### What the others leave true -/

variable (call : CustodyCall)

theorem stable_call : (custodyTerms codec policy).Stable caller
      fun state => state.2.calls.lookup caller = some call :=
  fun _ _ spared _ _ holds => spared.calls.trans holds

theorem stable_prepared : (custodyTerms codec policy).Stable caller (Prepared policy caller call) :=
  fun _ _ spared _ _ holds => ⟨spared.calls.trans holds.1, spared.root holds.2⟩

theorem stable_holds (keys : Keys) : (custodyTerms codec policy).Stable caller
      fun state => state.2.held.lookup caller = some keys :=
  fun _ _ spared _ _ holds => spared.held.trans holds

variable (id : AgentId) (uuid inode : Nat)

theorem stable_drafted :
    (custodyTerms codec policy).Stable caller (Drafted policy caller id uuid inode) :=
  fun _ _ spared _ _ holds =>
    ⟨spared.calls.trans holds.call, spared.root holds.root,
      spared.temporary id uuid inode holds.file holds.writer, (spared.own inode holds.writer).1⟩

theorem stable_draft (content : Inode) :
    (custodyTerms codec policy).Stable caller (Draft policy caller id uuid inode content) := by
  intro before after spared held kept holds
  obtain ⟨-, linked, stored⟩ := spared.own inode holds.writer
  exact ⟨stable_drafted id uuid inode before after spared held kept holds.toDrafted,
    linked.trans holds.unlinked, stored.trans holds.stored⟩

theorem stable_linked (inode : Nat) (id : AgentId) : (custodyTerms codec policy).Stable caller
      fun state => state.2.published.lookup inode = some id :=
  fun _ _ spared _ _ linked => (spared.published inode id linked).1

theorem CustodyState.Spares.publishedKeys {before after : CustodyState Keys} {id : AgentId}
    {keys : Keys} (spared : before.Spares policy caller after)
    (published : Published codec policy id keys before) :
    Published codec policy id keys after := by
  obtain ⟨inode, linked, stored⟩ := published
  obtain ⟨still, kept⟩ := spared.published inode id linked
  exact ⟨inode, still, kept.trans stored⟩

theorem stable_published (keys : Keys) :
    (custodyTerms codec policy).Stable caller (Published codec policy id keys) :=
  fun _ _ spared _ _ published => spared.publishedKeys published

/-! ### System calls that only look -/

/-- The system calls that touch no file and are not noted. -/
def CustodyAction.isSilent {Response : Type} : CustodyAction Keys Response → Bool
  | .createDirAll | .rootMetadata | .setRootPermissions _ | .symlinkMetadata _ | .open _
  | .read _ _ | .newUuid | .syncAll _ => true
  | _ => false

/-- A silent system call disturbs no caller, not even its own. -/
theorem spares_of_isSilent {Response : Type} {action : CustodyAction Keys Response}
    (silent : action.isSilent = true) (other : Caller) (state : CustodyState Keys) :
    state.Spares policy other (after policy caller action state) := by
  have quiet : ∀ someone, CustodyState.Quiet policy someone state
      (after policy caller action state) := by
    intro someone
    cases action with
    | createDirAll => exact quiet_createDirAll
    | rootMetadata | symlinkMetadata name | «open» name | read handle count | syncAll handle =>
      exact quiet_unlessFails rfl rfl rfl fun safe => safe
    | setRootPermissions mode => exact quiet_setRootPermissions mode
    | newUuid => exact quiet_refl _
    | _ => cases silent
  exact (quiet (other + 1)).spares (Nat.ne_of_lt (Nat.lt_succ_self other))

theorem duty_of_isSilent (codec : KeyCodec Keys) (policy : CustodyPolicy) (caller : Caller)
    {Response : Type} {action : CustodyAction Keys Response} (silent : action.isSilent = true)
    (state : CustodyState Keys) :
    custodyDuty codec policy caller action state := by
  cases action <;> first | exact trivial | cases silent

variable {assertion : CustodyState Keys → Prop}
  {action : CustodyAction Keys (Except IoError Result)}

/-- A silent system call keeps what is stable, and its caller learns what it responds. -/
theorem custodial_look
    {learned : Result → CustodyState Keys → Prop} (silent : action.isSilent = true)
    (stable : (custodyTerms codec policy).Stable caller assertion)
    (learn : ∀ state : CustodyState Keys, state.Sound codec policy → assertion state →
      ∀ result, (perform policy action state.1).1 = .ok result →
        learned result (after policy caller action state)) :
    Custodial codec policy admits caller assertion (attempt .io action)
      (fun result state => assertion state ∧ learned result state) assertion := by
  refine attempt stable fun state sound holds _ => ?_
  have duty := duty_of_isSilent codec policy caller silent state
  have keeps := custodyTerms_keeps sound duty
  have kept : assertion (after policy caller action state) :=
    stable _ _ (spares_of_isSilent silent caller state) sound keeps.1 holds
  refine ⟨duty, keeps, ?_⟩
  show onOutcome _ _ (perform policy action state.1).1 (after policy caller action state)
  cases outcome : (perform policy action state.1).1 with
  | ok result => exact ⟨kept, learn state sound holds result outcome⟩
  | error error => exact kept

/-- A silent system call of which only the success matters. -/
theorem custodial_silent (silent : action.isSilent = true)
    (stable : (custodyTerms codec policy).Stable caller assertion) :
    Custodial codec policy admits caller assertion (attempt .io action)
      (fun _ => assertion) assertion := by
  have look : Custodial codec policy admits caller assertion (attempt .io action)
      (fun _ state => assertion state ∧ True) assertion :=
    custodial_look silent stable fun _ _ _ _ _ => trivial
  exact look.weaken (fun _ => id) (fun _ _ holds => holds.1) fun _ _ => id

theorem CustodyWorld.perform_look {world : CustodyWorld Keys} {found : Except IoError Result}
    {result : Result} (succeeds : (world.unlessFails (found, world)).1 = .ok result) :
    found = .ok result := by
  rcases world.unlessFails_cases (found, world) with failed | done
  · rw [failed] at succeeds
    cases succeeds
  · rw [done] at succeeds
    exact succeeds

theorem custodial_prepareRoot : Custodial codec policy admits caller
      (fun state => state.2.calls.lookup caller = some call) (prepareRoot policy)
      (fun _ => Prepared policy caller call) fun _ => True := by
  refine sequence (custodial_silent rfl (stable_call call)) (fun _ _ _ => trivial) fun _ => ?_
  have looks : Custodial codec policy admits caller
      (fun state => state.2.calls.lookup caller = some call)
      (attempt .io .rootMetadata)
      (fun metadata state => state.2.calls.lookup caller = some call ∧
        (metadata.kind = .directory → metadata.uid = policy.expectedOwnerUid →
          state.1.RootSafe policy))
      fun state => state.2.calls.lookup caller = some call := by
    refine custodial_look rfl (stable_call call) fun state _ _ metadata seen directory owner => ?_
    have found := perform_look seen
    unfold rootMetadata at found
    split at found
    · cases found
    · next present =>
      cases found
      exact (spares_of_isSilent rfl caller state).root ⟨metadata, present, directory, owner⟩
  refine sequence looks (fun _ _ _ => trivial) fun metadata => ?_
  split
  · exact done fun _ _ _ => trivial
  · next directory =>
    split
    · exact done fun _ _ _ => trivial
    · next owner =>
      refine (custodial_silent rfl (stable_prepared call)).weaken (fun state holds => ?_)
        (fun _ _ => id) fun _ _ _ => trivial
      exact ⟨holds.1, holds.2 (not_not.mp directory) (not_not.mp owner)⟩

/-- A complete secret is read back. -/
theorem custodial_parseSecret (secret : List Char) : Custodial codec policy admits caller
      (fun state => assertion state ∧ ∃ keys, secret = codec.toSecretHex keys ∧
        Published codec policy id keys state) (parseSecret codec secret)
      (fun keys state => assertion state ∧ Published codec policy id keys state) assertion := by
  unfold parseSecret
  split
  · exact done fun _ _ holds => holds.1
  · split
    · next keys parsed =>
      refine done fun state _ holds => ?_
      obtain ⟨kept, written, rfl, published⟩ := holds
      rw [codec.parse_toSecretHex] at parsed
      obtain rfl : written = keys := Option.some.inj parsed
      exact ⟨kept, published⟩
    · exact done fun _ _ holds => holds.1

/-- The caller has seen a secret that is safe to read. -/
def Trusting (policy : CustodyPolicy) (caller : Caller) (call : CustodyCall)
    (state : CustodyState Keys) : Prop :=
  Prepared policy caller call state ∧ policy.fileMetadata.isSafe policy = true

theorem stable_trusting : (custodyTerms codec policy).Stable caller (Trusting policy caller call) :=
  (stable_prepared call).and fun _ _ _ _ _ => id

theorem custodial_symlinkMetadata :
    Custodial codec policy admits caller (Prepared policy caller call)
      (attempt .io (.symlinkMetadata (.secret id)))
      (fun metadata state => Prepared policy caller call state ∧ metadata = policy.fileMetadata)
      (Prepared policy caller call) := by
  refine custodial_look rfl (stable_prepared call) fun state sound _ metadata seen => ?_
  have found := perform_look seen
  unfold symlinkMetadata at found
  cases named : state.1.files.lookup (.secret id) with
  | none =>
    rw [named] at found
    cases found
  | some inode =>
    obtain ⟨keys, stored⟩ := sound.published inode id (sound.secret id inode named)
    rw [named, Option.bind_some, stored] at found
    exact (Except.ok.inj found).symm

theorem custodial_open : Custodial codec policy admits caller (Trusting policy caller call)
      (attempt .io (.open (.secret id))) (fun handle state => Trusting policy caller call state ∧
        state.2.published.lookup handle = some id) (Trusting policy caller call) := by
  refine custodial_look rfl (stable_trusting call) fun state sound _ handle seen => ?_
  have found := perform_look seen
  unfold openFile at found
  split at found
  · cases found
  · next named =>
    cases found
    exact sound.secret id handle named

/-- A file that was linked is read whole. -/
theorem custodial_read (id : AgentId) (handle : Nat) :
    Custodial codec policy admits caller (fun state => Trusting policy caller call state ∧
        state.2.published.lookup handle = some id) (attempt .io (.read handle (secretHexBytes + 1)))
      (fun secret state => (Trusting policy caller call state ∧
          state.2.published.lookup handle = some id) ∧
        ∃ keys, secret = codec.toSecretHex keys ∧ Published codec policy id keys state)
      fun state => Trusting policy caller call state ∧
        state.2.published.lookup handle = some id := by
  refine custodial_look rfl ((stable_trusting call).and (stable_linked handle id))
    fun state sound holds secret seen => ?_
  have found := perform_look seen
  obtain ⟨keys, stored⟩ := sound.published handle id holds.2
  have published : Published codec policy id keys state := ⟨handle, holds.2, stored⟩
  refine ⟨keys, ?_, (spares_of_isSilent rfl caller state).publishedKeys published⟩
  unfold CustodyWorld.read at found
  rw [stored] at found
  have whole : (codec.toSecretHex keys).take (secretHexBytes + 1) = codec.toSecretHex keys :=
    List.take_of_length_le (by rw [codec.length_toSecretHex]; exact Nat.le_succ _)
  exact (Except.ok.inj found).symm.trans whole

/-- Whoever reads the secret of an agent reads keys that were linked for it. -/
theorem custodial_readKeys : Custodial codec policy admits caller (Prepared policy caller call)
      (readKeys codec policy (.secret id))
      (fun keys state => Trusting policy caller call state ∧ Published codec policy id keys state)
      (Prepared policy caller call) := by
  refine sequence (custodial_symlinkMetadata call id) (fun _ _ holds => holds) fun metadata => ?_
  split
  · next safe =>
    refine sequence ((custodial_open call id).weaken
      (fun state holds => ⟨holds.1, holds.2 ▸ safe⟩) (fun _ _ holds => holds)
      fun _ _ holds => holds.1) (fun _ _ holds => holds) fun handle => ?_
    refine sequence (custodial_read call id handle) (fun _ _ holds => holds.1.1) fun secret => ?_
    exact (custodial_parseSecret id secret).weaken (fun _ holds => holds)
      (fun _ _ holds => ⟨holds.1.1, holds.2⟩) fun _ _ holds => holds.1.1
  · exact done fun _ _ holds => holds.1

/-! ### Provisioning -/

/-- The caller has drawn keys and checked the root. -/
def Holding (policy : CustodyPolicy) (caller : Caller) (id : AgentId) (keys : Keys)
    (state : CustodyState Keys) : Prop :=
  Prepared policy caller (.provision id) state ∧ state.2.held.lookup caller = some keys

theorem stable_holding (keys : Keys) :
    (custodyTerms codec policy).Stable caller (Holding policy caller id keys) :=
  (stable_prepared _).and (stable_holds keys)

theorem custodial_generateKeys :
    Custodial codec policy admits caller (Prepared policy caller (.provision id))
      (always .generateKeys) (fun keys => Holding policy caller id keys)
      fun _ => True := by
  refine always (stable_prepared _) fun state sound holds _ =>
    ⟨trivial, custodyTerms_keeps sound trivial, holds, ?_⟩
  exact lookup_insert _

theorem custodial_newUuid (keys : Keys) :
    Custodial codec policy admits caller (Holding policy caller id keys) (always .newUuid)
      (fun _ => Holding policy caller id keys) fun _ => True :=
  always (stable_holding id keys) fun _ sound holds _ =>
    ⟨trivial, custodyTerms_keeps sound trivial, holds⟩

theorem custodial_createNew (keys : Keys) (uuid : Nat) :
    Custodial codec policy admits caller (Holding policy caller id keys)
      (attempt .io (.createNew (.temporary id uuid)))
      (fun inode state => Draft policy caller id uuid inode ⟨[], policy.fileMetadata⟩ state ∧
        state.2.held.lookup caller = some keys)
      fun _ => True := by
  refine attempt (stable_holding id keys) fun state sound holds _ => ?_
  have duty : custodyDuty codec policy caller (.createNew (.temporary id uuid)) state :=
    ⟨id, uuid, rfl⟩
  refine ⟨duty, custodyTerms_keeps sound duty, ?_⟩
  show onOutcome _ _ (perform policy (.createNew (.temporary id uuid)) state.1).1
    (after policy caller (.createNew (.temporary id uuid)) state)
  simp only [after, perform, noteCustody]
  rcases state.1.unlessFails_cases (state.1.createNew policy (.temporary id uuid)) with
    failed | done
  · rw [failed]
    trivial
  · rw [done]
    by_cases taken : CustodyName.temporary id uuid ∈ state.1.files
    · simp only [createNew, taken]
      trivial
    · simp only [createNew, taken]
      have unlinked : state.2.published.lookup state.1.nextInode = none := by
        cases linked : state.2.published.lookup state.1.nextInode with
        | none => rfl
        | some owner =>
          exact absurd (Sound.mem_of_published sound linked) (notMem_nextInode sound)
      exact ⟨⟨⟨holds.1.1, holds.1.2, lookup_insert _, lookup_insert _⟩, unlinked,
        lookup_insert _⟩, holds.2⟩

theorem custodial_writeAll (keys : Keys) (uuid inode : Nat) : Custodial codec policy admits caller
      (fun state => Draft policy caller id uuid inode ⟨[], policy.fileMetadata⟩ state ∧
        state.2.held.lookup caller = some keys)
      (attempt .io (.writeAll inode (codec.toSecretHex keys)))
      (fun _ => Draft policy caller id uuid inode (codec.secretFile policy keys))
      fun _ => True := by
  refine attempt ((stable_draft id uuid inode _).and (stable_holds keys))
    fun state sound holds _ => ?_
  have duty : custodyDuty codec policy caller (.writeAll inode (codec.toSecretHex keys)) state :=
    ⟨holds.1.writer, holds.1.unlinked, holds.1.stored, keys, holds.2, rfl⟩
  refine ⟨duty, custodyTerms_keeps sound duty, ?_⟩
  show onOutcome _ _ (perform policy (.writeAll inode (codec.toSecretHex keys)) state.1).1
    (after policy caller (.writeAll inode (codec.toSecretHex keys)) state)
  simp only [after, perform]
  split
  · trivial
  · simp only [append, holds.1.stored]
    exact ⟨⟨holds.1.call, holds.1.root, holds.1.file, holds.1.writer⟩, holds.1.unlinked,
      lookup_insert _⟩

theorem custodial_hardLink (keys : Keys) (uuid inode : Nat) : Custodial codec policy admits caller
      (Draft policy caller id uuid inode (codec.secretFile policy keys))
      (always (.hardLink (.temporary id uuid) (.secret id)))
      (fun _ => Drafted policy caller id uuid inode) fun _ => True := by
  refine always (stable_draft id uuid inode _) fun state sound holds _ => ?_
  have duty : custodyDuty codec policy caller (.hardLink (.temporary id uuid) (.secret id)) state :=
    ⟨id, uuid, inode, keys, rfl, rfl, holds.toDrafted, holds.unlinked, holds.stored⟩
  refine ⟨duty, custodyTerms_keeps sound duty, ?_⟩
  show Drafted policy caller id uuid inode
    (after policy caller (.hardLink (.temporary id uuid) (.secret id)) state)
  simp only [after, perform, noteCustody]
  rcases state.1.unlessFails_cases (state.1.hardLink (.temporary id uuid) (.secret id)) with
    failed | done
  · rw [failed]
    exact holds.toDrafted
  · rw [done]
    by_cases taken : CustodyName.secret id ∈ state.1.files
    · simp only [hardLink, holds.file, taken]
      exact holds.toDrafted
    · simp only [hardLink, holds.file, taken]
      exact ⟨holds.call, holds.root, (lookup_insert_ne (by simp)).trans holds.file,
        holds.writer⟩

/-- Removing its temporary file leaves the caller in its call. -/
theorem prepared_removeTemporary {id : AgentId} {uuid inode : Nat} {state : CustodyState Keys}
    (holds : Drafted policy caller id uuid inode state) :
    Prepared policy caller (.provision id)
      (after policy caller (.removeFile (.temporary id uuid)) state) := by
  simp only [after, perform]
  rcases state.1.unlessFails_cases (state.1.removeFile (.temporary id uuid)) with failed | done
  · rw [failed]
    exact ⟨holds.call, holds.root⟩
  · rw [done]
    unfold removeFile
    split
    · exact ⟨holds.call, holds.root⟩
    · exact ⟨holds.call, holds.root⟩

theorem custodial_removeTemporary :
    Custodial codec policy admits caller (Drafted policy caller id uuid inode)
      (always (.removeFile (.temporary id uuid))) (fun _ => Prepared policy caller (.provision id))
      fun _ => True := by
  refine always (stable_drafted id uuid inode) fun state sound holds _ => ?_
  have duty : custodyDuty codec policy caller (.removeFile (.temporary id uuid)) state :=
    .inr ⟨id, uuid, inode, rfl, holds⟩
  exact ⟨duty, custodyTerms_keeps sound duty, prepared_removeTemporary holds⟩

/-- The same for a caller that gives up if the removal fails. -/
theorem custodial_attemptRemoveTemporary :
    Custodial codec policy admits caller (Drafted policy caller id uuid inode)
      (attempt .io (.removeFile (.temporary id uuid)))
      (fun _ => Prepared policy caller (.provision id)) fun _ => True := by
  refine attempt (stable_drafted id uuid inode) fun state sound holds _ => ?_
  have duty : custodyDuty codec policy caller (.removeFile (.temporary id uuid)) state :=
    .inr ⟨id, uuid, inode, rfl, holds⟩
  refine ⟨duty, custodyTerms_keeps sound duty, ?_⟩
  show onOutcome _ _ (perform policy (.removeFile (.temporary id uuid)) state.1).1
    (after policy caller (.removeFile (.temporary id uuid)) state)
  cases (perform policy (.removeFile (.temporary id uuid)) state.1).1 with
  | ok => exact prepared_removeTemporary holds
  | error => trivial

theorem custodial_createKeys :
    Custodial codec policy admits caller (Prepared policy caller (.provision id))
      (createKeys codec policy id)
      (fun keys state => Trusting policy caller (.provision id) state ∧
        Published codec policy id keys state)
      fun _ => True := by
  refine sequence (custodial_generateKeys id) (fun _ _ _ => trivial) fun keys => ?_
  refine sequence (custodial_newUuid id keys) (fun _ _ _ => trivial) fun uuid => ?_
  refine sequence (custodial_createNew id keys uuid) (fun _ _ _ => trivial) fun inode => ?_
  refine sequence (custodial_writeAll id keys uuid inode) (fun _ _ _ => trivial) fun _ => ?_
  refine sequence (custodial_silent rfl (stable_draft id uuid inode _))
    (fun _ _ _ => trivial) fun _ => ?_
  refine sequence (custodial_hardLink id keys uuid inode) (fun _ _ _ => trivial) fun linked => ?_
  have reads : Custodial codec policy admits caller (Drafted policy caller id uuid inode) (do
        attempt .io (.removeFile (.temporary id uuid))
        readKeys codec policy (.secret id))
      (fun keys state => Trusting policy caller (.provision id) state ∧
        Published codec policy id keys state)
      fun _ => True :=
    sequence (custodial_attemptRemoveTemporary id uuid inode) (fun _ _ _ => trivial) fun _ =>
      (custodial_readKeys _ id).weaken (fun _ holds => holds) (fun _ _ holds => holds)
        fun _ _ _ => trivial
  have gives : ∀ error, Custodial codec policy admits caller (Drafted policy caller id uuid inode)
      (do
        let _ ← always (.removeFile (.temporary id uuid))
        throw (.io error))
      (fun keys state => Trusting policy caller (.provision id) state ∧
        Published codec policy id keys state)
      fun _ => True := fun error =>
    sequence (custodial_removeTemporary id uuid inode) (fun _ _ _ => trivial) fun _ =>
      done fun _ _ _ => trivial
  rcases linked with error | _
  · cases error with
    | notFound => exact gives .notFound
    | alreadyExists => exact reads
    | other => exact gives .other
  · exact reads

theorem custodial_provision : Custodial codec policy admits caller
      (fun state => state.2.calls.lookup caller = some (.provision id)) (provision codec policy id)
      (fun identity state => custodyDuty codec policy caller (.provisioned id (.ok identity)) state)
      fun _ => True := by
  refine sequence (custodial_prepareRoot _) (fun _ _ _ => trivial) fun _ => ?_
  refine sequence (capture (custodial_readKeys _ id)) (fun _ _ holds => holds) fun found => ?_
  have keeps : Custodial codec policy admits caller
      (onOutcome (fun keys state => Trusting policy caller (.provision id) state ∧
        Published codec policy id keys state)
        (fun _ => Prepared policy caller (.provision id)) found)
      (keysOrCreate codec policy id found)
      (fun keys state => Trusting policy caller (.provision id) state ∧
        Published codec policy id keys state)
      fun _ => True := by
    unfold keysOrCreate
    split
    · exact done fun _ _ holds => holds
    · exact custodial_createKeys id
    · exact done fun _ _ _ => trivial
  refine sequence keeps (fun _ _ _ => trivial) fun keys => ?_
  exact done fun _ _ holds => ⟨rfl, holds.1.1.2, holds.1.2, keys, rfl, holds.2⟩

theorem custodial_load : Custodial codec policy admits caller
      (fun state => state.2.calls.lookup caller = some (.load id)) (load codec policy id)
      (fun keys state => custodyDuty codec policy caller (.loaded id (.ok keys)) state)
      fun _ => True := by
  refine sequence (custodial_prepareRoot _) (fun _ _ _ => trivial) fun _ => ?_
  exact (custodial_readKeys _ id).weaken (fun _ holds => holds) (fun _ _ holds => holds.2)
    fun _ _ _ => trivial

/-! ### Purging -/

/-- The caller has removed the secret in its purge. -/
def Purging (caller : Caller) (id : AgentId) (state : CustodyState Keys) : Prop :=
  state.2.calls.lookup caller = some (.purge id) ∧ caller ∈ state.2.removed

theorem stable_purging : (custodyTerms codec policy).Stable caller (Purging caller id) := by
  intro before after spared _ _ holds
  refine ⟨spared.calls.trans holds.1, ?_⟩
  rw [← lookup_isSome, spared.removed, lookup_isSome]
  exact holds.2

theorem custodial_removeSecret : Custodial codec policy admits caller
      (fun state => state.2.calls.lookup caller = some (.purge id))
      (always (.removeFile (.secret id)))
      (fun outcome state => outcome = .ok () ∨ outcome = .error .notFound → Purging caller id state)
      fun _ => True := by
  refine always (stable_call _) fun state sound holds _ => ?_
  have duty : custodyDuty codec policy caller (.removeFile (.secret id)) state :=
    .inl ⟨id, rfl, holds⟩
  refine ⟨duty, custodyTerms_keeps sound duty, fun gone => ?_⟩
  show Purging caller id (after policy caller (.removeFile (.secret id)) state)
  have gone : (perform policy (.removeFile (.secret id)) state.1).1 = .ok () ∨
      (perform policy (.removeFile (.secret id)) state.1).1 = .error .notFound := gone
  simp only [after, noteCustody]
  rcases gone with outcome | outcome
  all_goals
    rw [outcome]
    exact ⟨holds, (mem_insert _).mpr (.inl rfl)⟩

theorem custodial_purge : Custodial codec policy admits caller
      (fun state => state.2.calls.lookup caller = some (.purge id)) (purge policy id)
      (fun _ => Purging caller id) fun _ => True := by
  refine sequence (custodial_prepareRoot _) (fun _ _ _ => trivial) fun _ => ?_
  refine sequence ((custodial_removeSecret id).weaken (fun _ holds => holds.1)
    (fun _ _ holds => holds) fun _ _ holds => holds) (fun _ _ _ => trivial) fun removed => ?_
  rcases removed with error | _
  · cases error with
    | notFound => exact done fun _ _ holds => holds (.inr rfl)
    | alreadyExists | other => exact done fun _ _ _ => trivial
  · exact done fun _ _ holds => holds (.inl rfl)

/-! ### Whole calls -/

/-- The last step of a call: its answer is marked. -/
theorem custodial_answer {Answer : Type}
    (action : Except CustodyError Answer → CustodyAction Keys Unit)
    {post : Answer → CustodyState Keys → Prop}
    (stable : ∀ answer, (custodyTerms codec policy).Stable caller (post answer))
    (duty : ∀ answer state, post answer state →
      custodyDuty codec policy caller (action (.ok answer)) state)
    (excused : ∀ error state, custodyDuty codec policy caller (action (.error error)) state)
    (outcome : Except CustodyError Answer) :
    (custodyTerms codec policy).Triple (notedCustodians codec policy) admits caller
      (onOutcome post (fun _ _ => True) outcome) (Program.perform (action outcome))
      fun _ _ => True := by
  have finish : ∀ response : Unit, (custodyTerms codec policy).Triple
      (notedCustodians codec policy) admits caller (fun _ => True) (.done response)
      fun _ _ => True := fun _ => done fun _ _ _ => trivial
  cases outcome with
  | ok answer =>
    refine step (stable answer) (fun state sound holds _ => ?_) finish
    exact ⟨duty answer state holds, custodyTerms_keeps sound (duty answer state holds), trivial⟩
  | error error =>
    refine step (fun _ _ _ _ _ _ => trivial) (fun state sound _ _ => ?_) finish
    exact ⟨excused error state, custodyTerms_keeps sound (excused error state), trivial⟩

theorem custodial_enter {program : Program (CustodyAction Keys) Unit}
    (rest : (custodyTerms codec policy).Triple (notedCustodians codec policy) admits caller
      (fun state => state.2.calls.lookup caller = some call) program fun _ _ => True) :
    (custodyTerms codec policy).Triple (notedCustodians codec policy) admits caller (fun _ => True)
      (.step (.enter call) fun _ => program) fun _ _ => True :=
  step (fun _ _ _ _ _ _ => trivial) (fun _ sound _ _ =>
    ⟨trivial, custodyTerms_keeps sound trivial, lookup_insert _⟩) fun _ => rest

theorem custodial_serve :
    (custodyTerms codec policy).Triple (notedCustodians codec policy) admits caller (fun _ => True)
      (call.serve codec policy) fun _ _ => True := by
  cases call with
  | provision id =>
    refine custodial_enter _ (bind (custodial_provision id) fun outcome => ?_)
    refine custodial_answer (.provisioned id) (fun identity => ?_) ?_ ?_ outcome
    · rintro before after spared - - ⟨same, root, safe, keys, publicKey, published⟩
      exact ⟨same, spared.root root, safe, keys, publicKey, spared.publishedKeys published⟩
    · exact fun _ _ holds => holds
    · exact fun _ _ => trivial
  | load id =>
    refine custodial_enter _ (bind (custodial_load id) fun outcome => ?_)
    refine custodial_answer (.loaded id) (fun keys => stable_published id keys) ?_ ?_ outcome
    · exact fun _ _ holds => holds
    · exact fun _ _ => trivial
  | purge id =>
    refine custodial_enter _ (bind (custodial_purge id) fun outcome => ?_)
    refine custodial_answer (.purged id) (fun _ => stable_purging id) ?_ ?_ outcome
    · exact fun _ _ holds => holds
    · exact fun _ _ => trivial

theorem custodyTerms_lawful :
    (custodyTerms codec policy).Lawful (notedCustodians codec policy) admits where
  rely_refl := fun caller state => refl policy caller state
  rely_trans := fun _ _ _ _ left right => trans left right
  idle_stable := fun _ _ _ _ _ _ _ => trivial
  start := by
    rintro caller ⟨world, note⟩ program ⟨after, later⟩ ⟨⟨same, call, begins⟩, kept⟩ sound _
    obtain rfl : after = world := same
    obtain rfl : later = note := kept
    refine ⟨sound, fun other _ => refl policy other _, ?_⟩
    rw [begins]
    exact (custodial_serve call).meets _ sound trivial
  environment := by
    rintro ⟨world, note⟩ ⟨after, later⟩ ⟨changes, kept⟩ sound
    obtain rfl : later = note := kept
    have quiet : ∀ caller, CustodyState.Quiet policy caller (world, later) (after, later) := by
      intro caller
      cases changes <;> exact ⟨rfl, rfl, rfl, fun safe => safe, rfl, rfl, fun _ _ => rfl,
        fun _ _ => rfl, fun _ _ => rfl⟩
    exact ⟨(quiet 0).sound sound, fun caller =>
      (quiet (caller + 1)).spares (Nat.ne_of_lt (Nat.lt_succ_self caller))⟩
  restart := by
    rintro ⟨world, note⟩ ⟨after, later⟩ threads ⟨⟨same, idle⟩, kept⟩ sound
    obtain rfl : after = world := same
    rw [show later = _ from kept, idle]
    exact ⟨⟨sound.named, sound.bounded, sound.written, sound.published, sound.secret⟩,
      fun _ => trivial⟩

end

end BuzzServer
