/-
This file proves what the custody is for: all callers that provision an agent
get the same key, and a purge erases it.

The first holds for every interleaving and every crash, as long as nobody purges
the agent: the name of the secret is linked once, and whoever returns a key has
read it from that name. The second fails. A provisioning that is cut off after
it has linked its file leaves the temporary name behind, and the purge removes
the name of the secret alone. The key is erased if the secret has no second name
when the purge removes it.
-/

import BuzzServer.Custody.Calls

namespace BuzzServer

open Relational Concurrent Discipline Concurrent.Fallible AList CustodyWorld System.Reaches Table

/-! ### Answers come from linked files -/

variable {inode : Nat} {Response : Type} {Keys : Type} {action : CustodyAction Keys Response}
  {caller : Caller}

section

variable {codec : KeyCodec Keys} {policy : CustodyPolicy}

/-- Every key that was answered stands in a file that was linked for its agent. -/
structure CustodyState.Truthful (codec : KeyCodec Keys) (policy : CustodyPolicy)
    (state : CustodyState Keys) : Prop where
  provisioned : ∀ identity ∈ state.2.provisioned, state.1.RootSafe policy ∧
    policy.fileMetadata.isSafe policy = true ∧ ∃ keys, codec.publicKey keys = identity.publicKey ∧
        Published codec policy identity.agentId keys state
  loaded : ∀ id keys, (id, keys) ∈ state.2.loaded → Published codec policy id keys state

/-- The marks at the end of a call. -/
def CustodyAction.isAnswer {Response : Type} : CustodyAction Keys Response → Bool
  | .provisioned _ _ | .loaded _ _ | .purged _ _ => true
  | _ => false

/-- The marks at both ends of a call. -/
def CustodyAction.isMark {Response : Type} : CustodyAction Keys Response → Bool
  | .enter _ | .provisioned _ _ | .loaded _ _ | .purged _ _ => true
  | _ => false

/-- The system calls that draw a key or write a file. -/
def CustodyAction.movesKeys {Response : Type} : CustodyAction Keys Response → Bool
  | .generateKeys | .createNew _ | .writeAll _ _ => true
  | _ => false

/-- What a system call leaves of the note. Nothing is answered before the end of a call. Between its
marks, a call leaves the calls in progress and the purged agents alone. -/
theorem noteCustody_keeps (policy : CustodyPolicy) (caller : Caller)
    (action : CustodyAction Keys Response) (world : CustodyWorld Keys) (note : CustodyNote Keys) :
    let later := noteCustody policy caller action world note
    (action.isAnswer = false → later.provisioned = note.provisioned ∧ later.loaded = note.loaded) ∧
      (action.isMark = false → later.calls = note.calls ∧ later.purged = note.purged) ∧
      (action.movesKeys = false → later.drawn = note.drawn ∧ later.held = note.held) := by
  have never {claim : Prop} (impossible : true = false) : claim := Bool.noConfusion impossible
  cases action with
  | createNew name =>
    obtain ⟨writers, same⟩ := note.create_eq caller
      (CustodyWorld.perform policy (.createNew name) world).1
    simp only [noteCustody, same, and_self, implies_true]
  | hardLink source target =>
    obtain ⟨published, same⟩ := note.link_eq (world.files.lookup source) target
      (CustodyWorld.perform policy (.hardLink source target) world).1
    simp only [noteCustody, same, and_self, implies_true]
  | removeFile name =>
    obtain ⟨removed, same⟩ := note.remove_eq caller name
      (CustodyWorld.perform policy (.removeFile name) world).1
    simp only [noteCustody, same, and_self, implies_true]
  | provisioned id outcome | loaded id outcome | purged id outcome =>
    cases outcome <;> exact ⟨never, never, fun _ => ⟨rfl, rfl⟩⟩
  | enter call => exact ⟨fun _ => ⟨rfl, rfl⟩, never, fun _ => ⟨rfl, rfl⟩⟩
  | generateKeys | writeAll => exact ⟨fun _ => ⟨rfl, rfl⟩, fun _ => ⟨rfl, rfl⟩, never⟩
  | _ => exact ⟨fun _ => ⟨rfl, rfl⟩, fun _ => ⟨rfl, rfl⟩, fun _ => ⟨rfl, rfl⟩⟩

theorem CustodyState.Truthful.after {state : CustodyState Keys}
    (truthful : state.Truthful codec policy) (sound : state.Sound codec policy)
    (duty : custodyDuty codec policy caller action state) :
    (CustodyState.after policy caller action state).Truthful codec policy := by
  have spared := (fileEffect_of_duty duty).spares sound (Nat.succ_ne_self caller)
  have provisioned : ∀ identity ∈ state.2.provisioned,
      (CustodyState.after policy caller action state).1.RootSafe policy ∧
        policy.fileMetadata.isSafe policy = true ∧ ∃ keys,
          codec.publicKey keys = identity.publicKey ∧ Published codec policy identity.agentId keys
            (CustodyState.after policy caller action state) := by
    intro identity member
    obtain ⟨root, safe, keys, publicKey, published⟩ := truthful.provisioned identity member
    exact ⟨spared.root root, safe, keys, publicKey, spared.publishedKeys published⟩
  have loaded : ∀ id keys, (id, keys) ∈ state.2.loaded → Published codec policy id keys
      (CustodyState.after policy caller action state) :=
    fun id keys member => spared.publishedKeys (truthful.loaded id keys member)
  have silent : action.isAnswer = false →
      (CustodyState.after policy caller action state).Truthful codec policy := by
    intro unanswered
    obtain ⟨same, alsoSame⟩ := (noteCustody_keeps policy caller action state.1 state.2).1 unanswered
    exact ⟨fun identity member => provisioned identity (same ▸ member),
      fun id keys member => loaded id keys (alsoSame ▸ member)⟩
  cases action with
  | provisioned id outcome =>
    cases outcome with
    | error error => exact ⟨provisioned, loaded⟩
    | ok identity =>
      refine ⟨fun answered member => ?_, loaded⟩
      rcases List.mem_cons.mp member with rfl | earlier
      · obtain ⟨same, root, safe, keys, publicKey, published⟩ := duty
        rw [← same] at published
        exact ⟨spared.root root, safe, keys, publicKey, spared.publishedKeys published⟩
      · exact provisioned answered earlier
  | loaded id outcome =>
    cases outcome with
    | error error => exact ⟨provisioned, loaded⟩
    | ok keys =>
      refine ⟨provisioned, fun owner answered member => ?_⟩
      rcases List.mem_cons.mp member with same | earlier
      · cases same
        exact spared.publishedKeys duty
      · exact loaded owner answered earlier
  | purged id outcome => cases outcome <;> exact ⟨provisioned, loaded⟩
  | _ => exact silent rfl

/-! ### Invariants of runs -/

variable {admits : Condition Caller (CustodyAction Keys) (CustodyState Keys)}
variable {pool last : Pool Caller (CustodyAction Keys) (CustodyState Keys)}

/-- The note a crash leaves. -/
def CustodyNote.crash (note : CustodyNote Keys) : CustodyNote Keys :=
  { note with calls := ∅, removed := ∅, held := ∅ }

/-- The induction rule: a property that the system calls keep and that does not depend on the
sources and the faults holds in every state of a run, if a crash keeps it. -/
theorem custody_invariant (property : CustodyState Keys → Prop)
    (reachable : CustodyReachable codec policy admits pool)
    (initially : ∀ world : CustodyWorld Keys, world.files = ∅ → world.inodes = ∅ →
      property (world, .blank))
    (act : ∀ caller ⦃Response : Type⦄ (action : CustodyAction Keys Response) state,
      state.Sound codec policy → custodyDuty codec policy caller action state →
        admits caller action state → property state →
          property (CustodyState.after policy caller action state))
    (frame : ∀ world after note, after.files = world.files → after.inodes = world.inodes →
      after.root = world.root → property (world, note) → property (after, note))
    (crash : ∀ world note, property (world, note) → property (world, note.crash)) :
    property pool.world ∧ pool.world.Sound codec policy := by
  obtain ⟨world, files, inodes, reaches⟩ := reachable
  have holds : (custodyTerms codec policy).Holds (notedCustodians codec policy) admits
      ⟨(world, .blank), fun _ => .done ()⟩ := by
    refine ⟨⟨fun name inode named => ?_, fun inode member => ?_, fun inode member => ?_,
      fun inode id linked => ?_, fun id inode named => ?_⟩, fun _ => trivial⟩
    · rw [show world.files = ∅ from files] at named
      cases named
    · rw [show world.inodes = ∅ from inodes] at member
      exact absurd member (notMem_empty inode)
    · exact absurd member (notMem_empty inode)
    · cases linked
    · rw [show world.files = ∅ from files] at named
      cases named
  refine ⟨?_, (custodyTerms_lawful.holds reaches holds).1⟩
  refine custodyTerms_lawful.invariant (fun _ _ _ _ => id) reaches holds
    (initially world files inodes) ?_ ?_ ?_ ?_
  · intro caller Response action state sound duty admitted held
    exact act caller action state sound duty admitted held
  · rintro caller ⟨before, note⟩ program ⟨after, later⟩ ⟨⟨same, -⟩, kept⟩ _ _ held
    obtain rfl : after = before := same
    obtain rfl : later = note := kept
    exact held
  · rintro ⟨before, note⟩ ⟨after, later⟩ ⟨changes, kept⟩ _ held
    obtain rfl : later = note := kept
    cases changes <;> exact frame before _ later rfl rfl rfl held
  · rintro ⟨before, note⟩ ⟨after, later⟩ threads ⟨⟨same, -⟩, kept⟩ _ held
    obtain rfl : after = before := same
    obtain rfl : later = note.crash := kept
    exact crash after note held

theorem truthful_blank (world : CustodyWorld Keys) :
    CustodyState.Truthful codec policy (world, .blank) where
  provisioned := fun _ member => absurd member List.not_mem_nil
  loaded := fun _ _ member => absurd member List.not_mem_nil

theorem CustodyState.Truthful.frame {world after : CustodyWorld Keys} {note : CustodyNote Keys}
    (inodes : after.inodes = world.inodes) (root : after.root = world.root)
    (truthful : CustodyState.Truthful codec policy (world, note)) :
    CustodyState.Truthful codec policy (after, note) := by
  have published : ∀ id keys, Published codec policy id keys (world, note) →
      Published codec policy id keys (after, note) := by
    rintro id keys ⟨inode, linked, stored⟩
    exact ⟨inode, linked, inodes ▸ stored⟩
  refine ⟨fun identity member => ?_, fun id keys member =>
    published id keys (truthful.loaded id keys member)⟩
  obtain ⟨safe, plain, keys, publicKey, linked⟩ := truthful.provisioned identity member
  exact ⟨by unfold CustodyWorld.RootSafe; rw [root]; exact safe, plain, keys, publicKey,
    published _ keys linked⟩

end

/-! ### One key for all callers -/

variable {world : CustodyWorld Keys}

section

variable {codec : KeyCodec Keys} {policy : CustodyPolicy}
variable {id : AgentId}

/-- The secret of the agent is not removed, as no purge of the agent gets that far. -/
def secretKept (id : AgentId) : Condition Caller (CustodyAction Keys) (CustodyState Keys) :=
  fun _ _ action _ =>
    match action with
    | .removeFile name => name ≠ .secret id
    | _ => True

/-- All files that were linked for the agent are the one that its name leads to. -/
def CustodyState.OneSecret (id : AgentId) (state : CustodyState Keys) : Prop :=
  ∀ inode, state.2.published.lookup inode = some id → state.1.files.lookup (.secret id) = some inode

theorem FileEffect.oneSecret {note : CustodyNote Keys} {action : CustodyAction Keys Response}
    {after : CustodyState Keys} (effect : FileEffect codec policy caller world note action after)
    (admitted : secretKept id caller action (world, note))
    (one : CustodyState.OneSecret id (world, note)) : after.OneSecret id := by
  intro inode linked
  cases effect with
  | quiet same =>
    rw [same.published] at linked
    rw [same.files]
    exact one inode linked
  | create free => exact (lookup_insert_ne (by simp)).trans (one inode linked)
  | write writer unlinked empty holds part => exact one inode linked
  | @link owner uuid linkedInode keys drafted unlinked complete free =>
    rw [lookup_insert_eq] at linked ⊢
    split at linked
    · next same =>
      cases linked
      rw [if_pos rfl, same]
    · have named := one inode linked
      rw [if_neg]
      · exact named
      · rintro same
        rw [same] at named
        exact free (mem_of_lookup named)
  | clean drafted => exact (lookup_erase_ne (by simp)).trans (one inode linked)
  | @purge owner call =>
    exact (lookup_erase_ne fun same => admitted same.symm).trans (one inode linked)

/-- With a safe root, preparing it changes at most its mode. -/
theorem alone_prepareRoot (works : world.fails = false) (safe : world.RootSafe policy) :
    ∃ root, alone (CustodyWorld.perform policy) (prepareRoot policy) world =
      (.ok (), { world with root := root }) := by
  obtain ⟨metadata, present, directory, owner⟩ := safe
  refine ⟨some { metadata with mode := 0o700 }, ?_⟩
  have created : CustodyWorld.perform policy .createDirAll world = (.ok (), world) := by
    simp [CustodyWorld.perform, CustodyWorld.unlessFails, createDirAll, works, present, directory]
  have looked : CustodyWorld.perform policy .rootMetadata world = (.ok metadata, world) := by
    simp [CustodyWorld.perform, CustodyWorld.unlessFails, rootMetadata, works, present]
  have changed : CustodyWorld.perform policy (.setRootPermissions 0o700) world =
      (.ok (), { world with root := some { metadata with mode := 0o700 } }) := by
    simp [CustodyWorld.perform, CustodyWorld.unlessFails, setRootPermissions, works, present]
  unfold prepareRoot
  rw [alone_bind_ok (by rw [alone_attempt, created]; rfl),
    alone_bind_ok (by rw [alone_attempt, looked]; rfl),
    if_neg (not_not.mpr directory), if_neg (not_not.mpr owner), alone_attempt, changed]
  rfl

/-- A secret that is there and safe is read. -/
theorem alone_readKeys {keys : Keys} (works : world.fails = false)
    (plain : policy.fileMetadata.isSafe policy = true)
    (named : world.files.lookup (.secret id) = some inode)
    (stored : world.inodes.lookup inode = some (codec.secretFile policy keys)) :
    alone (CustodyWorld.perform policy) (readKeys codec policy (.secret id)) world =
      (.ok keys, world) := by
  have looked : CustodyWorld.perform policy (.symlinkMetadata (.secret id)) world =
      (.ok policy.fileMetadata, world) := by
    simp [CustodyWorld.perform, CustodyWorld.unlessFails, symlinkMetadata, works, named,
      stored, KeyCodec.secretFile]
  have opened : CustodyWorld.perform policy (.open (.secret id)) world = (.ok inode, world) := by
    simp [CustodyWorld.perform, CustodyWorld.unlessFails, openFile, works, named]
  have whole : (codec.toSecretHex keys).take (secretHexBytes + 1) = codec.toSecretHex keys :=
    List.take_of_length_le (by rw [codec.length_toSecretHex]; exact Nat.le_succ _)
  have read : CustodyWorld.perform policy (.read inode (secretHexBytes + 1)) world =
      (.ok (codec.toSecretHex keys), world) := by
    simp [CustodyWorld.perform, CustodyWorld.unlessFails, CustodyWorld.read, works, stored,
      KeyCodec.secretFile, whole]
  have parsed : parseSecret codec (codec.toSecretHex keys) = pure keys := by
    unfold parseSecret
    rw [if_neg (by simp [codec.length_toSecretHex, codec.hex_toSecretHex]), codec.parse_toSecretHex]
  unfold readKeys
  rw [alone_bind_ok (by rw [alone_attempt, looked]; rfl), if_pos plain,
    alone_bind_ok (by rw [alone_attempt, opened]; rfl),
    alone_bind_ok (by rw [alone_attempt, read]; rfl), parsed,
    alone_pure]

theorem alone_load {keys : Keys} (works : world.fails = false) (safe : world.RootSafe policy)
    (plain : policy.fileMetadata.isSafe policy = true)
    (named : world.files.lookup (.secret id) = some inode)
    (stored : world.inodes.lookup inode = some (codec.secretFile policy keys)) :
    (alone (CustodyWorld.perform policy) (load codec policy id) world).1 = .ok keys := by
  obtain ⟨root, prepared⟩ := alone_prepareRoot works safe
  unfold load
  rw [alone_bind_ok prepared, alone_readKeys (by exact works) plain (by exact named)
    (by exact stored)]

theorem CustodyReachable.oneSecret {pool : Pool Caller (CustodyAction Keys) (CustodyState Keys)}
    (reachable : CustodyReachable codec policy (secretKept id) pool) :
    pool.world.Truthful codec policy ∧ pool.world.OneSecret id := by
  refine (custody_invariant (fun state => state.Truthful codec policy ∧ state.OneSecret id)
    reachable (fun world _ _ => ?_) ?_ ?_ ?_).1
  · exact ⟨truthful_blank world, fun _ linked => by cases linked⟩
  · rintro caller Response action state sound duty admitted ⟨truthful, one⟩
    exact ⟨truthful.after sound duty, (fileEffect_of_duty duty).oneSecret admitted one⟩
  · rintro world after note files inodes root ⟨truthful, one⟩
    refine ⟨truthful.frame inodes root, fun inode linked => ?_⟩
    rw [files]
    exact one inode linked
  · rintro world note ⟨truthful, one⟩
    exact ⟨⟨truthful.provisioned, truthful.loaded⟩, one⟩

/-- For any number of callers that provision, load and purge, with system calls that fail and
crashes at any point, as long as no purge removes the secret of the agent: all provisionings
of the agent that succeed return the same public key; every load that succeeds returns a key
with it; and a load that nothing disturbs does succeed. -/
theorem provision_agrees {pool : Pool Caller (CustodyAction Keys) (CustodyState Keys)}
    (reachable : CustodyReachable codec policy (secretKept id) pool)
    {identity : CustodiedIdentity} (member : identity ∈ pool.world.2.provisioned)
    (agent : identity.agentId = id) :
    (∀ other ∈ pool.world.2.provisioned, other.agentId = id →
        other.publicKey = identity.publicKey) ∧
      (∀ keys, (id, keys) ∈ pool.world.2.loaded → codec.publicKey keys = identity.publicKey) ∧
      ∃ keys, (alone (CustodyWorld.perform policy) (load codec policy id)
          { pool.world.1 with fails := false }).1 = .ok keys ∧
        codec.publicKey keys = identity.publicKey := by
  obtain ⟨truthful, one⟩ := reachable.oneSecret
  obtain ⟨safe, plain, keys, publicKey, inode, linked, stored⟩ :=
    truthful.provisioned identity member
  rw [agent] at linked
  have same : ∀ other, Published codec policy id other pool.world → other = keys := by
    rintro other ⟨file, alsoLinked, alsoStored⟩
    have named := one inode linked
    rw [one file alsoLinked] at named
    obtain rfl : file = inode := Option.some.inj named
    rw [stored] at alsoStored
    have equal : codec.toSecretHex keys = codec.toSecretHex other :=
      congrArg Inode.content (Option.some.inj alsoStored)
    exact (codec.toSecretHex_injective equal).symm
  refine ⟨fun other answered owner => ?_, fun other answered => ?_, keys, ?_, publicKey⟩
  · obtain ⟨-, -, others, matching, published⟩ := truthful.provisioned other answered
    rw [owner] at published
    rw [← matching, same others published, publicKey]
  · rw [same other (truthful.loaded id other answered), publicKey]
  · exact alone_load rfl safe plain (one inode linked) stored

end

/-! ### A key that is erased -/

section

variable {codec : KeyCodec Keys} {policy : CustodyPolicy}

/-- Some file under the custody root contains a text. -/
def CustodyWorld.Contains (world : CustodyWorld Keys) (secret : List Char) : Prop :=
  ∃ name inode file, world.files.lookup name = some inode ∧
    world.inodes.lookup inode = some file ∧ secret <:+: file.content

/-- What a purge needs to erase the key. When it removes the secret, the file has no other
name and nobody is provisioning the agent; nobody begins to provision the agent before the
purge is answered. Keys that are generated are new. -/
def erasesLast (codec : KeyCodec Keys) :
    Condition Caller (CustodyAction Keys) (CustodyState Keys) :=
  fun _ _ action state =>
    match action with
    | .generateKeys =>
        ∀ keys ∈ state.2.drawn, codec.publicKey keys ≠ codec.publicKey state.1.entropy
    | .enter (.provision id) =>
        ∀ other, state.2.calls.lookup other = some (.purge id) → other ∉ state.2.removed
    | .removeFile (.secret id) =>
        (∀ other, state.2.calls.lookup other ≠ some (.provision id)) ∧
          ∀ inode, state.1.files.lookup (.secret id) = some inode →
            ∀ name, state.1.files.lookup name = some inode → name = .secret id
    | _ => True

/-! ### Names -/

/-- A file that was linked for an agent is the one its name leads to, or has no name. -/
def CustodyState.Unlinked (state : CustodyState Keys) : Prop :=
  ∀ inode id, state.2.published.lookup inode = some id →
    state.1.files.lookup (.secret id) = some inode ∨ ∀ name, state.1.files.lookup name ≠ some inode

theorem FileEffect.unlinked {world : CustodyWorld Keys} {note : CustodyNote Keys}
    {Response : Type} {action : CustodyAction Keys Response} {after : CustodyState Keys}
    (effect : FileEffect codec policy caller world note action after)
    (sound : CustodyState.Sound codec policy (world, note))
    (admitted : erasesLast codec caller action (world, note))
    (unlinked : CustodyState.Unlinked (world, note)) : after.Unlinked := by
  intro inode id linked
  cases effect with
  | quiet same =>
    rw [same.published] at linked
    rw [same.files]
    exact unlinked inode id linked
  | @create owner uuid free =>
    have older : inode ≠ world.nextInode := by
      rintro rfl
      exact notMem_nextInode sound (Sound.mem_of_published sound linked)
    refine (unlinked inode id linked).imp (lookup_insert_ne (by simp)).trans ?_
    intro nameless name
    rw [lookup_insert_eq]
    split
    · exact fun same => older (Option.some.inj same).symm
    · exact nameless name
  | write writer unwritten empty holds part => exact unlinked inode id linked
  | @link owner uuid drafted keys draft fresh complete free =>
    by_cases same : inode = drafted
    · subst same
      rw [lookup_insert] at linked
      cases linked
      exact .inl (lookup_insert _)
    · rw [lookup_insert_ne same] at linked
      refine (unlinked inode id linked).imp (fun named => ?_) fun nameless name => ?_
      · refine (lookup_insert_ne ?_).trans named
        intro equal
        rw [equal] at named
        exact free (mem_of_lookup named)
      · rw [lookup_insert_eq]
        split
        · exact fun equal => same (Option.some.inj equal).symm
        · exact nameless name
  | @clean owner uuid drafted draft =>
    refine (unlinked inode id linked).imp (lookup_erase_ne (by simp)).trans ?_
    intro nameless name
    rw [lookup_erase_eq]
    split
    · simp
    · exact nameless name
  | @purge owner call =>
    have nameless_erase : (∀ name, world.files.lookup name ≠ some inode) →
        ∀ name, (world.files.erase (.secret owner)).lookup name ≠ some inode := by
      intro nameless name
      rw [lookup_erase_eq]
      split
      · simp
      · exact nameless name
    rcases unlinked inode id linked with named | nameless
    · by_cases same : id = owner
      · subst same
        -- The secret had no other name, so the file has none now.
        refine .inr fun name => ?_
        rw [lookup_erase_eq]
        split
        · simp
        · next other => exact fun found => other (admitted.2 inode named name found)
      · exact .inl ((lookup_erase_ne (by simpa using same)).trans named)
    · exact .inr (nameless_erase nameless)

/-- The secret of the agent is gone: a purge has removed it, and nobody provisions the agent. -/
def CustodyState.Cleared (id : AgentId) (state : CustodyState Keys) : Prop :=
  .secret id ∉ state.1.files ∧ ∀ caller, state.2.calls.lookup caller ≠ some (.provision id)

/-- The agents that were purged, or that a purge under way has removed the secret of. -/
def CustodyState.Expunged (id : AgentId) (state : CustodyState Keys) : Prop :=
  id ∈ state.2.purged ∨
    ∃ caller, state.2.calls.lookup caller = some (.purge id) ∧ caller ∈ state.2.removed

variable {note : CustodyNote Keys} {state : CustodyState Keys}

/-- A secret appears only under a provisioning of its agent. -/
theorem FileEffect.mem_secret {after : CustodyState Keys} {id : AgentId}
    (effect : FileEffect codec policy caller world note action after)
    (present : .secret id ∈ after.1.files) :
    .secret id ∈ world.files ∨ note.calls.lookup caller = some (.provision id) := by
  cases effect with
  | quiet same =>
    rw [same.files] at present
    exact .inl present
  | create free =>
    rcases (mem_insert _).mp present with same | earlier
    · cases same
    · exact .inl earlier
  | write writer unlinked empty holds part => exact .inl present
  | link drafted unlinked complete free =>
    rcases (mem_insert _).mp present with same | earlier
    · cases same
      exact .inr drafted.call
    · exact .inl earlier
  | clean drafted | purge call => exact .inl (mem_erase.mp present).2

/-- The end of a call leaves the agents that were purged before as they were. -/
theorem cleared_answer {later : CustodyNote Keys} (calls : later.calls = note.calls.erase caller)
    (removed : later.removed = note.removed)
    (purged : ∀ id, id ∈ later.purged → CustodyState.Expunged id (world, note))
    (cleared : ∀ id, CustodyState.Expunged id (world, note) →
      CustodyState.Cleared id (world, note)) :
    ∀ id, CustodyState.Expunged id (world, later) → CustodyState.Cleared id (world, later) := by
  have ended : ∀ other call, later.calls.lookup other = some call →
      note.calls.lookup other = some call := by
    intro other call found
    rw [calls, lookup_erase_eq] at found
    split at found
    · cases found
    · exact found
  intro id expunged
  have before : CustodyState.Expunged id (world, note) := by
    rcases expunged with gone | ⟨other, purging, past⟩
    · exact purged id gone
    · exact .inr ⟨other, ended other _ purging, removed ▸ past⟩
  exact ⟨(cleared id before).1,
    fun other found => (cleared id before).2 other (ended other _ found)⟩

/-- A provisioning that begins takes its agent off the purged ones. -/
theorem cleared_enter {call : CustodyCall}
    (admitted : erasesLast codec caller (.enter call) (world, note))
    (cleared : ∀ id, CustodyState.Expunged id (world, note) →
      CustodyState.Cleared id (world, note)) :
    ∀ id, CustodyState.Expunged id (world, note.enter caller call) →
      CustodyState.Cleared id (world, note.enter caller call) := by
  intro id expunged
  have before : CustodyState.Expunged id (world, note) ∧ call ≠ .provision id := by
    rcases expunged with gone | ⟨other, purging, past⟩
    · cases call with
      | provision owner =>
        obtain ⟨different, earlier⟩ := mem_erase.mp gone
        exact ⟨.inl earlier, fun same => different (CustodyCall.provision.inj same).symm⟩
      | load owner | purge owner => exact ⟨.inl gone, by simp⟩
    · obtain ⟨different, earlier⟩ := mem_erase.mp past
      rw [show (note.enter caller call).calls = note.calls.insert caller call from rfl,
        lookup_insert_ne different] at purging
      refine ⟨.inr ⟨other, purging, earlier⟩, ?_⟩
      rintro rfl
      exact admitted other purging earlier
  refine ⟨(cleared id before.1).1, fun other found => ?_⟩
  rw [show (note.enter caller call).calls = note.calls.insert caller call from rfl,
    lookup_insert_eq] at found
  split at found
  · exact before.2 (Option.some.inj found)
  · exact (cleared id before.1).2 other found

/-- A purge that gets past its removal leaves no secret behind. -/
theorem removeSecret_cases (id : AgentId) (state : CustodyState Keys) :
    (CustodyState.after policy caller (.removeFile (.secret id)) state).2 = state.2 ∨
      (CustodyState.after policy caller (.removeFile (.secret id)) state).2 =
          { state.2 with removed := state.2.removed.insert caller () } ∧
        .secret id ∉
          (CustodyState.after policy caller (.removeFile (.secret id)) state).1.files := by
  simp only [CustodyState.after, CustodyWorld.perform, noteCustody]
  rcases state.1.unlessFails_cases (state.1.removeFile (.secret id)) with failed | done
  · rw [failed]
    exact .inl rfl
  · rw [done]
    by_cases present : CustodyName.secret id ∈ state.1.files
    · simp only [removeFile, present]
      exact .inr ⟨rfl, fun remains => (mem_erase.mp remains).1 rfl⟩
    · simp only [removeFile, present, if_false]
      exact .inr ⟨rfl, not_false⟩

theorem cleared_removeSecret {id : AgentId}
    (calling : state.2.calls.lookup caller = some (.purge id))
    (alone : ∀ other, state.2.calls.lookup other ≠ some (.provision id)) (gone : .secret id ∉
      (CustodyState.after policy caller (.removeFile (.secret id)) state).1.files)
    (noted : (CustodyState.after policy caller (.removeFile (.secret id)) state).2 =
      { state.2 with removed := state.2.removed.insert caller () })
    (absent : ∀ owner, state.Cleared owner → .secret owner ∉
      (CustodyState.after policy caller (.removeFile (.secret id)) state).1.files)
    (cleared : ∀ owner, state.Expunged owner → state.Cleared owner) (owner : AgentId)
    (expunged : (CustodyState.after policy caller (.removeFile (.secret id)) state).Expunged
      owner) :
    (CustodyState.after policy caller (.removeFile (.secret id)) state).Cleared owner := by
  unfold CustodyState.Expunged CustodyState.Cleared at *
  rw [noted] at expunged ⊢
  have earlier : state.Expunged owner ∨ owner = id := by
    rcases expunged with purged | ⟨other, purging, past⟩
    · exact .inl (.inl purged)
    · rcases (mem_insert _).mp past with rfl | before
      · rw [show state.2.calls.lookup other = _ from calling] at purging
        exact .inr (CustodyCall.purge.inj (Option.some.inj purging)).symm
      · exact .inl (.inr ⟨other, purging, before⟩)
  rcases earlier with before | rfl
  · exact ⟨absent owner (cleared owner before), (cleared owner before).2⟩
  · exact ⟨gone, alone⟩

theorem cleared_after (duty : custodyDuty codec policy caller action state)
    (admitted : erasesLast codec caller action state)
    (cleared : ∀ id, state.Expunged id → state.Cleared id) :
    ∀ id, (CustodyState.after policy caller action state).Expunged id →
      (CustodyState.after policy caller action state).Cleared id := by
  have absent : ∀ id, state.Cleared id →
      .secret id ∉ (CustodyState.after policy caller action state).1.files := by
    intro id clear present
    rcases (fileEffect_of_duty duty).mem_secret present with earlier | provisioning
    · exact clear.1 earlier
    · exact clear.2 caller provisioning
  have between : action.isMark = false →
      (∀ other, other ∈ (CustodyState.after policy caller action state).2.removed →
        other ∈ state.2.removed) → ∀ id,
      (CustodyState.after policy caller action state).Expunged id →
        (CustodyState.after policy caller action state).Cleared id := by
    intro unmarked earlier id expunged
    obtain ⟨calls, purged⟩ := (noteCustody_keeps policy caller action state.1 state.2).2.1 unmarked
    have before : state.Expunged id := by
      rcases expunged with gone | ⟨other, purging, past⟩
      · exact .inl (purged ▸ gone)
      · exact .inr ⟨other, calls ▸ purging, earlier other past⟩
    exact ⟨absent id (cleared id before), fun other found =>
      (cleared id before).2 other (calls ▸ found)⟩
  cases action with
  | enter call => exact cleared_enter admitted cleared
  | provisioned id outcome | loaded id outcome =>
    cases outcome <;> exact cleared_answer rfl rfl (fun _ gone => .inl gone) cleared
  | purged id outcome =>
    cases outcome with
    | error error => exact cleared_answer rfl rfl (fun _ gone => .inl gone) cleared
    | ok =>
      refine cleared_answer rfl rfl (fun owner gone => ?_) cleared
      rcases (mem_insert _).mp gone with rfl | earlier
      · exact .inr ⟨caller, duty.1, duty.2⟩
      · exact .inl earlier
  | createNew name =>
    refine between rfl fun other past => ?_
    obtain ⟨writers, same⟩ := state.2.create_eq caller
      (CustodyWorld.perform policy (.createNew name) state.1).1
    exact (congrArg CustodyNote.removed same) ▸ past
  | hardLink source target =>
    refine between rfl fun other past => ?_
    obtain ⟨published, same⟩ := state.2.link_eq (state.1.files.lookup source) target
      (CustodyWorld.perform policy (.hardLink source target) state.1).1
    exact (congrArg CustodyNote.removed same) ▸ past
  | removeFile name =>
    cases name with
    | temporary id uuid => exact between rfl fun _ holds => holds
    | secret id =>
      rcases removeSecret_cases id state with same | ⟨noted, gone⟩
      · exact between rfl fun _ past => same ▸ past
      · have calling : state.2.calls.lookup caller = some (.purge id) := by
          rcases duty with ⟨owner, named, call⟩ | ⟨_, _, _, named, -⟩
          · cases named
            exact call
          · cases named
        exact cleared_removeSecret calling admitted.1 gone noted absent cleared
  | _ => exact between rfl fun _ => id

/-! ### Keys -/

/-- A file holds a whole key. -/
def CustodyWorld.Keeps (codec : KeyCodec Keys) (world : CustodyWorld Keys) (inode : Nat)
    (keys : Keys) : Prop :=
  ∃ file, world.inodes.lookup inode = some file ∧ file.content = codec.toSecretHex keys

/-- Every key is in one place: in one file, or in the hands of one caller. -/
structure CustodyState.DistinctKeys (codec : KeyCodec Keys) (state : CustodyState Keys) :
    Prop where
  contents : ∀ inode file, state.1.inodes.lookup inode = some file →
    file.content = [] ∨ ∃ keys ∈ state.2.drawn, file.content <+: codec.toSecretHex keys
  files : ∀ first second one two, state.1.Keeps codec first one → state.1.Keeps codec second two →
    codec.publicKey one = codec.publicKey two → first = second
  held : ∀ caller keys, state.2.held.lookup caller = some keys → keys ∈ state.2.drawn
  unwritten : ∀ caller keys inode other, state.2.held.lookup caller = some keys →
    state.1.Keeps codec inode other → codec.publicKey other ≠ codec.publicKey keys
  holders : ∀ first second one two, state.2.held.lookup first = some one →
    state.2.held.lookup second = some two → codec.publicKey one = codec.publicKey two →
      first = second

theorem toSecretHex_ne_nil (codec : KeyCodec Keys) (keys : Keys) : codec.toSecretHex keys ≠ [] := by
  intro empty
  have length := codec.length_toSecretHex keys
  rw [empty] at length
  cases length

/-- A key that stands in a file was drawn. -/
theorem CustodyState.DistinctKeys.mem_drawn {keys : Keys} (distinct : state.DistinctKeys codec)
    (kept : state.1.Keeps codec inode keys) : keys ∈ state.2.drawn := by
  obtain ⟨file, stored, content⟩ := kept
  rcases distinct.contents inode file stored with empty | ⟨drawn, member, part⟩
  · exact absurd (content.symm.trans empty) (toSecretHex_ne_nil codec keys)
  · rw [content] at part
    have whole := part.eq_of_length (by rw [codec.length_toSecretHex, codec.length_toSecretHex])
    rw [codec.toSecretHex_injective whole]
    exact member

/-- With no key in anybody's hands, only the files matter. -/
theorem distinctKeys_of_unheld (unheld : state.2.held = ∅)
    (contents : ∀ inode file, state.1.inodes.lookup inode = some file →
      file.content = [] ∨ ∃ keys ∈ state.2.drawn, file.content <+: codec.toSecretHex keys)
    (files : ∀ first second one two, state.1.Keeps codec first one →
      state.1.Keeps codec second two → codec.publicKey one = codec.publicKey two →
        first = second) : state.DistinctKeys codec := by
  have nobody : ∀ caller keys, state.2.held.lookup caller ≠ some keys := by
    intro caller keys found
    rw [unheld] at found
    cases found
  exact ⟨contents, files, fun caller keys found => absurd found (nobody caller keys),
    fun caller keys _ _ found => absurd found (nobody caller keys),
    fun first _ one _ found => absurd found (nobody first one)⟩

/-- Only the inodes and the keys drawn and held matter. -/
theorem CustodyState.DistinctKeys.congr {before after : CustodyState Keys}
    (distinct : before.DistinctKeys codec) (inodes : after.1.inodes = before.1.inodes)
    (drawn : after.2.drawn = before.2.drawn) (held : after.2.held = before.2.held) :
    after.DistinctKeys codec := by
  have keeps : ∀ inode keys, after.1.Keeps codec inode keys → before.1.Keeps codec inode keys := by
    rintro inode keys ⟨file, stored, content⟩
    exact ⟨file, inodes ▸ stored, content⟩
  refine ⟨?_, fun first second one two left right => distinct.files first second one two
    (keeps first one left) (keeps second two right), ?_, fun caller keys inode other found kept =>
      distinct.unwritten caller keys inode other (held ▸ found) (keeps inode other kept), ?_⟩
  · rw [inodes, drawn]
    exact distinct.contents
  · rw [held, drawn]
    exact distinct.held
  · rw [held]
    exact distinct.holders

variable (distinct : CustodyState.DistinctKeys codec (world, note))

include distinct

/-- A key that was never drawn before may be drawn. -/
theorem CustodyState.DistinctKeys.draw
    (fresh : ∀ keys ∈ note.drawn, codec.publicKey keys ≠ codec.publicKey world.entropy) :
    CustodyState.DistinctKeys codec (world, note.draw caller world.entropy) := by
  have cases_held : ∀ other keys, (note.held.insert caller world.entropy).lookup other =
      some keys → other = caller ∧ keys = world.entropy ∨ other ≠ caller ∧
        note.held.lookup other = some keys := by
    intro other keys found
    rw [lookup_insert_eq] at found
    split at found
    · next same => exact .inl ⟨same, (Option.some.inj found).symm⟩
    · next different => exact .inr ⟨different, found⟩
  refine ⟨fun inode file stored => ?_, distinct.files, fun other keys found => ?_,
    fun other keys inode written found kept => ?_, fun first second one two left right same => ?_⟩
  · refine (distinct.contents inode file stored).imp id ?_
    rintro ⟨keys, member, part⟩
    exact ⟨keys, List.mem_cons_of_mem _ member, part⟩
  · rcases cases_held other keys found with ⟨-, rfl⟩ | ⟨-, earlier⟩
    · exact List.mem_cons_self
    · exact List.mem_cons_of_mem _ (distinct.held other keys earlier)
  · rcases cases_held other keys found with ⟨-, rfl⟩ | ⟨-, earlier⟩
    · exact fresh written (distinct.mem_drawn kept)
    · exact distinct.unwritten other keys inode written earlier kept
  · rcases cases_held first one left with ⟨rfl, rfl⟩ | ⟨-, before⟩ <;>
      rcases cases_held second two right with ⟨rfl, rfl⟩ | ⟨-, alsoBefore⟩
    · rfl
    · exact absurd same.symm (fresh two (distinct.held second two alsoBefore))
    · exact absurd same (fresh one (distinct.held first one before))
    · exact distinct.holders first second one two before alsoBefore same

/-- A new file holds nothing. -/
theorem CustodyState.DistinctKeys.create {after : CustodyWorld Keys} {later : CustodyNote Keys}
    (inodes : after.inodes = world.inodes.insert inode ⟨[], policy.fileMetadata⟩)
    (drawn : later.drawn = note.drawn) (held : later.held = note.held) :
    CustodyState.DistinctKeys codec (after, later) := by
  have keeps : ∀ other keys, after.Keeps codec other keys → world.Keeps codec other keys := by
    rintro other keys ⟨file, stored, content⟩
    rw [inodes, lookup_insert_eq] at stored
    split at stored
    · cases stored
      exact absurd content.symm (toSecretHex_ne_nil codec keys)
    · exact ⟨file, stored, content⟩
  refine ⟨fun other file stored => ?_, fun first second one two left right =>
    distinct.files first second one two (keeps first one left) (keeps second two right), ?_,
    fun other keys file written found kept => ?_, ?_⟩
  · rw [show (after, later).1.inodes = _ from inodes, lookup_insert_eq] at stored
    rw [drawn]
    split at stored
    · cases stored
      exact .inl rfl
    · exact distinct.contents other file stored
  · rw [held, drawn]
    exact distinct.held
  · rw [show (after, later).2.held = _ from held] at found
    exact distinct.unwritten other keys file written found (keeps file written kept)
  · rw [held]
    exact distinct.holders

/-- A key that is written goes from its caller to its file. -/
theorem CustodyState.DistinctKeys.write {handle : Nat} {keys : Keys} {text : List Char}
    (holds : note.held.lookup caller = some keys) (part : text <+: codec.toSecretHex keys) :
    CustodyState.DistinctKeys codec
      ({ world with inodes := world.inodes.insert handle ⟨text, policy.fileMetadata⟩ },
        { note with held := note.held.erase caller }) := by
  -- A file with a whole key is the one just written, with the caller's key, or an older one.
  have keeps : ∀ inode other, CustodyWorld.Keeps codec
        { world with inodes := world.inodes.insert handle ⟨text, policy.fileMetadata⟩ } inode
        other → inode = handle ∧ other = keys ∨ inode ≠ handle ∧ world.Keeps codec inode other := by
    rintro inode other ⟨file, stored, content⟩
    rw [lookup_insert_eq] at stored
    split at stored
    · next same =>
      cases stored
      rw [show text = codec.toSecretHex other from content] at part
      have whole := part.eq_of_length (by rw [codec.length_toSecretHex, codec.length_toSecretHex])
      exact .inl ⟨same, codec.toSecretHex_injective whole⟩
    · next different => exact .inr ⟨different, file, stored, content⟩
  have remaining : ∀ other owned, (note.held.erase caller).lookup other = some owned →
      other ≠ caller ∧ note.held.lookup other = some owned := by
    intro other owned found
    rw [lookup_erase_eq] at found
    split at found
    · cases found
    · next different => exact ⟨different, found⟩
  refine ⟨fun inode file stored => ?_, fun first second one two left right same => ?_,
    fun other owned found => distinct.held other owned (remaining other owned found).2,
    fun other owned inode written found kept => ?_, fun first second one two left right =>
      distinct.holders first second one two (remaining first one left).2
        (remaining second two right).2⟩
  · rw [lookup_insert_eq] at stored
    split at stored
    · cases stored
      exact .inr ⟨keys, distinct.held caller keys holds, part⟩
    · exact distinct.contents inode file stored
  · rcases keeps first one left with ⟨rfl, rfl⟩ | ⟨-, before⟩ <;>
      rcases keeps second two right with ⟨rfl, rfl⟩ | ⟨-, alsoBefore⟩
    · rfl
    · exact absurd same.symm (distinct.unwritten caller one second two holds alsoBefore)
    · exact absurd same (distinct.unwritten caller two first one holds before)
    · exact distinct.files first second one two before alsoBefore same
  · obtain ⟨different, owning⟩ := remaining other owned found
    rcases keeps inode written kept with ⟨-, rfl⟩ | ⟨-, before⟩
    · exact fun same =>
        different (distinct.holders other caller owned written owning holds same.symm)
    · exact distinct.unwritten other owned inode written owning before

omit distinct

theorem FileEffect.inodes {after : CustodyState Keys}
    (effect : FileEffect codec policy caller world note action after)
    (still : action.movesKeys = false) : after.1.inodes = world.inodes := by
  cases effect with
  | quiet same => exact same.inodes
  | create | write => cases still
  | link | clean | purge => rfl

theorem CustodyState.DistinctKeys.after {Response : Type} {action : CustodyAction Keys Response}
    {state : CustodyState Keys} (distinct : state.DistinctKeys codec)
    (duty : custodyDuty codec policy caller action state)
    (admitted : erasesLast codec caller action state) :
    (CustodyState.after policy caller action state).DistinctKeys codec := by
  have stay : action.movesKeys = false →
      (CustodyState.after policy caller action state).DistinctKeys codec := by
    intro still
    obtain ⟨drawn, held⟩ := (noteCustody_keeps policy caller action state.1 state.2).2.2 still
    exact distinct.congr ((fileEffect_of_duty duty).inodes still) drawn held
  cases action with
  | generateKeys => exact distinct.draw admitted
  | createNew name =>
    rcases after_createNew caller state.1 state.2 name with same | ⟨-, created⟩
    · exact same ▸ distinct
    · rw [show CustodyState.after policy caller (.createNew name) state = _ from created]
      exact distinct.create rfl rfl rfl
  | writeAll handle text =>
    obtain ⟨-, -, empty, keys, holds, rfl⟩ := duty
    obtain ⟨part, written, after⟩ := after_writeAll empty
    rw [show CustodyState.after policy caller (.writeAll handle _) state = _ from after]
    exact distinct.write holds written
  | _ => exact stay rfl

/-! ### The result -/

/-- What holds of the names, the purges and the keys along a run that meets the condition. -/
structure CustodyState.Erasing (codec : KeyCodec Keys) (policy : CustodyPolicy)
    (state : CustodyState Keys) : Prop where
  truthful : state.Truthful codec policy
  unlinked : state.Unlinked
  cleared : ∀ id, state.Expunged id → state.Cleared id
  distinct : state.DistinctKeys codec

theorem CustodyReachable.erasing {pool : Pool Caller (CustodyAction Keys) (CustodyState Keys)}
    (reachable : CustodyReachable codec policy (erasesLast codec) pool) :
    pool.world.Erasing codec policy := by
  refine (custody_invariant (CustodyState.Erasing codec policy) reachable
    (fun world files inodes => ?_) ?_ ?_ ?_).1
  · have nothing : ∀ inode keys, ¬ world.Keeps codec inode keys := by
      rintro inode keys ⟨file, stored, -⟩
      rw [inodes] at stored
      cases stored
    refine ⟨truthful_blank world, fun _ _ linked => (by cases linked), fun id expunged => ?_,
      distinctKeys_of_unheld rfl (fun inode file stored => ?_)
        fun first _ one _ left => absurd left (nothing first one)⟩
    · rcases expunged with purged | ⟨other, calling, -⟩
      · exact absurd purged (notMem_empty id)
      · cases calling
    · rw [show world.inodes = ∅ from inodes] at stored
      cases stored
  · intro caller Response action state sound duty admitted held
    exact ⟨held.truthful.after sound duty, (fileEffect_of_duty duty).unlinked
      sound admitted held.unlinked,
      cleared_after duty admitted held.cleared, held.distinct.after duty admitted⟩
  · intro world after note files inodes root held
    refine ⟨held.truthful.frame inodes root, fun inode id linked => ?_, fun id expunged => ?_,
      held.distinct.congr inodes rfl rfl⟩
    · rw [files]
      exact held.unlinked inode id linked
    · refine ⟨?_, (held.cleared id expunged).2⟩
      rw [files]
      exact (held.cleared id expunged).1
  · intro world note held
    refine ⟨⟨held.truthful.provisioned, held.truthful.loaded⟩, held.unlinked,
      fun id expunged => ?_, distinctKeys_of_unheld rfl held.distinct.contents held.distinct.files⟩
    rcases expunged with purged | ⟨other, calling, -⟩
    · exact ⟨(held.cleared id (.inl purged)).1, fun _ found => (by cases found)⟩
    · cases calling

/-- For any number of callers, with system calls that fail and crashes at any point, in every
run that meets the condition: after a purge of an agent that succeeded, with no provisioning
of the agent since, no file under the custody root contains the secret of a key that a
provisioning of the agent ever returned. -/
theorem purge_erases {pool : Pool Caller (CustodyAction Keys) (CustodyState Keys)}
    (reachable : CustodyReachable codec policy (erasesLast codec) pool) {id : AgentId}
    (purged : id ∈ pool.world.2.purged) {identity : CustodiedIdentity}
    (member : identity ∈ pool.world.2.provisioned) (agent : identity.agentId = id) {keys : Keys}
    (secret : codec.publicKey keys = identity.publicKey) :
    ¬ pool.world.1.Contains (codec.toSecretHex keys) := by
  rintro ⟨name, inode, file, named, stored, contained⟩
  have erasing := reachable.erasing
  obtain ⟨-, -, returned, publicKey, linkedInode, linked, written⟩ :=
    erasing.truthful.provisioned identity member
  rw [agent] at linked
  -- The file is the one the key was returned from, which has lost its name.
  have content : file.content = codec.toSecretHex keys := by
    have short : file.content.length ≤ (codec.toSecretHex keys).length := by
      rw [codec.length_toSecretHex]
      rcases erasing.distinct.contents inode file stored with empty | ⟨drawn, -, part⟩
      · rw [empty]
        exact Nat.zero_le _
      · exact part.length_le.trans (codec.length_toSecretHex drawn).le
    exact (contained.eq_of_length_le short).symm
  have same : inode = linkedInode :=
    erasing.distinct.files inode linkedInode keys returned ⟨file, stored, content⟩
      ⟨_, written, rfl⟩ (secret.trans publicKey.symm)
  obtain ⟨gone, -⟩ := erasing.cleared id (.inl purged)
  rcases erasing.unlinked linkedInode id linked with present | nameless
  · exact gone (Table.mem_of_lookup present)
  · exact nameless name (same ▸ named)

end

/-! ### Schedules of callers -/

/-- One move of a scheduler of callers. -/
inductive CustodyMove (Keys : Type) where
  | call (caller : Caller) (call : CustodyCall)
  | acts (caller : Caller) (count : Nat)
  | sources (entropy : Keys) (uuid : Nat)
  | faults (fails : Bool) (written : Nat)
  | crash

section

variable (codec : KeyCodec Keys) (policy : CustodyPolicy)

/-- The pool after a move, or the same pool if the caller is in a call already. -/
def playCustody (pool : Pool Caller (CustodyAction Keys) (CustodyState Keys)) :
    CustodyMove Keys → Pool Caller (CustodyAction Keys) (CustodyState Keys)
  | .call caller call =>
      match pool.threads caller with
      | .done _ => ⟨pool.world, Function.update pool.threads caller (call.serve codec policy)⟩
      | .step _ _ => pool
  | .acts caller count => (notedCustodians codec policy).acts caller count pool
  | .sources entropy uuid =>
      ⟨({ pool.world.1 with entropy := entropy, uuid := uuid }, pool.world.2), pool.threads⟩
  | .faults fails written =>
      ⟨({ pool.world.1 with fails := fails, written := written }, pool.world.2), pool.threads⟩
  | .crash => ⟨(pool.world.1, pool.world.2.crash), fun _ => .done ()⟩

/-- Whether the actions of a schedule pass a check. -/
def custodyPasses (check : Check Caller (CustodyAction Keys) (CustodyState Keys)) :
    List (CustodyMove Keys) → Pool Caller (CustodyAction Keys) (CustodyState Keys) → Bool
  | [], _ => true
  | .acts caller count :: rest, pool =>
      (notedCustodians codec policy).actsPass check caller count pool &&
        custodyPasses check rest (playCustody codec policy pool (.acts caller count))
  | move :: rest, pool => custodyPasses check rest (playCustody codec policy pool move)

variable {codec policy} {admits : Condition Caller (CustodyAction Keys) (CustodyState Keys)}
variable {check : Check Caller (CustodyAction Keys) (CustodyState Keys)}
variable {pool : Pool Caller (CustodyAction Keys) (CustodyState Keys)}

/-- A move other than actions is a step or none. -/
theorem reaches_playCustody {move : CustodyMove Keys}
    (still : ∀ caller count, move ≠ .acts caller count) :
    (notedCustodians codec policy).Reaches admits pool (playCustody codec policy pool move) := by
  cases move with
  | call caller call =>
    simp only [playCustody]
    split
    · next finished =>
      exact (refl pool).tail (.start finished ⟨⟨rfl, call, rfl⟩, rfl⟩)
    · exact .refl pool
  | acts caller count => exact absurd rfl (still caller count)
  | sources entropy uuid =>
    exact (refl pool).tail (.environment ⟨.sources entropy uuid, rfl⟩)
  | faults fails written =>
    exact (refl pool).tail (.environment ⟨.faults fails written, rfl⟩)
  | crash => exact (refl pool).tail (.restart ⟨⟨rfl, rfl⟩, rfl⟩)

/-- A schedule whose actions pass a check is a run. -/
theorem reaches_custody (sound : ∀ caller ⦃Response : Type⦄ (action : CustodyAction Keys Response)
      state, check caller action state = true → admits caller action state)
    (moves : List (CustodyMove Keys))
    (passes : custodyPasses codec policy check moves pool = true) :
    (notedCustodians codec policy).Reaches admits pool
      (moves.foldl (playCustody codec policy) pool) := by
  induction moves generalizing pool with
  | nil => exact .refl pool
  | cons move rest inductionHypothesis =>
    cases move with
    | acts caller count =>
      simp only [custodyPasses, Bool.and_eq_true] at passes
      exact (System.reaches_acts sound passes.1).trans (inductionHypothesis passes.2)
    | _ => exact (reaches_playCustody (by simp)).trans (inductionHypothesis passes)

end

/-- What a purge needs, computed. -/
def erasesLastCheck {Keys : Type} (codec : KeyCodec Keys) :
    Check Caller (CustodyAction Keys) (CustodyState Keys) := fun _ _ action state =>
  match action with
  | .generateKeys =>
      state.2.drawn.all fun keys =>
        decide (codec.publicKey keys ≠ codec.publicKey state.1.entropy)
  | .enter (.provision id) =>
      state.2.calls.entries.all fun entry =>
        decide (entry.2 ≠ .purge id ∨ entry.1 ∉ state.2.removed)
  | .removeFile (.secret id) =>
      state.2.calls.entries.all (fun entry => decide (entry.2 ≠ .provision id)) &&
        state.1.files.entries.all fun entry =>
          decide (state.1.files.lookup (.secret id) ≠ some entry.2 ∨ entry.1 = .secret id)
  | _ => true

theorem erasesLast_of_check {Keys : Type} (codec : KeyCodec Keys) (caller : Caller)
    ⦃Response : Type⦄ (action : CustodyAction Keys Response) (state : CustodyState Keys)
    (passes : erasesLastCheck codec caller action state = true) :
    erasesLast codec caller action state := by
  cases action with
  | generateKeys =>
    simpa [erasesLastCheck, erasesLast] using passes
  | enter call =>
    cases call with
    | provision id =>
      intro other calling
      have entry := List.all_eq_true.mp passes _ (mem_lookup_iff.mp calling)
      exact (of_decide_eq_true entry).resolve_left fun differs => differs rfl
    | load id => trivial
    | purge id => trivial
  | removeFile name =>
    cases name with
    | temporary id uuid => trivial
    | secret id =>
      obtain ⟨calls, files⟩ := Bool.and_eq_true _ _ ▸ passes
      refine ⟨fun other calling => ?_, fun inode present name named => ?_⟩
      · have entry := List.all_eq_true.mp calls _ (mem_lookup_iff.mp calling)
        exact of_decide_eq_true entry rfl
      · have entry := List.all_eq_true.mp files _ (mem_lookup_iff.mp named)
        exact (of_decide_eq_true entry).resolve_left fun differs => differs present
  | _ => trivial

/-- Whether an action spares the secret of an agent. -/
def secretKeptCheck {Keys : Type} (id : AgentId) :
    Check Caller (CustodyAction Keys) (CustodyState Keys) := fun _ _ action _ =>
  match action with
  | .removeFile name => decide (name ≠ .secret id)
  | _ => true

theorem secretKept_of_check {Keys : Type} (id : AgentId) (caller : Caller) ⦃Response : Type⦄
    (action : CustodyAction Keys Response) (state : CustodyState Keys)
    (passes : secretKeptCheck id caller action state = true) :
    secretKept id caller action state := by
  cases action with
  | removeFile name => simpa [secretKeptCheck, secretKept] using passes
  | _ => trivial

/-! ### A small custody -/

namespace SmallCustody

/-- Two keys, with texts of one digit repeated. -/
def codec : KeyCodec Bool where
  toSecretHex := fun keys => List.replicate secretHexBytes (if keys then '1' else '0')
  parse := fun text =>
    if text = List.replicate secretHexBytes '1' then some true
    else if text = List.replicate secretHexBytes '0' then some false else none
  publicKey := fun keys => if keys then "one" else "zero"
  length_toSecretHex := fun _ => List.length_replicate
  hex_toSecretHex := by decide
  parse_toSecretHex := by decide

def policy : CustodyPolicy := ⟨0, 0⟩

/-- A host without a custody root. -/
def host : CustodyWorld Bool := ⟨none, ∅, ∅, 0, true, 0, false, 0⟩

def start : Pool Caller (CustodyAction Bool) (CustodyState Bool) :=
  ⟨(host, .blank), fun _ => .done ()⟩

def play (moves : List (CustodyMove Bool)) : Pool Caller (CustodyAction Bool) (CustodyState Bool) :=
  moves.foldl (playCustody codec policy) start

/-- A call that is answered before anything else happens. -/
def answered (caller : Caller) (call : CustodyCall) : List (CustodyMove Bool) :=
  [.call caller call, .acts caller 20]

/-- Two callers provision an agent at the same time, and a third is cut off with its temporary
file in place. The agent is loaded after the crash. -/
def race : List (CustodyMove Bool) :=
  [.call 0 (.provision ⟨1⟩), .acts 0 8, .sources true 1, .call 2 (.provision ⟨1⟩), .acts 2 9,
    .sources false 2] ++ answered 1 (.provision ⟨1⟩) ++ [.acts 0 20, .crash] ++
    answered 0 (.load ⟨1⟩)

/-- A provisioning that is cut off when its file is linked, one that succeeds, and a purge. -/
def cutOff : List (CustodyMove Bool) :=
  [.call 0 (.provision ⟨1⟩), .acts 0 11, .crash] ++ answered 0 (.provision ⟨1⟩) ++
    answered 0 (.purge ⟨1⟩)

/-- A provisioning, a load and a purge, one after the other. -/
def inTurn : List (CustodyMove Bool) :=
  answered 0 (.provision ⟨1⟩) ++ answered 1 (.load ⟨1⟩) ++ answered 0 (.purge ⟨1⟩)

theorem reachable_play {admits : Condition Caller (CustodyAction Bool) (CustodyState Bool)}
    {check : Check Caller (CustodyAction Bool) (CustodyState Bool)}
    (sound : ∀ caller ⦃Response : Type⦄ (action : CustodyAction Bool Response) state,
      check caller action state = true → admits caller action state)
    (moves : List (CustodyMove Bool))
    (passes : custodyPasses codec policy check moves start = true) :
    CustodyReachable codec policy admits (play moves) :=
  ⟨host, rfl, rfl, reaches_custody sound moves passes⟩

end SmallCustody

open SmallCustody

/-- The two callers that provision at the same time get the same key, which is the one that is
loaded. -/
theorem provision_agrees_race :
    ((⟨⟨1⟩, "zero"⟩ : CustodiedIdentity) ∈ (play race).world.2.provisioned ∧
      (play race).world.2.provisioned.length = 2) ∧
    (∀ other ∈ (play race).world.2.provisioned, other.agentId = ⟨1⟩ → other.publicKey = "zero") ∧
      (∀ keys, ((⟨1⟩ : AgentId), keys) ∈ (play race).world.2.loaded →
        codec.publicKey keys = "zero") ∧
      ∃ keys, (alone (CustodyWorld.perform policy) (load codec policy ⟨1⟩)
          { (play race).world.1 with fails := false }).1 = .ok keys ∧
        codec.publicKey keys = "zero" := by
  have member : (⟨⟨1⟩, "zero"⟩ : CustodiedIdentity) ∈ (play race).world.2.provisioned := by
    decide +kernel
  exact ⟨⟨member, by decide +kernel⟩, provision_agrees
    (reachable_play (secretKept_of_check ⟨1⟩) race (by decide +kernel)) member rfl⟩

/-- After a crash between the link and the removal of the temporary name, the key that the next
provisioning returns is still in a file when the purge has succeeded. -/
theorem purge_leaves_temporary : CustodyReachable codec policy
        (unrestricted Caller (CustodyAction Bool) _) (play cutOff) ∧
      (⟨1⟩ : AgentId) ∈ (play cutOff).world.2.purged ∧
      (⟨⟨1⟩, "one"⟩ : CustodiedIdentity) ∈ (play cutOff).world.2.provisioned ∧
      codec.publicKey true = "one" ∧ (play cutOff).world.1.Contains (codec.toSecretHex true) := by
  have passes : custodyPasses codec policy (fun _ _ _ _ => true) cutOff start = true := by
    decide +kernel
  exact ⟨reachable_play (fun _ _ _ _ _ => trivial) _ passes, by decide +kernel,
    by decide +kernel, rfl, .temporary ⟨1⟩ 0, 0, codec.secretFile policy true, by decide +kernel,
    by decide +kernel, List.infix_refl _⟩

/-- A key that was provisioned, loaded and purged in turn is erased. -/
theorem purge_erases_inTurn : ((⟨1⟩ : AgentId) ∈ (play inTurn).world.2.purged ∧
      (⟨⟨1⟩, "one"⟩ : CustodiedIdentity) ∈ (play inTurn).world.2.provisioned) ∧
      ¬ (play inTurn).world.1.Contains (codec.toSecretHex true) := by
  have purged : (⟨1⟩ : AgentId) ∈ (play inTurn).world.2.purged := by
    decide +kernel
  have member : (⟨⟨1⟩, "one"⟩ : CustodiedIdentity) ∈ (play inTurn).world.2.provisioned := by
    decide +kernel
  exact ⟨⟨purged, member⟩, purge_erases
    (reachable_play (erasesLast_of_check codec) inTurn (by decide +kernel)) purged member rfl rfl⟩

end BuzzServer
