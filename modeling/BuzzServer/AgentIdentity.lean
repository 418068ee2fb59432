/-
This file follows the identity key of an agent through the runs of the daemon.

A key is minted when an identity is provisioned and no key is there. Both the
worker and the task that joins agents to open channels provision identities, and
only the worker takes keys away: in the course of a purge, before the purge is
completed, and afterwards for agents that have a tombstone. So a key that is
missing was either never minted, or its agent has a tombstone or a purge that
was begun. As long as nobody provisions in the second case, an agent has one key
for good.
-/

import BuzzServer.OperationHistory

namespace BuzzServer

open Relational Concurrent Discipline Concurrent.Fallible Discipline.Triple AList

/-! ### Joining open channels -/

/-- What the channel means for an agent: whether it was created after the agent's boundary. -/
abbrev ChannelIsNew : Type := AgentId → Bool

/-- Whether an agent is joined to a channel, by the mode its file has. -/
def AutoJoinOpenChannels.joins (mode : AutoJoinOpenChannels) (isNew : Bool) : Bool :=
  match mode with
  | .disabled => false
  | .all => true
  | .new => isNew

/-- The membership of one agent is read and, if it is missing, published. -/
def reconcileAutoJoinMember : Task Unit := do
  attempt (fun _ => .host "membership query failed") .syncRelay
  attempt (fun _ => .host "join failed") .syncRelay

/-- One agent of the list. A file or an identity that fails is passed over; a relay that fails
ends the loop. -/
def reconcileAutoJoinAgent (isNew : ChannelIsNew) (agent : AgentSpec) : Task Unit :=
  if agent.desiredState = .deleted then pure ()
  else do
    let loaded ← capture (Task.file (.loadAgentFile agent.id))
    match loaded with
    | .error _ => pure ()
    | .ok file =>
        if file.autoJoinOpenChannels.joins (isNew agent.id) then do
          let provisioned ← capture (Task.host (.provisionIdentity agent.id))
          match provisioned with
          | .error _ => pure ()
          | .ok _ => reconcileAutoJoinMember
        else pure ()

variable (community : CommunityConfigId)

/-- The agents of a community are listed once, and then joined one after another. -/
def reconcileAutoJoinChannel (isNew : ChannelIsNew) : Task Unit := do
  let agents ← Task.store .listAgents
  forEach (reconcileAutoJoinAgent isNew)
    (agents.filter fun agent => agent.communityConfigId = community)

def autoJoin (isNew : ChannelIsNew) : Program Action Unit :=
  (reconcileAutoJoinChannel community isNew).run.bind fun _ => .done ()

/-- The programs of the daemon, and on threads of their own the tasks that join channels. -/
inductive JoiningStarts (setting : Setting) :
    Thread → World → Program Action Unit → World → Prop
  | daemon {thread : Thread} {world after : World} {program : Program Action Unit}
      (starts : Starts setting thread world program after) :
      JoiningStarts setting thread world program after
  | autoJoin (number : Nat) (community : CommunityConfigId) (isNew : ChannelIsNew)
      (world : World) :
      JoiningStarts setting (.request number) world (autoJoin community isNew) world

/-- The daemon with its auto-join task. -/
def joiningDaemon (setting : Setting) : System Thread Action World :=
  { daemon setting with starts := JoiningStarts setting }

/-! ### Purges that were begun -/

/-- The agent has a tombstone, or a purge of it is no longer pending. -/
def Database.PurgeBegun (database : Database) (id : AgentId) : Prop :=
  id ∈ database.purgedAgentTombstones ∨
    ∃ operationId row, database.operations.lookup operationId = some row ∧
      row.kind = .purgeAgent ∧ row.agentId = some id ∧ row.status ≠ .pending

variable {operation : DurableOperation} {setting : Setting} {thread : Thread} {Response : Type}
  {action : Action Response} {id : AgentId}

section

variable {before after : World} {earlier later : Database}
variable {operationId : OperationId} {row : DurableOperation}

theorem OperationStatus.ne_pending_of_canTransitionTo {current next : OperationStatus}
    (permitted : current.canTransitionTo next = true) : next ≠ .pending := by
  rintro rfl
  cases current <;> cases permitted

/-- A purge that was begun before some agents were removed: its agent is still named, or was
removed. -/
theorem Database.Removal.purgeBegun {bound : Nat} {ids : List AgentId}
    (removal : Database.Removal bound ids earlier later)
    (found : earlier.operations.lookup operationId = some row) (kind : row.kind = .purgeAgent)
    (names : row.agentId = some id) (begun : row.status ≠ .pending) : later.PurgeBegun id := by
  by_cases removed : id ∈ ids
  · exact .inl ((removal.tombstones id).mpr (.inr removed))
  · refine .inr ⟨operationId, row.forget ids, removal.kept operationId row found, kind, ?_, begun⟩
    show row.agentId.filter _ = some id
    rw [names]
    exact Option.filter_some_pos (decide_eq_true removed)

/-- The row of a purge after a status was written: it is a purge of the same agent, and begun. -/
theorem purge_of_transition {operations : Table OperationId DurableOperation}
    {current : OperationId} {next : OperationStatus}
    (errorCode : Option ErrorCode) (now : Int)
    (present : operations.lookup current = some operation)
    (permitted : operation.status.canTransitionTo next = true)
    (found : operations.lookup operationId = some row) (kind : row.kind = .purgeAgent)
    (names : row.agentId = some id) (begun : row.status ≠ .pending) :
    ∃ moved, (operations.insert current { operation with
        status := next, errorCode := errorCode, updatedAt := now }).lookup operationId =
          some moved ∧ moved.kind = .purgeAgent ∧ moved.agentId = some id ∧
            moved.status ≠ .pending := by
  rw [Table.lookup_insert_eq]
  by_cases same : operationId = current
  · subst same
    obtain rfl := Option.some.inj (found.symm.trans present)
    rw [if_pos rfl]
    exact ⟨_, rfl, kind, names, OperationStatus.ne_pending_of_canTransitionTo permitted⟩
  · rw [if_neg same]
    exact ⟨row, found, kind, names, begun⟩

/-- The step: a purge that was begun stays begun, or leaves a tombstone. -/
theorem Effect.purgeBegun (effect : Effect thread before action after)
    (begun : before.db.PurgeBegun id) : after.db.PurgeBegun id := by
  rcases begun with removed | ⟨operationId, row, found, kind, names, running⟩
  · exact .inl (effect.tombstones id removed)
  · have begun : before.db.PurgeBegun id := .inr ⟨operationId, row, found, kind, names, running⟩
    cases effect with
    | quiet same =>
      unfold Database.PurgeBegun
      rw [same.tables.operations, same.tables.tombstones]
      exact begun
    | removeCommunity checked removal =>
      have kept := removal.purgeBegun found kind names running
      exact kept
    | @acceptCommand command acceptable =>
      have other : operationId ≠ command.operation.id := by
        rintro rfl
        exact acceptable.operationFresh (Table.mem_of_lookup found)
      refine .inr ⟨operationId, row, ?_, kind, names, running⟩
      show (before.db.operations.insert _ _).lookup operationId = some row
      rw [lookup_insert_ne other]
      exact found
    | transition present permitted =>
      obtain ⟨moved, stays⟩ := purge_of_transition _ _ present permitted found kind names running
      exact .inr ⟨operationId, moved, stays⟩
    | completePurge present named purge permitted stored marked removal =>
      obtain ⟨moved, stays, movedKind, movedNames, movedBegun⟩ :=
        purge_of_transition none _ present permitted found kind names running
      exact removal.purgeBegun stays movedKind movedNames movedBegun
    | _ => exact begun

end

/-! ### Who takes keys away -/

/-- The agent whose key an action takes away. -/
def Action.removesKey {Response : Type} : Action Response → Option AgentId
  | .purgeCustody id => some id
  | _ => none

/-- Keys are taken away from agents whose purge was begun, and from no others. -/
def keyRemovals : Discipline Thread Action World where
  invariant := fun _ => True
  rely := fun _ before after => ∀ id, before.db.PurgeBegun id → after.db.PurgeBegun id
  duty := fun _ _ action world => ∀ id, action.removesKey = some id → world.db.PurgeBegun id
  idle := fun _ _ => True

/-- Every purge of the agents was begun. -/
def World.Begun (purged : AgentId → Prop) (world : World) : Prop :=
  ∀ id, purged id → world.db.PurgeBegun id

variable {admits : Condition Thread Action World}

section

variable {purged : AgentId → Prop}
variable {Error Other Result First Second : Type}

theorem stable_begun : keyRemovals.Stable thread (World.Begun purged) :=
  fun _ _ tolerated _ _ begun id member => tolerated id (begun id member)

/-- The program takes keys away from these agents only. -/
abbrev RemovesKeysOf (purged : AgentId → Prop) (program : Fallible Action Error Result) : Prop :=
  Program.Uses (fun ⦃_⦄ action => ∀ id, action.removesKey = some id → purged id) program.run

variable {program : Program Action Result}

/-- A program that takes keys away only from agents whose purge was begun. -/
theorem triple_begun (uses : Program.Uses
      (fun ⦃_⦄ action => ∀ id, action.removesKey = some id → purged id) program) :
    keyRemovals.Triple (joiningDaemon setting) admits thread (World.Begun purged) program
      fun _ => World.Begun purged := by
  refine frame stable_begun (uses.mono ?_)
  intro Response action only world _ begun _
  have kept : ∀ id, world.db.PurgeBegun id →
      (perform thread action world).2.db.PurgeBegun id := fun id before =>
    (perform_effect thread world action).purgeBegun before
  exact ⟨fun id removes => begun id (only id removes), ⟨trivial, fun _ _ => kept⟩,
    fun id member => kept id (begun id member)⟩

/-- The program takes no key away. -/
abbrev SparesKeys (program : Fallible Action Error Result) : Prop :=
  Program.Uses (fun ⦃_⦄ action => action.removesKey = none) program.run

theorem removesKeysOf_of_spares {program : Fallible Action Error Result}
    (spares : SparesKeys program) : RemovesKeysOf purged program :=
  spares.mono fun Response action none id removes => by
    rw [none] at removes
    cases removes

theorem spares_within {kinds : List ActionKind}
    (within : Within kinds program) (spared : decide (ActionKind.purgeCustody ∈ kinds) = false) :
    Program.Uses (fun ⦃_⦄ action => action.removesKey = none) program := by
  refine within.mono fun Response action listed => ?_
  cases action with
  | purgeCustody id =>
    rw [show (Action.purgeCustody id).kind = .purgeCustody from rfl, spared] at listed
    cases listed
  | _ => rfl

/-! ### The text of the auto-join -/

/-- The programs of the threads that take no key away. -/
abbrev Spares (program : Program Action Unit) : Prop :=
  Program.Uses (fun ⦃_⦄ action => action.removesKey = none) program

theorem spares_autoJoin (isNew : ChannelIsNew) : Spares (autoJoin community isNew) := by
  refine Program.Uses.bind ?_ fun _ => .done _
  refine uses_attemptBind rfl fun agents => ?_
  refine uses_forEach _ fun agent _ => ?_
  unfold reconcileAutoJoinAgent
  split
  · exact .done _
  · refine uses_bind (uses_capture (uses_attempt rfl)) fun loaded => ?_
    split
    · exact .done _
    · split
      · refine uses_bind (uses_capture (uses_attempt rfl)) fun provisioned => ?_
        split
        · exact .done _
        · exact uses_attemptBind rfl fun _ => uses_attempt rfl
      · exact .done _

/-! ### The text of the worker -/

/-- The operation is a purge of the agent. -/
def DurableOperation.Purges (operation : DurableOperation) (id : AgentId) : Prop :=
  operation.kind = .purgeAgent ∧ operation.agentId = some id

theorem removesKeysOf_removeArtifacts {agentId : AgentId} (removed : purged agentId) :
    RemovesKeysOf purged (removeArtifacts agentId) := by
  have spares : ∀ {Response : Type} {action : Action Response}, action.removesKey = none →
      ∀ id, action.removesKey = some id → purged id := by
    intro Response action none id removes
    rw [none] at removes
    cases removes
  refine uses_bind (uses_attempt (spares rfl)) fun _ => ?_
  refine uses_bind (uses_attempt fun id removes => ?_) fun _ => ?_
  · obtain rfl := Option.some.inj removes
    exact removed
  · exact uses_attempt (spares rfl)

theorem removesKeysOf_concludeStatus {agentId : AgentId}
    (names : operation.agentId = some agentId) (scope : RelayProjectionScope)
    (outcome : Except ReconcileError ReconcileOutcome) :
    RemovesKeysOf operation.Purges (concludeStatus operation.kind agentId scope outcome) := by
  have spares : ∀ {Response : Type} {action : Action Response}, action.removesKey = none →
      ∀ id, action.removesKey = some id → operation.Purges id := by
    intro Response action none id removes
    rw [none] at removes
    cases removes
  unfold concludeStatus purgeArtifacts
  split
  · next purge =>
    refine uses_bind (uses_always (spares rfl)) fun _ => ?_
    refine uses_bind (uses_attempt (spares rfl)) fun _ => ?_
    refine uses_bind (uses_always (spares rfl)) fun _ => ?_
    refine uses_bind (uses_attempt (spares rfl)) fun _ => ?_
    refine uses_bind (uses_capture
      (removesKeysOf_removeArtifacts ⟨purge.2, names⟩)) fun cleaned => ?_
    cases cleaned <;> exact .done _
  · exact .done _

/-- A reconciliation takes away at most the key of the agent it purges. -/
theorem removesKeysOf_reconcileDynamicBody (operation : DurableOperation) (finishOperation : Bool) :
    RemovesKeysOf operation.Purges (reconcileDynamicBody operation finishOperation) := by
  unfold reconcileDynamicBody
  cases names : operation.agentId with
  | none => exact .done _
  | some agentId =>
    show RemovesKeysOf operation.Purges (pure agentId >>= _)
    rw [pure_bind]
    refine uses_bind (removesKeysOf_of_spares (uses_attempt rfl)) fun row => ?_
    refine uses_bind (removesKeysOf_of_spares
      (spares_within (within_taskFound row : Within [] _) rfl)) fun cachedAgent => ?_
    refine uses_bind (removesKeysOf_of_spares (spares_within (within_writeBack _ _) rfl))
      fun resolved => ?_
    refine uses_bind (removesKeysOf_of_spares
      (spares_within (within_prepareLaunch _ _) rfl)) fun preparation => ?_
    refine uses_bind (removesKeysOf_of_spares (uses_capture
      (spares_within (within_reconcile ..) rfl))) fun outcome => ?_
    refine uses_bind (removesKeysOf_of_spares (uses_attempt rfl)) fun _ => ?_
    refine uses_bind (removesKeysOf_of_spares (uses_attempt rfl)) fun _ => ?_
    refine uses_bind (removesKeysOf_of_spares (spares_within (within_stampReceiptLifecycle _) rfl))
      fun _ => ?_
    refine uses_bind (removesKeysOf_concludeStatus names _ outcome) fun status => ?_
    split
    · exact removesKeysOf_of_spares (uses_mapError
        (spares_within (within_completeOperation ..) rfl))
    · split <;> exact .done _

theorem removesKeysOf_reconcileDynamic (operation : DurableOperation) (finishOperation : Bool) :
    RemovesKeysOf operation.Purges
      (reconcileDynamicLifecycleOperation operation finishOperation) := by
  refine uses_bind (uses_capture
    (removesKeysOf_reconcileDynamicBody operation finishOperation)) fun outcome => ?_
  refine uses_bind (removesKeysOf_of_spares (uses_always rfl)) fun _ => ?_
  cases outcome <;> exact .done _

theorem sparesKeys_reconcileStartupAgent (agentId : AgentId) :
    SparesKeys (reconcileStartupAgent agentId) := by
  refine uses_attemptBind rfl fun row => ?_
  refine uses_bind (spares_within (within_taskFound row : Within [] _) rfl) fun agent => ?_
  refine uses_alwaysBind rfl fun id => ?_
  refine uses_alwaysBind rfl fun now => ?_
  refine uses_attemptBind rfl fun _ => ?_
  refine (removesKeysOf_reconcileDynamic _ false).mono fun Response action only => ?_
  cases removes : action.removesKey with
  | none => rfl
  | some id =>
    -- The operation of a startup is never a purge.
    have purge : startupKind agent.desiredState = .purgeAgent := (only id removes).1
    cases state : agent.desiredState <;> rw [state] at purge <;> cases purge

/-! ### The daemon takes keys away from purged agents only -/

variable {id : OperationId}

/-- The program takes keys away from agents only whose purge has begun. -/
abbrev RemovesPurged (setting : Setting) (admits : Condition Thread Action World)
    (thread : Thread) (program : Program Action Result) (post : Result → World → Prop) : Prop :=
  keyRemovals.Triple (joiningDaemon setting) admits thread (fun _ => True) program post

/-- Programs that take no key away need nothing. -/
theorem removals_spares
    (spares : Program.Uses (fun ⦃_⦄ action => action.removesKey = none) program) :
    RemovesPurged setting admits thread program fun _ _ => True := by
  have uses : Program.Uses (fun ⦃_⦄ action => ∀ id, action.removesKey = some id → False)
      program := spares.mono fun Response action none id removes => by
    rw [none] at removes
    cases removes
  exact consequence (fun _ _ _ _ none => none.elim) (triple_begun uses) fun _ _ _ => trivial

theorem removals_sparesTask {program : Fallible Action Error Result} (spares : SparesKeys program) :
    RemovesPurged setting admits thread program.run
      (onOutcome (fun _ _ => True) fun _ _ => True) := by
  refine consequence (fun _ _ => id) (removals_spares spares) fun outcome _ _ => ?_
  cases outcome <;> exact trivial

/-- An operation that was read as running is a purge that was begun, if it is a purge. -/
theorem removals_lookupOperation :
    RemovesPurged setting admits thread (Task.application (lookupOperation id)).run
      (onOutcome (fun durable world => durable.status = .running → world.Begun durable.Purges)
        fun _ _ => True) := by
  have read : RemovesPurged setting admits thread (Request.store (.getOperation id)).run
      (onOutcome (fun row world => ∀ durable,
        row = some durable → durable.status = .running → world.Begun durable.Purges)
        fun _ _ => True) := by
    refine ⟨fun world _ _ current _ _ _ => ?_⟩
    refine ⟨fun _ removes => (by cases removes), ⟨trivial, fun _ _ _ holds => holds⟩, ?_⟩
    show onOutcome _ _ ((current.query fun db => db.operations.lookup id).mapError _) current
    unfold World.query
    split
    · exact trivial
    · intro durable found running agentId purges
      refine .inr ⟨id, durable, found, purges.1, purges.2, ?_⟩
      rw [running]
      decide
  have looked : RemovesPurged setting admits thread (lookupOperation id).run
      (onOutcome (fun durable world =>
        durable.status = .running → world.Begun durable.Purges) fun _ _ => True) := by
    refine fallibleBind read fun row => ?_
    cases row with
    | none => exact done fun _ _ _ => trivial
    | some durable => exact done fun _ _ begun => begun durable rfl
  refine bind looked fun outcome => ?_
  cases outcome <;> exact done fun _ _ holds => holds

theorem removals_reconcileLifecycleOperation :
    RemovesPurged setting admits thread (reconcileLifecycleOperation id).run
      (onOutcome (fun _ _ => True) fun _ _ => True) := by
  refine fallibleBind (removals_sparesTask (uses_mapError
    (spares_within (within_lookupOperation id) rfl))) fun operation => ?_
  refine fallibleBind (removals_sparesTask (uses_mapError
    (spares_within (within_claim operation id) rfl))) fun _ => ?_
  refine fallibleBind removals_lookupOperation fun durable => ?_
  split
  · next running =>
    refine consequence (fun _ _ begun => begun running)
      (triple_begun (removesKeysOf_reconcileDynamic durable true)) fun outcome _ _ => ?_
    cases outcome <;> exact trivial
  · exact done fun _ _ _ => trivial

theorem removals_reconcileOperationContained :
    RemovesPurged setting admits thread (reconcileOperationContained id)
      fun _ => keyRemovals.idle thread := by
  refine bind (removals_spares (Program.Uses.perform rfl)) fun _ => ?_
  refine bind removals_reconcileLifecycleOperation fun outcome => ?_
  cases outcome with
  | ok _ => exact done fun _ _ _ => trivial
  | error _ =>
    refine consequence (fun _ _ _ => trivial) (bind (removals_sparesTask
      (spares_within (within_failOperation id) rfl)) fun _ => ?_) fun _ _ holds => holds
    exact done fun _ _ _ => trivial

/-- The agents that are cleaned up have tombstones. -/
theorem removals_cleanupPurgedAgentArtifacts :
    RemovesPurged setting admits thread cleanupPurgedAgentArtifacts.run
      (onOutcome (fun _ _ => True) fun _ _ => True) := by
  have listed : RemovesPurged setting admits thread (Task.store .listPurgedAgentIds).run
      (onOutcome (fun purged world =>
        world.Begun (· ∈ purged)) fun _ _ => True) := by
    refine ⟨fun world _ _ current _ _ _ => ?_⟩
    refine ⟨fun _ removes => (by cases removes), ⟨trivial, fun _ _ _ => id⟩, ?_⟩
    show onOutcome _ _ ((current.query SqliteStore.listPurgedAgentIds).mapError _) current
    unfold World.query
    split
    · exact trivial
    · exact fun id member => .inl (SqliteStore.mem_of_listPurgedAgentIds member)
  refine fallibleBind listed fun purged => ?_
  have uses : RemovesKeysOf (· ∈ purged) (forEach cleanupPurgedAgent purged) := by
    refine uses_forEach purged fun agentId member => ?_
    refine uses_bind (removesKeysOf_removeArtifacts member) fun _ => ?_
    exact removesKeysOf_of_spares (uses_attempt rfl)
  refine consequence (fun _ _ => id) (triple_begun uses) fun outcome _ _ => ?_
  cases outcome <;> exact trivial

theorem spares_observeDynamicAgents : SparesKeys observeDynamicAgents := by
  refine uses_attemptBind rfl fun agents => ?_
  refine uses_forEach agents fun agent _ => ?_
  refine uses_attemptBind rfl fun receipt => ?_
  cases receipt with
  | none => exact .done _
  | some receipt =>
    refine uses_attemptBind rfl fun observed => ?_
    exact uses_attemptBind rfl fun _ => uses_attempt rfl

theorem removals_observePass : RemovesPurged setting admits thread observePass
      fun _ => keyRemovals.idle thread := by
  refine bind (removals_spares spares_observeDynamicAgents) fun _ => ?_
  refine bind removals_cleanupPurgedAgentArtifacts fun _ => ?_
  exact done fun _ _ _ => trivial

theorem removals_process (work : ReconcileWork) : RemovesPurged setting admits thread work.process
      fun _ => keyRemovals.idle thread := by
  cases work with
  | operation id => exact removals_reconcileOperationContained
  | startupAgent id =>
    refine bind (removals_spares (sparesKeys_reconcileStartupAgent id)) fun _ => ?_
    exact done fun _ _ _ => trivial

theorem keyRemovals_lawful : keyRemovals.Lawful (joiningDaemon setting) admits where
  rely_refl := fun _ _ _ => id
  rely_trans := fun _ _ _ _ first second id begun => second id (first id begun)
  idle_stable := fun _ _ _ _ _ _ _ => trivial
  start := by
    intro thread world program after starts _ _
    cases starts with
    | daemon starts =>
      cases starts with
      | request number actor request serving =>
        exact ⟨trivial, fun _ _ _ => id,
          (removals_spares (spares_within (within_serve _ actor request) rfl)).meets _ trivial
            trivial⟩
      | retentionTick serving =>
        exact ⟨trivial, fun _ _ _ => id,
          (removals_spares (spares_within (within_retentionTick _) rfl)).meets _ trivial trivial⟩
      | @receive _ work rest queued =>
        exact ⟨trivial, fun _ _ _ => id, (removals_process work).meets _ trivial trivial⟩
      | timeout idle =>
        exact ⟨trivial, fun _ _ _ => id, removals_observePass.meets _ trivial trivial⟩
    | autoJoin number community isNew =>
      exact ⟨trivial, fun _ _ _ => id,
        (removals_spares (spares_autoJoin community isNew)).meets _ trivial trivial⟩
  environment := by
    intro world after interferes _
    refine ⟨trivial, fun _ id begun => ?_⟩
    cases interferes <;> exact begun
  restart := by
    rintro world after threads ⟨-, rfl, rfl⟩ _
    refine ⟨trivial, fun thread => ?_⟩
    cases thread with
    | main => exact (removals_spares (spares_within within_startup rfl)).meets _ trivial trivial
    | worker => exact trivial
    | request number => exact trivial

end

/-! ### One key for good -/

/-- An identity is not provisioned for an agent without a key whose purge was begun. -/
def keyKept : Condition Thread Action World := fun _ _ action world =>
  match action with
  | .provisionIdentity id => id ∉ world.custody → ¬world.db.PurgeBegun id
  | _ => True

/-- The agent has this key, or its key was taken away after a purge had begun. -/
def World.KeyOf (id : AgentId) (key : Nat) (world : World) : Prop :=
  world.custody.lookup id = some key ∨ id ∉ world.custody ∧ world.db.PurgeBegun id

section

variable {world after : World} {key : Nat}

theorem World.KeyOf.congr (kept : world.KeyOf id key) (custody : after.custody = world.custody)
    (begun : world.db.PurgeBegun id → after.db.PurgeBegun id) : after.KeyOf id key := by
  unfold World.KeyOf
  rw [custody]
  exact kept.imp_right fun ⟨missing, before⟩ => ⟨missing, begun before⟩

/-- An identity that is provisioned where a key is known is the one that is known. -/
theorem provisionIdentity_known (thread : Thread) (kept : world.KeyOf id key)
    (guarded : id ∉ world.custody → ¬world.db.PurgeBegun id) {later : Nat}
    (answered : (perform thread (.provisionIdentity id) world).1 = .ok later) : later = key := by
  rcases kept with held | ⟨missing, begun⟩
  · simp only [perform, failIf, held] at answered
    split at answered
    · cases answered
    · exact (Except.ok.inj answered).symm
  · exact absurd begun (guarded missing)

/-- An identity that was provisioned is known afterwards. -/
theorem provisionIdentity_keyOf
    (answered : (perform thread (.provisionIdentity id) world).1 = .ok key) :
    (perform thread (.provisionIdentity id) world).2.KeyOf id key := by
  refine .inl ?_
  simp only [perform, failIf] at answered ⊢
  cases works : world.faults.custody with
  | true =>
    rw [works] at answered
    cases answered
  | false =>
    rw [works, if_neg Bool.false_ne_true, Except.ok.injEq] at answered
    by_cases member : id ∈ world.custody
    · obtain ⟨held, found⟩ := Option.isSome_iff_exists.mp (lookup_isSome.mpr member)
      rw [found, Option.getD_some] at answered
      rw [if_pos (by simp [member]), found, answered]
    · rw [lookup_eq_none.mpr member, Option.getD_none] at answered
      rw [if_neg (by simp [member]), answered]
      exact lookup_insert _

/-- The actions on keys. -/
def Action.concernsKeys {Response : Type} : Action Response → Bool
  | .provisionIdentity _ => true
  | .purgeCustody _ => true
  | _ => false

theorem provisionIdentity_keeps {other : AgentId} (kept : world.KeyOf id key)
    (guarded : other ∉ world.custody → ¬world.db.PurgeBegun other) :
    (perform thread (.provisionIdentity other) world).2.KeyOf id key := by
  have begun : world.db.PurgeBegun id →
      (perform thread (.provisionIdentity other) world).2.db.PurgeBegun id := fun before =>
    (perform_effect thread world (.provisionIdentity other)).purgeBegun before
  by_cases minted : world.faults.custody = true ∨ other ∈ world.custody
  · refine kept.congr ?_ begun
    exact if_pos (by simpa using minted)
  · obtain ⟨works, missing⟩ := not_or.mp minted
    have custody : (perform thread (.provisionIdentity other) world).2.custody =
        world.custody.insert other world.nextKey := by
      exact if_neg (by simp [works, missing])
    have different : id ≠ other := by
      rintro rfl
      rcases kept with held | ⟨-, before⟩
      · exact missing (Table.mem_of_lookup held)
      · exact guarded missing before
    unfold World.KeyOf
    rw [custody, lookup_insert_ne different, mem_insert]
    refine kept.imp_right fun ⟨absent, before⟩ => ⟨?_, begun before⟩
    rintro (same | member)
    · exact different same
    · exact absent member

theorem purgeCustody_keeps {other : AgentId} (kept : world.KeyOf id key)
    (removes : world.db.PurgeBegun other) :
    (perform thread (.purgeCustody other) world).2.KeyOf id key := by
  cases works : world.faults.custody with
  | true =>
    refine kept.congr ?_ fun before => before
    simp only [perform, works, if_true]
  | false =>
    have custody : (perform thread (.purgeCustody other) world).2.custody =
        world.custody.erase other := by
      simp [perform, works]
    by_cases same : id = other
    · subst same
      refine .inr ⟨?_, removes⟩
      rw [custody, mem_erase]
      exact fun member => member.1 rfl
    · unfold World.KeyOf
      rw [custody, lookup_erase_ne same, mem_erase]
      exact kept.imp_right (And.imp_left fun absent member => absent member.2)

/-- The step: the key stays, unless it is taken away. -/
theorem perform_keyOf (kept : world.KeyOf id key) (guarded : keyKept thread action world)
    (removes : ∀ purged, action.removesKey = some purged → world.db.PurgeBegun purged) :
    (perform thread action world).2.KeyOf id key := by
  cases concerns : action.concernsKeys with
  | false =>
    have aside : (perform thread action world).2.custody = world.custody := by
      cases action <;> first | cases concerns; done | simp only [perform]
    exact kept.congr aside fun before => (perform_effect thread world action).purgeBegun before
  | true =>
    cases action with
    | provisionIdentity other => exact provisionIdentity_keeps kept guarded
    | purgeCustody other => exact purgeCustody_keeps kept (removes other rfl)
    | _ => cases concerns

/-- The pools the daemon reaches, with its auto-join task, from a fresh world. -/
def JoiningReachable (setting : Setting) (admits : Condition Thread Action World)
    (pool : Pool Thread Action World) : Prop :=
  ∃ world : World, world.Fresh ∧ (joiningDaemon setting).Reaches admits (idlePool world) pool

/-- A thread provisions the agent's identity as its next action, and gets the key. -/
def Provisions (setting : Setting) (admits : Condition Thread Action World)
    (pool : Pool Thread Action World) (id : AgentId) (key : Nat)
    (next : Pool Thread Action World) : Prop :=
  ∃ thread rest, pool.threads thread = .step (.provisionIdentity id) rest ∧
    admits thread (.provisionIdentity id) pool.world ∧
    (perform thread (.provisionIdentity id) pool.world).1 = .ok key ∧
    next = (joiningDaemon setting).act thread pool

variable {pool last : Pool Thread Action World}

theorem JoiningReachable.removals (reachable : JoiningReachable setting keyKept pool) :
    keyRemovals.Holds (joiningDaemon setting) keyKept pool := by
  obtain ⟨world, fresh, reaches⟩ := reachable
  exact keyRemovals_lawful.holds reaches ⟨trivial, fun _ => trivial⟩

/-- The run: a key that is known stays known. -/
theorem keyOf_reaches (holds : keyRemovals.Holds (joiningDaemon setting) keyKept pool)
    (kept : pool.world.KeyOf id key) (reaches : (joiningDaemon setting).Reaches keyKept pool last) :
    last.world.KeyOf id key := by
  refine keyRemovals_lawful.invariant (fun _ _ _ _ holds => holds) reaches holds kept ?_ ?_ ?_ ?_
  · intro thread Response action world _ removes guarded known
    exact perform_keyOf known guarded removes
  · intro thread world program after starts _ _ known
    cases starts with
    | daemon starts => cases starts <;> exact known
    | autoJoin number community isNew => exact known
  · intro world after interferes _ known
    cases interferes <;> exact known
  · rintro world after threads ⟨-, rfl, -⟩ _ known
    exact known

/-- In every run of the daemon with its auto-join task, with failing and crashed purges, faults
and restarts, in which no identity is provisioned for an agent without a key whose purge was
begun: once an identity was provisioned with a key, every later one of the agent has the same
key. -/
theorem provision_stable {first middle last finish : Pool Thread Action World} {later : Nat}
    (reachable : JoiningReachable setting keyKept first)
    (provisioned : Provisions setting keyKept first id key middle)
    (reaches : (joiningDaemon setting).Reaches keyKept middle last)
    (again : Provisions setting keyKept last id later finish) : later = key := by
  obtain ⟨thread, rest, acting, guarded, answered, rfl⟩ := provisioned
  obtain ⟨other, -, -, alsoGuarded, alsoAnswered, -⟩ := again
  have acted : (joiningDaemon setting).act thread first =
      ⟨(perform thread (.provisionIdentity id) first.world).2, Function.update first.threads thread
        (rest (perform thread (.provisionIdentity id) first.world).1)⟩ := by
    unfold System.act
    rw [acting]
    rfl
  have step : (joiningDaemon setting).Step keyKept first
      ((joiningDaemon setting).act thread first) := by
    rw [acted]
    exact .act acting guarded
  have known : ((joiningDaemon setting).act thread first).world.KeyOf id key := by
    rw [acted]
    exact provisionIdentity_keyOf answered
  have kept := keyOf_reaches (keyRemovals_lawful.holds_step step reachable.removals) known reaches
  exact provisionIdentity_known other kept alsoGuarded alsoAnswered

/-! ### Two keys -/

/-- The agent whose identity a program provisions next. -/
def provisioning : Program Action Unit → Option AgentId
  | .step (.provisionIdentity id) _ => some id
  | _ => none

theorem provisions_of_next (next : provisioning (pool.threads thread) = some id)
    (admitted : admits thread (.provisionIdentity id) pool.world)
    (answered : (perform thread (.provisionIdentity id) pool.world).1.toOption = some key) :
    Provisions setting admits pool id key ((joiningDaemon setting).act thread pool) := by
  obtain ⟨rest, acting⟩ : ∃ rest, pool.threads thread = .step (.provisionIdentity id) rest := by
    unfold provisioning at next
    split at next <;> cases next
    next rest acting => exact ⟨rest, acting⟩
  refine ⟨thread, rest, acting, admitted, ?_, rfl⟩
  cases outcome : (perform thread (.provisionIdentity id) pool.world).1 with
  | error error =>
    rw [outcome] at answered
    cases answered
  | ok value =>
    rw [outcome] at answered
    rw [Option.some.inj answered]

theorem reaches_joining (reaches : (daemon setting).Reaches admits pool last) :
    (joiningDaemon setting).Reaches admits pool last := by
  refine Relation.ReflTransGen.mono (fun before after step => ?_) _ _ reaches
  cases step with
  | act running admitted => exact .act running admitted
  | start finished begins => exact .start finished (.daemon begins)
  | environment changes => exact .environment changes
  | restart restarts => exact .restart restarts

/-- The guard on provisioning, computed. -/
def keyKeptCheck : Check Thread Action World := fun _ _ action world =>
  match action with
  | .provisionIdentity id =>
      decide (id ∈ world.custody) || (decide (id ∉ world.db.purgedAgentTombstones) &&
        world.db.operations.rows.all fun row =>
          decide (row.kind ≠ .purgeAgent ∨ row.agentId ≠ some id ∨ row.status = .pending))
  | _ => true

theorem keyKept_of_check (thread : Thread) ⦃Response : Type⦄ (action : Action Response)
    (world : World) (passes : keyKeptCheck thread action world = true) :
    keyKept thread action world := by
  cases action with
  | provisionIdentity id =>
    intro missing begun
    simp only [keyKeptCheck, Bool.or_eq_true, decide_eq_true_eq, Bool.and_eq_true,
      List.all_eq_true] at passes
    rcases passes with member | ⟨untouched, spared⟩
    · exact missing member
    · rcases begun with removed | ⟨operationId, row, found, kind, names, status⟩
      · exact untouched removed
      · rcases spared row (Table.mem_rows.mpr ⟨operationId, found⟩) with other | other | other
        · exact other kind
        · exact other names
        · exact status other
  | _ => exact trivial

namespace Deployment

/-- An agent is created, and the worker is about to provision its identity. -/
def provisioningFirst : List Move :=
  answer (create "first") ++ [.receive, .acts .worker 17]

/-- The agent is disabled, and the worker is about to provision its identity once more. -/
def provisioningAgain : List Move :=
  [.acts .worker 80] ++ answer (changeState "second" ⟨1⟩ .disabled) ++ [.receive, .acts .worker 17]

/-- A purge takes the key away and then cannot remove the agent's file. When the purge is
tried again, the worker is about to provision the identity. -/
def provisioningPurged : List Move :=
  [.acts .worker 80] ++ answer (purge "second" ⟨1⟩) ++
    [.faults { Faults.none with fileRemove := true }] ++ work ++ [.faults .none] ++
    answer (purge "third" ⟨1⟩) ++ [.receive, .acts .worker 17]

end Deployment

end

/-- The pool in which a schedule's worker provisions an identity for the first time, and the
pool in which it does so again after more moves. -/
def Deployment.firstProvision : Pool Thread Action World :=
  playAll ⟨2592000, True⟩ Deployment.host Deployment.provisioningFirst

def Deployment.laterProvision (moves : List Move) : Pool Thread Action World :=
  moves.foldl (play ⟨2592000, True⟩)
    ((joiningDaemon ⟨2592000, True⟩).act .worker Deployment.firstProvision)

/-- After a purge that failed once it had taken the key away, the agent gets a second key. -/
theorem provision_twice : JoiningReachable ⟨2592000, True⟩ (unrestricted Thread Action World)
        Deployment.firstProvision ∧
      Provisions ⟨2592000, True⟩ (unrestricted Thread Action World) Deployment.firstProvision ⟨1⟩
        1 ((joiningDaemon ⟨2592000, True⟩).act .worker Deployment.firstProvision) ∧
      (joiningDaemon ⟨2592000, True⟩).Reaches (unrestricted Thread Action World)
        ((joiningDaemon ⟨2592000, True⟩).act .worker Deployment.firstProvision)
        (Deployment.laterProvision Deployment.provisioningPurged) ∧
      Provisions ⟨2592000, True⟩ (unrestricted Thread Action World)
        (Deployment.laterProvision Deployment.provisioningPurged) ⟨1⟩ 3
        ((joiningDaemon ⟨2592000, True⟩).act .worker
          (Deployment.laterProvision Deployment.provisioningPurged)) := by
  refine ⟨⟨Deployment.host, Deployment.host_fresh, reaches_joining
    (reaches_playAll Deployment.host Deployment.provisioningFirst fun _ => trivial)⟩,
    provisions_of_next ?_ trivial ?_, reaches_joining (reaches_moves (fun _ _ _ _ _ => trivial)
      Deployment.provisioningPurged (fun _ => trivial) (passesFrom_always ..)),
    provisions_of_next ?_ trivial ?_⟩
  all_goals decide +kernel

/-- An agent that is disabled and reconciled again keeps the key it was created with. -/
theorem provision_stable_disabled : (∃ later finish, Provisions ⟨2592000, True⟩ keyKept
      (Deployment.laterProvision Deployment.provisioningAgain) ⟨1⟩ later finish) ∧
      ∀ later finish, Provisions ⟨2592000, True⟩ keyKept
        (Deployment.laterProvision Deployment.provisioningAgain) ⟨1⟩ later finish → later = 1 := by
  have first : JoiningReachable ⟨2592000, True⟩ keyKept Deployment.firstProvision :=
    ⟨Deployment.host, Deployment.host_fresh, reaches_joining
      (reaches_moves keyKept_of_check Deployment.provisioningFirst (fun _ => trivial)
        (by decide +kernel))⟩
  have provisioned : Provisions ⟨2592000, True⟩ keyKept Deployment.firstProvision ⟨1⟩ 1
      ((joiningDaemon ⟨2592000, True⟩).act .worker Deployment.firstProvision) :=
    provisions_of_next (by decide +kernel) (keyKept_of_check _ _ _ (by decide +kernel))
      (by decide +kernel)
  have again : Provisions ⟨2592000, True⟩ keyKept
      (Deployment.laterProvision Deployment.provisioningAgain) ⟨1⟩ 1
      ((joiningDaemon ⟨2592000, True⟩).act .worker
        (Deployment.laterProvision Deployment.provisioningAgain)) :=
    provisions_of_next (by decide +kernel) (keyKept_of_check _ _ _ (by decide +kernel))
      (by decide +kernel)
  have reaches : (joiningDaemon ⟨2592000, True⟩).Reaches keyKept
      ((joiningDaemon ⟨2592000, True⟩).act .worker Deployment.firstProvision)
      (Deployment.laterProvision Deployment.provisioningAgain) :=
    reaches_joining (reaches_moves keyKept_of_check Deployment.provisioningAgain
      (fun _ => trivial) (by decide +kernel))
  exact ⟨⟨1, _, again⟩, fun _ _ => provision_stable first provisioned reaches⟩

end BuzzServer
