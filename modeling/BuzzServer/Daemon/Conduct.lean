/-
This file states the terms on which the daemon's threads share their world.

The invariant is that the tables are consistent and that identifiers are never
drawn twice. Each thread relies on its local variables; the worker moreover
relies on being the only one that changes operations, receipts and processes,
and a request on the agent id it drew not being used by anyone else. The duties
say what is true when an action is performed: the worker writes back the agent
it read, it starts a process only for an agent it saw enabled, it destroys an
agent's artifacts only after it has settled the agent's process, and so on.
Every property of runs is derived from these duties.
-/

import BuzzServer.Daemon.Effects
import BuzzServer.Storage.Consistent

namespace BuzzServer

open Relational Concurrent AList Table World

/-! ### The invariant -/

variable (world : World)

/-- Some accepted command created the agent. -/
def World.Created (id : AgentId) : Prop :=
  ∃ command ∈ world.accepted, ∃ agent, command.mutation = .create agent ∧ agent.id = id

variable {command : AgentCommand} {removed : Database} {ids : List AgentId} {bound : Nat}
  {other : Thread}

theorem World.created_of_accepted {world after : World}
    (grown : after.accepted = world.accepted ++ [command]) (id : AgentId) :
    after.Created id ↔
      world.Created id ∨ ∃ agent, command.mutation = .create agent ∧ agent.id = id := by
  simp only [World.Created, grown, List.mem_append, List.mem_singleton, or_and_right, exists_or,
    exists_eq_left]

theorem World.created_congr {world after : World} (same : after.accepted = world.accepted)
    (id : AgentId) : after.Created id ↔ world.Created id := by
  simp only [World.Created, same]

/-- What every reachable world satisfies. -/
structure World.Sound (world : World) : Prop where
  consistent : world.db.Consistent
  operationDrawn : ∀ id ∈ world.db.operations, id.uuid < world.nextUuid
  ownedDrawn : ∀ uuid ∈ world.owners, uuid < world.nextUuid
  createdDrawn : ∀ id, world.Created id → id.uuid < world.nextUuid
  agentCreated : ∀ id ∈ world.db.agentSpecs, world.Created id
  tombstoneCreated : ∀ id ∈ world.db.purgedAgentTombstones, world.Created id
  cachedCreated : ∀ agent, world.cached = some agent → world.Created agent.id
  startingCreated : ∀ agent ∈ world.starting, world.Created agent.id

/-! ### The terms -/

/-- What a group of results assumes: whether every receipt that is written reaches the disk
and the daemon never crashes, and whether communities are removed. -/
structure Terms where
  (durable removals : Prop)

variable (terms : Terms) (world : World)

/-- The actions that may happen under the terms. -/
def Terms.admits : Condition Thread Action World :=
  fun _ _ action world =>
    match action with
    | .putReceipt _ => terms.durable → world.faults.receiptWrite = false
    | .deleteCommunityWithDeletedAgents _ _ => terms.removals
    | _ => True

/-- Two specs of one agent with the same community and desired state. -/
def AgentSpec.SameAgent (first second : AgentSpec) : Prop :=
  first.id = second.id ∧ first.communityConfigId = second.communityConfigId ∧
    first.desiredState = second.desiredState

/-- The audit record of the completion of an operation. -/
def NewAuditRecord.Completes (record : NewAuditRecord) (id : OperationId) (outcome : String) :
    Prop :=
  record.operationId = some id ∧ record.action = "operation.complete" ∧ record.outcome = outcome

/-- The operation has ended. -/
def World.Terminal (id : OperationId) : Prop :=
  ∃ operation, world.db.operations.lookup id = some operation ∧ operation.status.isTerminal = true

/-- A record of a completion is about an operation that has ended. -/
def NewAuditRecord.Follows (record : NewAuditRecord) (world : World) : Prop :=
  record.action = "operation.complete" → ∃ id, record.operationId = some id ∧ world.Terminal id

/-- The commands a thread may submit: pending operations under a drawn id, and new agents
that are enabled and have an id nobody else can use. -/
structure AgentCommand.Conforms (command : AgentCommand) (thread : Thread) (world : World) :
    Prop where
  pending : command.operation.status = .pending
  audit : command.audit.action ≠ "operation.complete"
  drawn : command.operation.id.uuid < world.nextUuid
  create : ∀ agent, command.mutation = .create agent → agent.desiredState = .enabled ∧
    world.owners.lookup agent.id.uuid = some thread ∧ ¬world.Created agent.id

/-- The worker has seen the agent, and unless it saw it enabled the agent has no process. -/
def World.Settled (id : AgentId) : Prop :=
  ∃ agent, world.reconciled = some agent ∧ agent.id = id ∧
    (agent.desiredState ≠ .enabled → terms.durable →
      id ∈ world.db.purgedAgentTombstones ∨ ¬world.Live id)

/-- The operation is running for the agent, unless the agent was removed meanwhile. -/
def World.RunningFor (id : OperationId) (kind : OperationKind) (agentId : Option AgentId) : Prop :=
  ∃ operation, world.db.operations.lookup id = some operation ∧ operation.kind = kind ∧
    operation.status = .running ∧
      (operation.agentId = agentId ∨ terms.removals ∧ operation.agentId = none)

/-- The worker is processing a purge of the agent and has settled its process. -/
def World.Purging (agentId : AgentId) : Prop :=
  ∃ id, world.processing = some id ∧ world.RunningFor terms id .purgeAgent (some agentId) ∧
    world.Settled terms agentId

/-- The worker may complete the operation as succeeded without a purge. -/
def World.MaySucceed (id : OperationId) : Prop :=
  ∃ kind agentId, kind ≠ .purgeAgent ∧ world.RunningFor terms id kind (some agentId) ∧
    world.Settled terms agentId

/-- The agent whose artifacts an action takes away for good. -/
def Action.Destroys {Response : Type} (action : Action Response) (id : AgentId) : Prop :=
  match action with
  | .purgeAgentPaths purged => purged = id
  | .purgeCustody purged => purged = id
  | .removeAgentFile purged => purged = id
  | .enqueueRelayPublication publication =>
      (publication.action = .tombstoneManagedAgent ∨ publication.action = .archiveIdentity) ∧
        publication.subjectId = id.toText
  | _ => False

/-- What has to hold when a thread performs an action. -/
def duty (setting : Setting) (terms : Terms) : Condition Thread Action World :=
  fun thread _ action world =>
    (∀ id, action.Destroys id → thread = .worker → world.processing ≠ none →
      ∃ agentId, agentId.toText = id.toText ∧ world.Purging terms agentId) ∧
    match action with
    | .putAgent spec =>
        (thread = .worker ∧ world.reconciled = none ∧
          ∃ agent, world.cached = some agent ∧ spec.SameAgent agent) ∨
        (thread = .main ∧ ∃ agent rest, world.starting = agent :: rest ∧ spec.SameAgent agent)
    | .listStartupAgents => thread = .main ∧ setting.restarts
    | .applyAgentCommand command => thread ≠ .worker ∧ command.Conforms thread world
    | .transitionOperation id next _ _ =>
        thread = .worker ∧ world.processing = some id ∧ world.cached = none ∧
          (next = .running ∧ world.reconciled = none ∨ next = .failed ∨
            next = .succeeded ∧ world.MaySucceed terms id)
    | .completePurge _ id _ audit =>
        thread = .worker ∧ world.processing = some id ∧ world.cached = none ∧
          audit.Completes id "succeeded"
    | .appendAudit record => record.Follows world
    | .applyDraftCommand _ _ _ _ audit => audit.action ≠ "operation.complete"
    | .putReceipt _ => thread = .worker
    | .deleteReceipt _ => thread = .worker
    | .start launch =>
        thread = .worker ∧ ∃ agent, world.reconciled = some agent ∧ agent.id = launch.agentId ∧
          agent.desiredState = .enabled
    | .removeStateRoot _ => thread = .worker
    | _ => True

/-- What the worker tolerates from others. -/
structure WorkerTolerates (terms : Terms) (before after : World) : Prop where
  cached : after.cached = before.cached
  reconciled : after.reconciled = before.reconciled
  processing : after.processing = before.processing
  receipts : after.receipts = before.receipts
  processes : ∀ pid id, after.processes.lookup pid = some id → before.processes.lookup pid = some id
  tombstones : ∀ id ∈ before.db.purgedAgentTombstones, id ∈ after.db.purgedAgentTombstones
  operations : ∀ id operation, before.db.operations.lookup id = some operation →
    ∃ current, after.db.operations.lookup id = some current ∧ current.kind = operation.kind ∧
      current.status = operation.status ∧
        (current.agentId = operation.agentId ∨ terms.removals ∧ current.agentId = none)

/-- What a thread tolerates from others. -/
structure Tolerates (terms : Terms) (thread : Thread) (before after : World) : Prop where
  nextUuid : before.nextUuid ≤ after.nextUuid
  owned : ∀ uuid, before.owners.lookup uuid = some thread → after.owners.lookup uuid = some thread ∧
      (after.Created ⟨uuid⟩ → before.Created ⟨uuid⟩)
  starting : thread = .main → after.starting = before.starting
  worker : thread = .worker → WorkerTolerates terms before after

/-- All receipts are in place: every live process of an agent that was not removed is the one
its receipt names. -/
def World.Tracked : Prop :=
  ∀ pid id, world.processes.lookup pid = some id → id ∈ world.db.purgedAgentTombstones ∨
    ∃ receipt, world.storedReceipt id = some receipt ∧ receipt.pid = pid

/-- What holds while a thread runs no program. -/
def Resting (thread : Thread) (world : World) : Prop :=
  (thread = .main → world.starting = []) ∧
    (thread = .worker → world.cached = none ∧ world.reconciled = none ∧
      (terms.durable → world.Tracked))

/-- The terms of the daemon as a discipline. -/
def conduct (setting : Setting) (terms : Terms) : Discipline Thread Action World where
  invariant := World.Sound
  rely := Tolerates terms
  duty := duty setting terms
  idle := Resting terms

/-! ### Tolerance -/

theorem WorkerTolerates.refl : WorkerTolerates terms world world where
  cached := rfl
  reconciled := rfl
  processing := rfl
  receipts := rfl
  processes := fun _ _ => id
  tombstones := fun _ => id
  operations := fun _ operation found => ⟨operation, found, rfl, rfl, .inl rfl⟩

variable {first second third : World}

theorem WorkerTolerates.trans {terms : Terms} (earlier : WorkerTolerates terms first second)
    (later : WorkerTolerates terms second third) : WorkerTolerates terms first third where
  cached := later.cached.trans earlier.cached
  reconciled := later.reconciled.trans earlier.reconciled
  processing := later.processing.trans earlier.processing
  receipts := later.receipts.trans earlier.receipts
  processes := fun pid id live => earlier.processes pid id (later.processes pid id live)
  tombstones := fun id member => later.tombstones id (earlier.tombstones id member)
  operations := by
    intro id operation found
    obtain ⟨middle, between, kind, status, agent⟩ := earlier.operations id operation found
    obtain ⟨last, final, kind', status', agent'⟩ := later.operations id middle between
    refine ⟨last, final, kind'.trans kind, status'.trans status, ?_⟩
    rcases agent' with same | gone
    · rw [same]
      exact agent
    · exact .inr gone

theorem Tolerates.refl (thread : Thread) (world : World) : Tolerates terms thread world world where
  nextUuid := Nat.le_refl _
  owned := fun _ owner => ⟨owner, fun created => created⟩
  starting := fun _ => rfl
  worker := fun _ => WorkerTolerates.refl terms world

theorem Tolerates.trans {terms : Terms} {thread : Thread}
    (earlier : Tolerates terms thread first second)
    (later : Tolerates terms thread second third) : Tolerates terms thread first third where
  nextUuid := Nat.le_trans earlier.nextUuid later.nextUuid
  owned := by
    intro uuid owner
    obtain ⟨middle, before⟩ := earlier.owned uuid owner
    obtain ⟨last, between⟩ := later.owned uuid middle
    exact ⟨last, fun created => before (between created)⟩
  starting := fun main => (later.starting main).trans (earlier.starting main)
  worker := fun worker => (earlier.worker worker).trans (later.worker worker)

/-- Everyone tolerates an action that leaves the core alone, its own thread included. -/
theorem World.SameCore.tolerates {before after : World} (same : before.SameCore after)
    (terms : Terms) (thread : Thread) : Tolerates terms thread before after where
  nextUuid := same.nextUuid
  owned := by
    intro uuid owner
    rw [same.owners]
    exact ⟨owner, (created_congr same.accepted _).mp⟩
  starting := fun _ => same.starting
  worker := fun _ =>
    { cached := same.cached
      reconciled := same.reconciled
      processing := same.processing
      receipts := same.receipts
      processes := by
        rw [same.processes]
        exact fun _ _ => id
      tombstones := by
        rw [same.tables.tombstones]
        exact fun _ => id
      operations := by
        rw [same.tables.operations]
        exact fun _ operation found => ⟨operation, found, rfl, rfl, .inl rfl⟩ }

theorem World.SameCore.sound {before after : World} (same : before.SameCore after)
    (sound : before.Sound) : after.Sound where
  consistent := sound.consistent.of_sameLifecycle same.tables
  operationDrawn := by
    rw [same.tables.operations]
    exact fun id member => Nat.lt_of_lt_of_le (sound.operationDrawn id member) same.nextUuid
  ownedDrawn := by
    rw [same.owners]
    exact fun uuid member => Nat.lt_of_lt_of_le (sound.ownedDrawn uuid member) same.nextUuid
  createdDrawn := fun id created => Nat.lt_of_lt_of_le
    (sound.createdDrawn id ((created_congr same.accepted id).mp created)) same.nextUuid
  agentCreated := by
    rw [same.tables.agentSpecs]
    exact fun id member =>
      (created_congr same.accepted id).mpr (sound.agentCreated id member)
  tombstoneCreated := by
    rw [same.tables.tombstones]
    exact fun id member =>
      (created_congr same.accepted id).mpr (sound.tombstoneCreated id member)
  cachedCreated := by
    rw [same.cached]
    exact fun agent cached =>
      (created_congr same.accepted agent.id).mpr (sound.cachedCreated agent cached)
  startingCreated := by
    rw [same.starting]
    exact fun agent member =>
      (created_congr same.accepted agent.id).mpr (sound.startingCreated agent member)

/-! ### Actions that do their duty keep the terms -/

section

variable {setting : Setting} {terms : Terms} {thread : Thread} {before after : World}
variable {Response : Type} {action : Action Response}

theorem sound_drawAgentId (sound : before.Sound) : { before with
      nextUuid := before.nextUuid + 1
      owners := before.owners.insert before.nextUuid thread : World }.Sound :=
  { sound with
    operationDrawn := fun id member => Nat.lt_succ_of_lt (sound.operationDrawn id member)
    ownedDrawn := by
      intro uuid member
      rcases (AList.mem_insert _).mp member with rfl | earlier
      · exact Nat.lt_succ_self _
      · exact Nat.lt_succ_of_lt (sound.ownedDrawn uuid earlier)
    createdDrawn := fun id created => Nat.lt_succ_of_lt (sound.createdDrawn id created) }

theorem sound_acceptCommand (sound : before.Sound) (acceptable : command.Acceptable before.db)
    (conforms : command.Conforms thread before) :
    { before with
      db := command.commit before.db
      accepted := before.accepted ++ [command] : World }.Sound := by
  have created : ∀ id, ({ before with
      db := command.commit before.db
      accepted := before.accepted ++ [command] : World }).Created id ↔
        before.Created id ∨ ∃ agent, command.mutation = .create agent ∧ agent.id = id :=
    World.created_of_accepted rfl
  constructor
  · exact sound.consistent.commit acceptable
  · intro id member
    rcases (AList.mem_insert _).mp member with rfl | earlier
    · exact conforms.drawn
    · exact sound.operationDrawn id earlier
  · exact sound.ownedDrawn
  · intro id new
    rcases (created id).mp new with earlier | ⟨agent, mutation, rfl⟩
    · exact sound.createdDrawn id earlier
    · exact sound.ownedDrawn _ (Table.mem_of_lookup (conforms.create agent mutation).2.1)
  · intro id member
    rw [created]
    obtain ⟨agent, found⟩ := Table.exists_lookup_of_mem member
    change (command.mutation.agents before.db.agentSpecs).lookup id = _ at found
    rw [command.mutation.lookup_agents sound.consistent.agentKeyed] at found
    split at found
    · next target =>
      cases mutation : command.mutation with
      | create agent =>
        rw [mutation] at target
        exact .inr ⟨agent, rfl, target.symm⟩
      | update other changes | setState other desiredState retentionDeadline =>
        rw [mutation] at found
        obtain ⟨earlier, present, -⟩ := Option.map_eq_some_iff.mp found
        exact .inl (sound.agentCreated id (Table.mem_of_lookup present))
    · exact .inl (sound.agentCreated id (Table.mem_of_lookup found))
  · exact fun id member => (created id).mpr (.inl (sound.tombstoneCreated id member))
  · exact fun agent cached => (created _).mpr (.inl (sound.cachedCreated agent cached))
  · exact fun agent member => (created _).mpr (.inl (sound.startingCreated agent member))

/-- Removing agents keeps the invariant, with the identifiers drawn for it. -/
theorem sound_removal {base : Database} (drawn : Nat) (sound : before.Sound)
    (consistent : removed.Consistent) (agents : ∀ id, removed.agentSpecs.lookup id =
      if id ∈ ids then none else before.db.agentSpecs.lookup id)
    (tombstones : ∀ id, id ∈ removed.purgedAgentTombstones ↔
      id ∈ before.db.purgedAgentTombstones ∨ id ∈ ids)
    (known : ∀ id ∈ ids, id ∈ before.db.agentSpecs)
    (sameOperations : ∀ id ∈ base.operations, id ∈ before.db.operations)
    (operations : ∀ id ∈ removed.operations, id ∈ base.operations ∨ id.uuid < bound)
    (within : bound ≤ before.nextUuid + drawn) :
    { before with db := removed, nextUuid := before.nextUuid + drawn : World }.Sound :=
  { sound with
    consistent := consistent
    operationDrawn := by
      intro id member
      rcases operations id member with earlier | below
      · exact Nat.lt_of_lt_of_le (sound.operationDrawn id (sameOperations id earlier))
          (Nat.le_add_right _ _)
      · exact Nat.lt_of_lt_of_le below within
    ownedDrawn := fun uuid member =>
      Nat.lt_of_lt_of_le (sound.ownedDrawn uuid member) (Nat.le_add_right _ _)
    createdDrawn := fun id created =>
      Nat.lt_of_lt_of_le (sound.createdDrawn id created) (Nat.le_add_right _ _)
    agentCreated := by
      intro id member
      obtain ⟨agent, found⟩ := Table.exists_lookup_of_mem member
      rw [agents] at found
      split at found
      · cases found
      · exact sound.agentCreated id (Table.mem_of_lookup found)
    tombstoneCreated := by
      intro id member
      rcases (tombstones id).mp member with earlier | new
      · exact sound.tombstoneCreated id earlier
      · exact sound.agentCreated id (known id new) }

theorem mem_of_removal {base : Database} (removal : Database.Removal bound ids base removed)
    {id : OperationId} (member : id ∈ removed.operations) :
    id ∈ base.operations ∨ id.uuid < bound := by
  obtain ⟨operation, found⟩ := Table.exists_lookup_of_mem member
  rcases removal.operation found with ⟨earlier, present, -⟩ | ⟨-, -, -, below⟩
  · exact .inl (Table.mem_of_lookup present)
  · exact .inr below

theorem checkedAgents_mem {id : CommunityConfigId} {database : Database}
    (consistent : database.Consistent) (checked : SqliteStore.checkDeletedAgents id database
      (SqliteStore.listAgents (some id) database) = .ok ids) :
    ∀ agentId ∈ ids, agentId ∈ database.agentSpecs := by
  intro agentId member
  rw [(SqliteStore.checkDeletedAgents_ok checked).1] at member
  obtain ⟨agent, listed, rfl⟩ := List.mem_map.mp member
  obtain ⟨-, key, found⟩ := Table.mem_query.mp listed
  rw [consistent.agentKeyed key agent found]
  exact Table.mem_of_lookup found

variable (sound : before.Sound)

include sound

theorem sound_putAgent {spec : AgentSpec}
    (known : spec.communityConfigId ∈ before.db.communityConfigs)
    (created : before.Created spec.id) :
    { before with
      db := { before.db with
        agentSpecs := before.db.agentSpecs.insert spec.id spec } : World }.Sound :=
  { sound with
    consistent := sound.consistent.putAgent known
    agentCreated := by
      intro id member
      rcases (AList.mem_insert _).mp member with rfl | earlier
      · exact created
      · exact sound.agentCreated id earlier }

theorem sound_release : { before with
      cached := if thread = .worker then none else before.cached
      starting := if thread = .main then before.starting.tail else before.starting :
        World }.Sound :=
  { sound with
    cachedCreated := by
      intro agent held
      split at held
      · cases held
      · exact sound.cachedCreated agent held
    startingCreated := by
      intro agent held
      change agent ∈ (if thread = .main then before.starting.tail else before.starting) at held
      split at held
      · exact sound.startingCreated agent (List.mem_of_mem_tail held)
      · exact sound.startingCreated agent held }

/-- An agent that is written back was created. -/
theorem created_of_duty {spec : AgentSpec}
    (done : duty setting terms thread (.putAgent spec) before) : before.Created spec.id := by
  rcases done.2 with ⟨-, -, agent, cached, same⟩ | ⟨-, agent, rest, starting, same⟩
  · rw [same.1]
    exact sound.cachedCreated agent cached
  · rw [same.1]
    exact sound.startingCreated agent (by rw [starting]; exact List.mem_cons_self ..)

/-- The invariant survives every action that does its duty. -/
theorem sound_effect (done : duty setting terms thread action before)
    (effect : Effect thread before action after) : after.Sound := by
  cases effect with
  | quiet same => exact same.sound sound
  | drawAgentId => exact sound_drawAgentId sound
  | @readCached id agent worker found =>
    refine { sound with cachedCreated := fun cached held => ?_ }
    cases held
    rw [sound.consistent.agentKeyed id agent found]
    exact sound.agentCreated id (Table.mem_of_lookup found)
  | readReconciled worker found | putReceipt | deleteReceipt | stop | start | removeStateRoot =>
    exact { sound with }
  | putAgent known =>
    exact sound_release (sound_putAgent sound known (created_of_duty sound done))
  | dropAgent => exact sound_release sound
  | listStartupAgents main =>
    refine { sound with startingCreated := fun agent listed => ?_ }
    obtain ⟨-, key, found⟩ := Table.mem_query.mp listed
    rw [sound.consistent.agentKeyed key agent found]
    exact sound.agentCreated key (Table.mem_of_lookup found)
  | removeCommunity checked removal =>
    exact sound_removal _ sound (sound.consistent.removeCommunity checked removal) removal.agents
      removal.tombstones (checkedAgents_mem sound.consistent checked) (fun _ => id)
      (fun _ member => mem_of_removal removal member) (Nat.le_refl _)
  | acceptCommand acceptable => exact sound_acceptCommand sound acceptable done.2.2
  | @transition id next errorCode now operation found allowed =>
    refine { sound with
      consistent := sound.consistent.updateOperation found rfl rfl
      operationDrawn := fun other member => ?_ }
    rcases (AList.mem_insert _).mp member with rfl | earlier
    · exact sound.operationDrawn _ (Table.mem_of_lookup found)
    · exact sound.operationDrawn _ earlier
  | @completePurge _ _ _ _ _ _ removed found names kind allowed present marked removal =>
    have consistent : removed.Consistent := by
      refine Database.Consistent.removal (sound.consistent.updateOperation found ?_ ?_) removal
      · rfl
      · rfl
    refine sound_removal 0 sound consistent removal.agents removal.tombstones ?_ ?_
      (fun _ member => mem_of_removal removal member) (Nat.zero_le _)
    · intro id member
      rw [List.mem_singleton.mp member]
      exact Table.mem_of_lookup present
    · intro id member
      rcases (AList.mem_insert _).mp member with rfl | earlier
      · exact Table.mem_of_lookup found
      · exact earlier
  | leaveScope =>
    refine { sound with cachedCreated := fun agent held => ?_, startingCreated := ?_ }
    · change (if thread = .worker then none else before.cached) = some agent at held
      split at held
      · cases held
      · exact sound.cachedCreated agent held
    · intro agent held
      split at held
      · cases held
      · exact sound.startingCreated agent held

omit sound

theorem tolerates_acceptCommand (differs : other ≠ thread)
    (acceptable : command.Acceptable before.db) (conforms : command.Conforms thread before) :
    Tolerates terms other before { before with
        db := command.commit before.db
        accepted := before.accepted ++ [command] } := by
  refine { Tolerates.refl terms other before with
    owned := fun uuid owner => ⟨owner, fun created => ?_⟩, worker := fun _ => ?_ }
  · rcases (World.created_of_accepted rfl _).mp created with earlier | ⟨agent, mutation, same⟩
    · exact earlier
    · have own := (conforms.create agent mutation).2.1
      rw [same] at own
      exact absurd (Option.some.inj (owner.symm.trans own)) differs
  · refine { WorkerTolerates.refl terms before with
      operations := fun id operation found => ⟨operation, ?_, rfl, rfl, .inl rfl⟩ }
    show (before.db.operations.insert command.operation.id command.operation).lookup id = _
    rw [lookup_insert_ne, found]
    rintro rfl
    exact acceptable.operationFresh (Table.mem_of_lookup found)

theorem tolerates_removeCommunity {id : CommunityConfigId} {drawn : Nat}
    {outbox : List RelayPublication} (permitted : terms.removals)
    (removal : Database.Removal bound ids before.db removed) :
    Tolerates terms other before { before with
        db := { removed with
          relayPublicationOutbox := outbox
          communityConfigs := removed.communityConfigs.erase id }
        nextUuid := before.nextUuid + drawn } := by
  refine { Tolerates.refl terms other before with
    nextUuid := Nat.le_add_right _ _, worker := fun _ => ?_ }
  refine { WorkerTolerates.refl terms before with
    tombstones := fun agentId member => (removal.tombstones agentId).mpr (.inl member)
    operations := fun operationId operation found =>
      ⟨operation.forget ids, removal.kept operationId operation found, rfl, rfl, ?_⟩ }
  cases names : (operation.forget ids).agentId with
  | none => exact .inr ⟨permitted, rfl⟩
  | some agentId => exact .inl (DurableOperation.agentId_of_forget names).1.symm

/-- Every other thread tolerates an action that does its duty. -/
theorem tolerates_effect (sound : before.Sound) (done : duty setting terms thread action before)
    (admitted : terms.admits thread action before) (effect : Effect thread before action after)
    (differs : other ≠ thread) : Tolerates terms other before after := by
  cases effect with
  | quiet same => exact same.tolerates terms other
  | drawAgentId =>
    refine { Tolerates.refl terms other before with
      nextUuid := Nat.le_succ _
      owned := fun uuid owner => ⟨?_, fun created => created⟩
      worker := fun _ => { WorkerTolerates.refl terms before with } }
    rw [lookup_insert_ne, owner]
    rintro rfl
    exact Nat.lt_irrefl _ (sound.ownedDrawn _ (Table.mem_of_lookup owner))
  | readCached worker found | readReconciled worker found =>
    exact { Tolerates.refl terms other before with
      worker := fun same => absurd (same.trans worker.symm) differs }
  | putAgent known | dropAgent =>
    exact { Tolerates.refl terms other before with
      starting := fun main => if_neg fun same => differs (main.trans same.symm)
      worker := fun worker => { WorkerTolerates.refl terms before with
        cached := if_neg fun same => differs (worker.trans same.symm) } }
  | listStartupAgents main =>
    exact { Tolerates.refl terms other before with
      starting := fun same => absurd (same.trans main.symm) differs
      worker := fun _ => { WorkerTolerates.refl terms before with } }
  | removeCommunity checked removal => exact tolerates_removeCommunity admitted removal
  | acceptCommand acceptable => exact tolerates_acceptCommand differs acceptable done.2.2
  | transition found allowed | completePurge found names kind allowed present marked removal
  | start =>
    exact { Tolerates.refl terms other before with
      worker := fun same => absurd (same.trans done.2.1.symm) differs }
  | putReceipt | deleteReceipt | removeStateRoot =>
    exact { Tolerates.refl terms other before with
      worker := fun same => absurd (same.trans (Eq.symm done.2)) differs }
  | stop =>
    refine { Tolerates.refl terms other before with worker := fun _ => ?_ }
    refine { WorkerTolerates.refl terms before with processes := fun pid id live => ?_ }
    rw [lookup_erase_eq] at live
    split at live
    · cases live
    · exact live
  | leaveScope =>
    exact { Tolerates.refl terms other before with
      starting := fun main => if_neg fun same => differs (main.trans same.symm)
      worker := fun worker => { WorkerTolerates.refl terms before with
        cached := if_neg fun same => differs (worker.trans same.symm)
        reconciled := if_neg fun same => differs (worker.trans same.symm) } }

/-- An action that does its duty keeps the terms. -/
theorem keeps_of_duty (sound : before.Sound) (done : duty setting terms thread action before)
    (admitted : terms.admits thread action before) :
    (conduct setting terms).Keeps (daemon setting) thread action before :=
  ⟨sound_effect sound done (perform_effect thread before action), fun _ differs =>
      tolerates_effect sound done admitted (perform_effect thread before action) differs⟩

end

end BuzzServer
