/-
This file models the store's methods for communities, drafts and relay
publications, and above all the transaction that removes a community together
with its deleted agents.

The removal looks at each agent of the community in turn: the agent has to be
marked deleted, and of its delete and purge operations the one that was created
last, by creation time and then id, has to have succeeded.
-/

import BuzzServer.Storage.Store

namespace BuzzServer

open Relational Transaction

namespace SqliteStore

/-! ### Communities -/

variable (faults : WriteFaults)

def putCommunity (config : CommunityConfig) (database : Database) :
    Except StorageError Unit × Database :=
  autocommit (do
      validateTransaction config.validate
      writeAlways (faults.at .upsertCommunity) fun database =>
        { database with
          communityConfigs := database.communityConfigs.insert config.id config })
    database

def listCommunities (database : Database) : List CommunityConfig :=
  database.communityConfigs.query (fun _ => true) fun first second => first.id.uuid ≤ second.id.uuid

/-- The operations whose success stands for an agent's shutdown. -/
def isDeletion : OperationKind → Bool
  | .deleteAgent | .purgeAgent => true
  | .createAgent | .updateAgent | .enableAgent | .disableAgent => false

/-- An agent's delete and purge operations, the last created first. -/
def deletions (agentId : AgentId) (database : Database) : List DurableOperation :=
  database.operations.query
    (fun operation => decide (operation.agentId = some agentId) && isDeletion operation.kind)
    fun first second => operationBefore second first

/-- The delete or purge operation of an agent that was created last. -/
def lastDeletion (agentId : AgentId) (database : Database) : Option DurableOperation :=
  (deletions agentId database).head?

def activeAgents (id : CommunityConfigId) : StorageError :=
  .conflict ("community " ++ id.toText ++ " cannot be deleted while it still has active " ++
    "agents; delete the remaining agents first")

def shutdownIncomplete (id : AgentId) : StorageError :=
  .conflict ("deleted agent " ++ id.toText ++ " has not completed shutdown; retry its delete first")

/-- The check on each agent before any is removed. -/
def checkDeletedAgents (community : CommunityConfigId) (database : Database) :
    List AgentSpec → Except StorageError (List AgentId)
  | [] => .ok []
  | agent :: rest =>
      if agent.desiredState ≠ .deleted then .error (activeAgents community)
      else if (lastDeletion agent.id database).map DurableOperation.status ≠ some .succeeded then
        .error (shutdownIncomplete agent.id)
      else (checkDeletedAgents community database rest).map (agent.id :: ·)

variable (community : CommunityConfigId)

/-- The two outbox rows that take an agent's projection down, if it has one. -/
def enqueueAgentRemoval (id : AgentId) (now : Int) : StoreTransaction Unit := fun database =>
  match database.relayProjectionState.lookup (community, .managedAgent, id.toText) with
  | none => .ok ((), database)
  | some row =>
      (do
        writeAlways (faults.at .insertPublication) fun database =>
          database.enqueuePublication ⟨.tombstoneManagedAgent, row.scope, id.toText, now⟩
        writeAlways (faults.at .insertPublication) fun database =>
          database.enqueuePublication ⟨.archiveIdentity, row.scope, id.toText, now⟩ :
        StoreTransaction Unit) database

/-- The removal of one checked agent, under the id drawn for its purge operation. -/
def removeDeletedAgent (now : Int)
    (id : AgentId) (purgeOperation : OperationId) : StoreTransaction Unit := do
  enqueueAgentRemoval faults community id now
  insertOperation faults ⟨purgeOperation, .purgeAgent, .succeeded, some id, none, now, now,
      "community-delete:" ++ community.toText⟩
  writeAlways (faults.at .insertTombstone) fun database =>
    database.insertTombstone id ⟨now, purgeOperation⟩
  writeAlways (faults.at .deleteAgentSpec) fun database => database.deleteAgentSpec id

/-- The removal of all checked agents, with consecutive ids drawn from the given one. -/
def removeDeletedAgents (faults : WriteFaults) (community : CommunityConfigId) (now : Int) :
    List AgentId → Nat → StoreTransaction Unit
  | [], _ => pure ()
  | id :: rest, fresh => do
      removeDeletedAgent faults community now id ⟨fresh⟩
      removeDeletedAgents faults community now rest (fresh + 1)

/-- The outbox rows that take the community's persona projections down. -/
def enqueuePersonaRemovals (faults : WriteFaults) (now : Int) :
    List RelayProjectionRow → StoreTransaction Unit
  | [] => pure ()
  | row :: rest => do
      writeAlways (faults.at .insertPublication) fun database =>
        database.enqueuePublication ⟨.tombstonePersona, row.scope, row.subjectId, now⟩
      enqueuePersonaRemovals faults now rest

def personaProjections (database : Database) : List RelayProjectionRow :=
  database.relayProjectionState.rows.filter fun row =>
    decide (row.scope.communityConfigId = community) && decide (row.kind = .persona)

def deleteCommunityWithDeletedAgents (faults : WriteFaults) (id : CommunityConfigId) (now : Int)
    (fresh : Nat) (database : Database) : Except StorageError (List AgentId) × Database :=
  if id ∉ database.communityConfigs then (.error .notFound, database)
  else
    match checkDeletedAgents id database (listAgents (some id) database) with
    | .error error => (.error error, database)
    | .ok deletedAgents =>
        transaction faults (do
            removeDeletedAgents faults id now deletedAgents fresh
            enqueuePersonaRemovals faults now (personaProjections id database)
            writeAlways (faults.at .deleteCommunity) fun database =>
              { database with communityConfigs := database.communityConfigs.erase id }
            return deletedAgents)
          database

/-! ### Drafts -/

def applyDraftCommand (draft : DraftResource) (scope key : String)
    (hash : RequestHash) (audit : NewAuditRecord) (database : Database) :
    Except StorageError (DraftResource × Bool) × Database :=
  match database.draftIdempotency.lookup (scope, key) with
  | some row =>
      if row.requestHash ≠ hash then (.error keyReused, database)
      else
        match database.agentDrafts.lookup row.draftId with
        | some existing => (.ok (existing.document, true), database)
        | none => (.error .database, database)
  | none =>
      transaction faults (do
          write (faults.at .insertDraft) .database
            (fun database => decide (draft.id ∉ database.agentDrafts))
            fun database =>
              { database with agentDrafts := database.agentDrafts.insert draft.id ⟨draft, none⟩ }
          writeAlways (faults.at .insertDraftIdempotency) fun database =>
            { database with
              draftIdempotency :=
                database.draftIdempotency.insert (scope, key) ⟨hash, draft.id⟩ }
          insertAudit faults audit
          return (draft, false))
        database

/-! ### Relay projections and publications -/

def recordRelayProjection (kind : RelayProjectionKind)
    (subjectId : String) (scope : RelayProjectionScope) (database : Database) :
    Except StorageError Unit × Database :=
  autocommit (writeAlways (faults.at .upsertProjection) fun database =>
      { database with
        relayProjectionState := database.relayProjectionState.insert
          (scope.communityConfigId, kind, subjectId) ⟨kind, subjectId, scope⟩ })
    database

def enqueueRelayPublication (publication : RelayPublication)
    (database : Database) : Except StorageError Unit × Database :=
  autocommit (writeAlways (faults.at .insertPublication) fun database =>
      database.enqueuePublication publication)
    database

end SqliteStore

end BuzzServer
