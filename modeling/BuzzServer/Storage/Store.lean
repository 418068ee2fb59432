/-
This file models the methods of the store that the lifecycle runs through. Each
method holds the connection for its whole duration, so each is one atomic
function from the tables to a result and the tables it leaves.

`applyAgentCommand` is the transaction behind every agent command: it answers a
reused idempotency key, or commits the agent's new state, its retention row,
the operation, the key, a draft promotion and the audit record together.
`completePurge` and `deleteCommunityWithDeletedAgents` are the two that remove
agents for good.
-/

import BuzzServer.Storage.Database

namespace BuzzServer

open Relational Transaction

/-! ### Agent commands -/

inductive AgentCommandMutation where
  | create (agent : AgentSpec)
  | update (id : AgentId) (changes : UpdateAgentInput)
  | setState (id : AgentId) (desiredState : DesiredAgentState) (retentionDeadline : Option Int)
  deriving DecidableEq

/-- The arguments of `apply_agent_command`. -/
structure AgentCommand where
  operation : DurableOperation
  idempotency : IdempotencyRecord
  mutation : AgentCommandMutation
  promotedDraftId : Option DraftId
  audit : NewAuditRecord
  deriving DecidableEq

/-- The fields an update overwrites in the lifecycle cache. -/
def UpdateAgentInput.applyTo (changes : UpdateAgentInput) (agent : AgentSpec) : AgentSpec :=
  { agent with
    displayName := changes.displayName.getD agent.displayName
    systemPrompt := changes.systemPrompt.getD agent.systemPrompt
    runtime :=
      { agent.runtime with runtimeId := changes.runtimeId.getD agent.runtime.runtimeId } }

/-- The state an operation of each kind sets, for the kinds that set one. -/
def OperationKind.expectedState : OperationKind → Option DesiredAgentState
  | .enableAgent => some .enabled
  | .disableAgent => some .disabled
  | .deleteAgent | .purgeAgent => some .deleted
  | .createAgent | .updateAgent => none

variable (faults : WriteFaults)

/-- The retention row after a state change: a delete writes it, an enable removes it, and a
disable or a purge leaves it as it is. -/
def applyRetention (operation : DurableOperation) (id : AgentId)
    (retentionDeadline : Option Int) : StoreTransaction Unit :=
  if operation.kind = .deleteAgent then
    match retentionDeadline with
    | none => throw (.invalidData "recoverable delete requires a retention deadline")
    | some purgeAfter =>
        writeAlways (faults.at .upsertRetention) fun database =>
          { database with
            agentRetention :=
              database.agentRetention.insert id ⟨operation.createdAt, purgeAfter⟩ }
  else if operation.kind = .enableAgent then
    writeAlways (faults.at .deleteRetention) fun database =>
      { database with agentRetention := database.agentRetention.erase id }
  else
    pure ()

def applyMutation (operation : DurableOperation) : AgentCommandMutation → StoreTransaction Unit
  | .create agent => do
      ensure
        (decide (operation.kind = .createAgent) && decide (operation.agentId = some agent.id))
        (.invalidData "create mutation does not match operation")
      validateTransaction agent.validate
      insertAgentSpec faults agent
  | .update id changes => do
      ensure
        (decide (operation.kind = .updateAgent) && decide (operation.agentId = some id))
        (.invalidData "update mutation does not match operation")
      let agent ← loadAgentTransaction id
      validateTransaction (changes.applyTo agent).validate
      updateAgentTransaction faults (changes.applyTo agent)
  | .setState id desiredState retentionDeadline => do
      ensure (decide (operation.kind.expectedState = some desiredState) &&
          decide (operation.agentId = some id))
        (.invalidData "state mutation does not match operation")
      let agent ← loadAgentTransaction id
      updateAgentTransaction faults { agent with desiredState := desiredState }
      applyRetention faults operation id retentionDeadline

/-- The part of the transaction after the mutation: the operation, the key, the promotion
and the audit record. -/
def recordCommand (command : AgentCommand) : StoreTransaction Unit := do
  insertOperation faults command.operation
  insertIdempotencyKey faults { command.idempotency with operationId := command.operation.id }
  match command.promotedDraftId with
  | none => pure ()
  | some draftId => markDraftPromoted faults draftId command.operation.id
  insertAudit faults command.audit

variable {database after : Database}

namespace SqliteStore

def keyReused : StorageError := .conflict "idempotency key was reused with a different request"

/-- Atomically commits agent intent, its operation, scoped idempotency, and audit record. The
flag of the result says whether an earlier acceptance was replayed. -/
def applyAgentCommand (command : AgentCommand) (database : Database) :
    Except StorageError (DurableOperation × Bool) × Database :=
  match database.idempotencyKeys.lookup
      (command.idempotency.scope, command.idempotency.key) with
  | some row =>
      if row.requestHash ≠ command.idempotency.requestHash then (.error keyReused, database)
      else
        match database.operations.lookup row.operationId with
        | some existing => (.ok (existing, true), database)
        | none => (.error .database, database)
  | none =>
      transaction faults (do
          applyMutation faults command.operation command.mutation
          recordCommand faults command
          return (command.operation, false))
        database

/-! ### Agents -/

def putAgent (spec : AgentSpec) (database : Database) : Except StorageError Unit × Database :=
  autocommit (do
      validateTransaction spec.validate
      write (faults.at .upsertAgentSpec) constraintViolation
        (fun database => decide (spec.communityConfigId ∈ database.communityConfigs))
        fun database => { database with agentSpecs := database.agentSpecs.insert spec.id spec })
    database

/-- The agents of one community, or of all, by id. -/
def listAgents (community : Option CommunityConfigId) (database : Database) : List AgentSpec :=
  database.agentSpecs.query (fun agent => community.all fun id => agent.communityConfigId = id)
    fun first second => first.id.uuid ≤ second.id.uuid

/-- The agents whose retention deadline has passed, by deadline and id. -/
def expiredRetainedAgents (now : Int) (database : Database) : List AgentId :=
  ((database.agentRetention.entries.filter fun entry => entry.2.purgeAfter ≤ now).insertionSort
    fun first second => first.2.purgeAfter < second.2.purgeAfter ∨
      (first.2.purgeAfter = second.2.purgeAfter ∧ first.1.uuid ≤ second.1.uuid)).map
    fun entry => entry.1

/-- The ids of purged agents, by time of the purge and id. -/
def listPurgedAgentIds (database : Database) : List AgentId :=
  (database.purgedAgentTombstones.entries.insertionSort
    fun first second => first.2.purgedAt < second.2.purgedAt ∨
      (first.2.purgedAt = second.2.purgedAt ∧ first.1.uuid ≤ second.1.uuid)).map
    fun entry => entry.1

/-! ### Operations -/

/-- The order of creation time, then id. -/
def operationBefore (first second : DurableOperation) : Prop :=
  first.createdAt < second.createdAt ∨
    (first.createdAt = second.createdAt ∧ first.id.uuid ≤ second.id.uuid)

instance : DecidableRel operationBefore := fun _ _ =>
  inferInstanceAs (Decidable (_ ∨ _))

def nonterminalOperations (database : Database) : List DurableOperation :=
  database.operations.query (fun operation => !operation.status.isTerminal) operationBefore

def transitionOperation (id : OperationId) (next : OperationStatus)
    (errorCode : Option ErrorCode) (now : Int) (database : Database) :
    Except StorageError Unit × Database :=
  match database.operations.lookup id with
  | none => (.error .notFound, database)
  | some operation =>
      if operation.status.canTransitionTo next then
        transaction faults (writeAlways (faults.at .updateOperation) fun database =>
            { database with
              operations := database.operations.insert id
                { operation with status := next, errorCode := errorCode, updatedAt := now } })
          database
      else
        (.error (.conflict ("invalid operation transition from " ++
          operation.status.debugName ++ " to " ++
          next.debugName)), database)

def appendAudit (record : NewAuditRecord) (database : Database) :
    Except StorageError Unit × Database :=
  autocommit (insertAudit faults record) database

variable {faults}

theorem putAgent_eq_ok {spec : AgentSpec} : putAgent faults spec database = (.ok (), after) ↔
      spec.validate = .ok () ∧ faults .upsertAgentSpec = false ∧
        spec.communityConfigId ∈ database.communityConfigs ∧
          after = { database with agentSpecs := database.agentSpecs.insert spec.id spec } := by
  unfold putAgent autocommit
  simp [Transaction.bind_eq_ok]

theorem transitionOperation_eq_ok {id : OperationId} {next : OperationStatus}
    {errorCode : Option ErrorCode} {now : Int} {operation : DurableOperation}
    (stored : database.operations.lookup id = some operation)
    (allowed : operation.status.canTransitionTo next = true) :
    transitionOperation faults id next errorCode now database = (.ok (), after) ↔
      faults .updateOperation = false ∧ faults .commit = false ∧ after = { database with
          operations := database.operations.insert id
            { operation with status := next, errorCode := errorCode, updatedAt := now } } := by
  unfold transitionOperation transaction
  rw [stored]
  simp only [allowed, if_true, Transaction.atomically_eq_ok, Transaction.writeAlways_eq_ok,
    WriteFaults.at_eq_none]
  constructor
  · rintro ⟨⟨writes, rfl⟩, commits⟩
    exact ⟨writes, commits, rfl⟩
  · rintro ⟨writes, commits, rfl⟩
    exact ⟨⟨writes, rfl⟩, commits⟩

theorem appendAudit_eq_ok {record : NewAuditRecord} (plain : record.redactedDetail = none) :
    appendAudit faults record database = (.ok (), after) ↔ faults .insertAudit = false ∧
        after = { database with auditRecords := database.auditRecords ++ [record] } := by
  unfold appendAudit autocommit insertAudit
  simp [Transaction.bind_eq_ok, plain]

variable (faults)

/-- Atomically records successful purge completion, its audit, the tombstone, and deletion. -/
def completePurge (agentId : AgentId) (operationId : OperationId)
    (now : Int) (audit : NewAuditRecord) (database : Database) :
    Except StorageError Unit × Database :=
  match database.operations.lookup operationId with
  | none => (.error .notFound, database)
  | some operation =>
      if operation.agentId ≠ some agentId ∨ operation.kind ≠ .purgeAgent then
        (.error .notFound, database)
      else if operation.status.canTransitionTo .succeeded = false then
        (.error (.conflict ("invalid purge transition from " ++
          operation.status.debugName ++ " to Succeeded")), database)
      else
        match database.agentSpecs.lookup agentId with
        | none => (.error .notFound, database)
        | some agent =>
            if agent.desiredState ≠ .deleted then
              (.error (.conflict "purge target is not recoverably deleted"), database)
            else
              transaction faults (do
                  writeAlways (faults.at .updateOperation) fun database =>
                    { database with
                      operations := database.operations.insert operationId { operation with
                          status := .succeeded, errorCode := none, updatedAt := now } }
                  insertAudit faults audit
                  writeAlways (faults.at .insertTombstone) fun database =>
                    database.insertTombstone agentId ⟨now, operationId⟩
                  writeAlways (faults.at .deleteAgentSpec) fun database =>
                    database.deleteAgentSpec agentId)
                database

end SqliteStore

end BuzzServer
