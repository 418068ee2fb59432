/-
This file models the database: its tables, its transactions, and the single
statements the store issues.

A transaction runs on a working copy. If it ends in an error, or the commit
itself fails, the tables are what they were before it began; otherwise the
working copy replaces them. Every writing statement may fail on its own, which
is what the fault map says; a primary or foreign key violation is reported as
the store maps it. Deleting an agent's row has the effects its foreign keys
declare: the retention row goes with it, and the operations that name the agent
lose the name.
-/

import BuzzServer.Domain.Api
import BuzzServer.Relational.Table
import BuzzServer.Relational.Transaction

namespace BuzzServer

open Relational Relational.Transaction

/-! ### Rows -/

inductive StorageError where
  | database
  | invalidData (message : String)
  | notFound
  | conflict (message : String)
  | lockPoisoned
  deriving DecidableEq

def ApplicationError.ofStorage : StorageError → ApplicationError
  | .notFound => .notFound
  | .conflict message => .conflict message
  | .invalidData _ | .database | .lockPoisoned => .internal

structure IdempotencyRecord where
  (scope key : String)
  requestHash : RequestHash
  operationId : OperationId
  createdAt : Int
  deriving DecidableEq

structure NewAuditRecord where
  occurredAt : Int
  actorPrincipal : AuditActor
  authenticationMethod : String
  communityConfigId : Option CommunityConfigId
  operationId : Option OperationId
  correlationId : String
  idempotencyKey : Option String
  (action subjectType : String)
  subjectId : Option String
  outcome : String
  redactedDetail : Option String
  deriving DecidableEq

structure AgentRetention where
  (deletedAt purgeAfter : Int)

structure DraftRow where
  document : DraftResource
  promotedOperationId : Option OperationId

structure DraftIdempotencyRow where
  requestHash : RequestHash
  draftId : DraftId

structure PurgedAgentTombstone where
  purgedAt : Int
  purgeOperationId : OperationId

inductive RelayProjectionKind where
  | managedAgent
  | persona
  deriving DecidableEq

inductive RelayPublicationAction where
  | syncManagedAgent
  | syncPersona
  | tombstoneManagedAgent
  | archiveIdentity
  | tombstonePersona
  deriving DecidableEq

structure RelayProjectionScope where
  communityConfigId : CommunityConfigId
  relayUrl : Url
  (ownerPubkey dTag : String)
  deriving DecidableEq

/-- A row of the projection table, with the subject its key names. -/
structure RelayProjectionRow where
  kind : RelayProjectionKind
  subjectId : String
  scope : RelayProjectionScope
  deriving DecidableEq

structure RelayPublication where
  action : RelayPublicationAction
  scope : RelayProjectionScope
  subjectId : String
  createdAt : Int
  deriving DecidableEq

/-- The columns the outbox keeps unique. -/
def RelayPublication.uniqueKey (publication : RelayPublication) :
    RelayPublicationAction × Url × String × String × String :=
  (publication.action, publication.scope.relayUrl, publication.scope.ownerPubkey,
    publication.subjectId, publication.scope.dTag)

structure Database where
  communityConfigs : Table CommunityConfigId CommunityConfig
  agentSpecs : Table AgentId AgentSpec
  agentRetention : Table AgentId AgentRetention
  operations : Table OperationId DurableOperation
  idempotencyKeys : Table (String × String) IdempotencyRecord
  agentDrafts : Table DraftId DraftRow
  draftIdempotency : Table (String × String) DraftIdempotencyRow
  auditRecords : List NewAuditRecord
  purgedAgentTombstones : Table AgentId PurgedAgentTombstone
  relayProjectionState : Table (CommunityConfigId × RelayProjectionKind × String) RelayProjectionRow
  relayPublicationOutbox : List RelayPublication

/-- The tables as the migrations leave them. -/
def Database.empty : Database where
  communityConfigs := ∅
  agentSpecs := ∅
  agentRetention := ∅
  operations := ∅
  idempotencyKeys := ∅
  agentDrafts := ∅
  draftIdempotency := ∅
  auditRecords := []
  purgedAgentTombstones := ∅
  relayProjectionState := ∅
  relayPublicationOutbox := []

/-! ### Transactions -/

/-- The statements that write, each of which may fail. -/
inductive WriteStatement where
  | upsertCommunity
  | deleteCommunity
  | insertAgentSpec
  | updateAgentSpec
  | upsertAgentSpec
  | deleteAgentSpec
  | upsertRetention
  | deleteRetention
  | insertOperation
  | updateOperation
  | insertIdempotencyKey
  | insertDraft
  | promoteDraft
  | insertDraftIdempotency
  | insertAudit
  | insertTombstone
  | insertPublication
  | upsertProjection
  | commit
  deriving DecidableEq

/-- Which writing statements fail. -/
abbrev WriteFaults : Type := WriteStatement → Bool

/-- A computation on the working copy of the tables. -/
abbrev StoreTransaction : Type → Type := Transaction Database StorageError

variable (faults : WriteFaults)

/-- The error of a statement that fails on its own. -/
def WriteFaults.at (statement : WriteStatement) : Option StorageError :=
  if faults statement then some .database else none

variable {statement : WriteStatement}

@[simp] theorem WriteFaults.at_eq_none {faults : WriteFaults} :
    faults.at statement = none ↔ faults statement = false := by
  unfold WriteFaults.at
  cases faults statement <;> simp

@[simp] theorem WriteFaults.at_eq_some {faults : WriteFaults} {error : StorageError} :
    faults.at statement = some error ↔ faults statement = true ∧ error = .database := by
  unfold WriteFaults.at
  cases faults statement <;> simp [eq_comm]

/-- A transaction of several statements, ended by a commit that may fail. -/
def transaction {Result : Type} (faults : WriteFaults) (body : StoreTransaction Result)
    (database : Database) : Except StorageError Result × Database :=
  atomically (faults.at .commit) body database

/-- A single statement outside a transaction: it takes effect or fails as a whole. -/
def autocommit {Result : Type} (statement : StoreTransaction Result) (database : Database) :
    Except StorageError Result × Database :=
  atomically none statement database

def constraintViolation : StorageError := .conflict "constraint violation"

/-! ### Statements -/

namespace Database

variable (database : Database)

/-- `DELETE FROM agent_specs`, with what its foreign keys declare. -/
def deleteAgentSpec (id : AgentId) : Database :=
  { database with
    agentSpecs := database.agentSpecs.erase id
    agentRetention := database.agentRetention.erase id
    operations := database.operations.mapRows fun operation =>
      if operation.agentId = some id then { operation with agentId := none } else operation }

/-- Whether a row's agent reference points at an existing agent. -/
def agentReferenceHolds (agentId : Option AgentId) : Bool :=
  match agentId with
  | none => true
  | some id => decide (id ∈ database.agentSpecs)

/-- An outbox row, dropped if the outbox already has its unique columns. -/
def enqueuePublication (publication : RelayPublication) : Database :=
  if database.relayPublicationOutbox.any (fun row => row.uniqueKey = publication.uniqueKey) then
    database
  else
    { database with
      relayPublicationOutbox := database.relayPublicationOutbox ++ [publication] }

/-- `INSERT OR IGNORE INTO purged_agent_tombstones`. -/
def insertTombstone (id : AgentId) (tombstone : PurgedAgentTombstone) : Database :=
  if id ∈ database.purgedAgentTombstones then database
  else
    { database with
      purgedAgentTombstones := database.purgedAgentTombstones.insert id tombstone }

end Database

def loadAgentTransaction (id : AgentId) : StoreTransaction AgentSpec :=
  select .notFound fun database => database.agentSpecs.lookup id

def updateAgentTransaction (agent : AgentSpec) : StoreTransaction Unit :=
  write (faults.at .updateAgentSpec) .notFound
    (fun database => decide (agent.id ∈ database.agentSpecs))
    fun database => { database with agentSpecs := database.agentSpecs.insert agent.id agent }

def insertAgentSpec (agent : AgentSpec) : StoreTransaction Unit :=
  write (faults.at .insertAgentSpec) constraintViolation
    (fun database => decide (agent.id ∉ database.agentSpecs) &&
      decide (agent.communityConfigId ∈ database.communityConfigs))
    fun database => { database with agentSpecs := database.agentSpecs.insert agent.id agent }

def insertOperation (operation : DurableOperation) : StoreTransaction Unit :=
  write (faults.at .insertOperation) constraintViolation
    (fun database => decide (operation.id ∉ database.operations) &&
      database.agentReferenceHolds operation.agentId)
    fun database =>
      { database with operations := database.operations.insert operation.id operation }

def insertIdempotencyKey (record : IdempotencyRecord) : StoreTransaction Unit :=
  write (faults.at .insertIdempotencyKey) constraintViolation
    (fun database => decide ((record.scope, record.key) ∉ database.idempotencyKeys) &&
      decide (record.operationId ∈ database.operations))
    fun database =>
      { database with
        idempotencyKeys := database.idempotencyKeys.insert (record.scope, record.key) record }

/-- Whether the draft exists and no operation has promoted it. -/
def Database.draftPromotable (database : Database) (id : DraftId) : Bool :=
  match database.agentDrafts.lookup id with
  | some row => row.promotedOperationId.isNone
  | none => false

def markDraftPromoted (id : DraftId) (operationId : OperationId) : StoreTransaction Unit :=
  write (faults.at .promoteDraft) (.conflict "draft does not exist or was already promoted")
    (fun database => database.draftPromotable id)
    fun database =>
      { database with
        agentDrafts := match database.agentDrafts.lookup id with
          | some row =>
              database.agentDrafts.insert id { row with promotedOperationId := some operationId }
          | none => database.agentDrafts }

def containsSecretMarker (detail : String) : Bool :=
  ["authorization", "private_key", "private-key", "secret=", "token=", "password="].any
    fun marker => decide (marker.toList <:+: (toAsciiLowercase detail).toList)

def insertAudit (record : NewAuditRecord) : StoreTransaction Unit := do
  ensure (!record.redactedDetail.any containsSecretMarker)
    (.invalidData "audit detail contains a credential-like marker")
  writeAlways (faults.at .insertAudit) fun database =>
    { database with auditRecords := database.auditRecords ++ [record] }

def validateTransaction (checked : Except ValidationError Unit) : StoreTransaction Unit :=
  match checked with
  | .ok () => pure ()
  | .error error => throw (.invalidData error.toText)

@[simp] theorem validateTransaction_eq_ok {checked : Except ValidationError Unit}
    {result : Unit} {database after : Database} :
    validateTransaction checked database = .ok (result, after) ↔
      checked = .ok () ∧ after = database := by
  unfold validateTransaction
  cases checked with
  | ok value => simp
  | error error => simp

end BuzzServer
