/-
This file is about what makes two requests the same.

A command is answered from an earlier acceptance if its scope and idempotency key
are bound and the digest of the request agrees. A create digests its input only.
Every other command digests the whole request, and with it the correlation id
that is there for tracing. A client that resubmits such a command under its key
with a new correlation id is told that it reused the key.
-/

import BuzzServer.Daemon.Provenance
import BuzzServer.Daemon.Schedule

namespace BuzzServer

open Relational Concurrent Concurrent.Fallible BuzzServer.Deployment BuzzServer.SqliteStore
  AgentRequest

/-! ### Identities -/

namespace AgentRequest

def metadata : AgentRequest → CommandMetadata
  | .create request => request.metadata
  | .update request => request.metadata
  | .changeState request => request.metadata
  | .delete request => request.metadata
  | .purge request => request.metadata
  | .promote request => request.metadata

/-- The same request with another correlation id. -/
def withCorrelation (correlationId : String) : AgentRequest → AgentRequest
  | .create request =>
      .create { request with metadata := { request.metadata with correlationId } }
  | .update request =>
      .update { request with metadata := { request.metadata with correlationId } }
  | .changeState request =>
      .changeState { request with metadata := { request.metadata with correlationId } }
  | .delete request =>
      .delete { request with metadata := { request.metadata with correlationId } }
  | .purge request =>
      .purge { request with metadata := { request.metadata with correlationId } }
  | .promote request =>
      .promote { request with metadata := { request.metadata with correlationId } }

def isCreate : AgentRequest → Bool
  | .create _ => true
  | _ => false

/-- The kind of the operation a request asks for. A state change to deleted is refused before
anything is submitted. -/
def operationKind : AgentRequest → OperationKind
  | .create _ => .createAgent
  | .update _ => .updateAgent
  | .changeState request =>
      match request.desiredState with
      | .enabled => .enableAgent
      | .disabled => .disableAgent
      | .deleted => .deleteAgent
  | .delete _ => .deleteAgent
  | .purge _ => .purgeAgent
  | .promote _ => .createAgent

/-- What is digested of a request. -/
def body : AgentRequest → RequestBody
  | .create request => .createInput request.agent
  | .update request => .updateAgent request
  | .changeState request => .changeAgentState request
  | .delete request => .agentCommand request
  | .purge request => .agentCommand request
  | .promote request => .promoteDraft request

end AgentRequest

/-- What a command is recognized by: its scope and key, and the digest of its request. -/
structure CommandIdentity where
  (scope key : String)
  hash : RequestHash
  deriving DecidableEq

def AgentCommand.identity (command : AgentCommand) : CommandIdentity :=
  ⟨command.idempotency.scope, command.idempotency.key, command.idempotency.requestHash⟩

def AgentRequest.identity (actor : AuthenticatedPrincipal) (request : AgentRequest) :
    CommandIdentity :=
  ⟨commandScope actor request.operationKind, request.metadata.idempotencyKey,
    requestHash request.body⟩

/-! ### Correlation ids -/

/-- The key of the request is bound to an operation. -/
def AgentRequest.KeyedIn (request : AgentRequest) (actor : AuthenticatedPrincipal)
    (database : Database) (row : IdempotencyRecord) (existing : DurableOperation) : Prop :=
  database.idempotencyKeys.lookup ((request.identity actor).scope, (request.identity actor).key) =
      some row ∧
    database.operations.lookup row.operationId = some existing

theorem AgentRequest.identity_withCorrelation (request : AgentRequest)
    (actor : AuthenticatedPrincipal) (correlationId : String) :
    ((request.withCorrelation correlationId).identity actor).scope =
        (request.identity actor).scope ∧
      ((request.withCorrelation correlationId).identity actor).key = (request.identity actor).key ∧
      (((request.withCorrelation correlationId).identity actor).hash =
          (request.identity actor).hash ↔
        request.isCreate = true ∨ correlationId = request.metadata.correlationId) := by
  refine ⟨by cases request <;> rfl, by cases request <;> rfl, ?_⟩
  rcases request with ⟨metadata, input⟩ | ⟨metadata, agentId, changes⟩ |
    ⟨metadata, agentId, desiredState⟩ | ⟨metadata, agentId⟩ | ⟨metadata, agentId⟩ |
    ⟨metadata, draftId⟩ <;>
  obtain ⟨key, correlation⟩ := metadata <;>
  simp [identity, withCorrelation, body, isCreate, metadata, requestHash]

/-! ### Drafts -/

/-- The store answers a draft whose key is bound with the recorded one, or refuses it. -/
theorem applyDraftCommand_bound {faults : WriteFaults} {draft : DraftResource}
    {scope key : String} {hash : RequestHash} {audit : NewAuditRecord} {database : Database}
    {row : DraftIdempotencyRow} {existing : DraftRow}
    (bound : database.draftIdempotency.lookup (scope, key) = some row)
    (recorded : database.agentDrafts.lookup row.draftId = some existing) :
    applyDraftCommand faults draft scope key hash audit database =
      (if row.requestHash = hash then .ok (existing.document, true) else .error keyReused,
        database) := by
  unfold applyDraftCommand
  simp only [bound, recorded]
  split <;> simp_all

/-- What a submission under a key that is bound is answered. It draws an id and does nothing
else. -/
theorem alone_submitDraft_bound (thread : Thread) {world : World} {actor : AuthenticatedPrincipal}
    {draft : SubmitDraftRequest} {row : DraftIdempotencyRow} {existing : DraftRow}
    (bound : world.db.draftIdempotency.lookup
      (principalScope actor, draft.metadata.idempotencyKey) = some row)
    (recorded : world.db.agentDrafts.lookup row.draftId = some existing) :
    alone (perform thread) (submitDraft actor draft) world = match draft.agent.validate with
      | .error error => (.error (.invalid error), world)
      | .ok () =>
          (if world.faults.storeUnavailable then .error .internal
            else if row.requestHash = requestHash (.submitDraft draft) then .ok existing.document
            else .error (.conflict "idempotency key was reused with a different request"),
            { world with nextUuid := world.nextUuid + 1 }) := by
  unfold submitDraft
  cases draft.agent.validate with
  | error error => rfl
  | ok _ =>
    show alone (perform thread) (Request.store (.applyDraftCommand ..) >>= fun result =>
      pure result.1) { world with nextUuid := world.nextUuid + 1 } = _
    have stored : ∀ document audit, perform thread (.applyDraftCommand document
          (principalScope actor) draft.metadata.idempotencyKey (requestHash (.submitDraft draft))
          audit) { world with nextUuid := world.nextUuid + 1 } =
        (if world.faults.storeUnavailable then .error .database
          else if row.requestHash = requestHash (.submitDraft draft) then
            .ok (existing.document, true)
          else .error keyReused, { world with nextUuid := world.nextUuid + 1 }) := by
      intro document audit
      cases available : world.faults.storeUnavailable <;>
        simp [perform, World.method, available, applyDraftCommand_bound bound recorded]
    split_ifs at stored ⊢
    · exact alone_bind_error (alone_attempt_error (stored ..))
    · exact alone_bind_ok (alone_attempt_eq_ok.mpr (stored ..))
    · exact alone_bind_error (alone_attempt_error (stored ..))

end BuzzServer
