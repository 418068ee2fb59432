/-
This file models the lifecycle application: the programs that requests run.

Each entry point is a program over the atomic actions, in the order of the
source. What matters for the properties of idempotency is that order: the clock
and the operation id are read before the transaction takes its lock, an update
rewrites the agent's file before it, and a create or a promotion resolves the
persona and the prompt again on every submission.
-/

import BuzzServer.Daemon.World

namespace BuzzServer

open Relational Concurrent

/-- A program of the lifecycle application. -/
abbrev Request : Type → Type 1 := Fallible Action ApplicationError

namespace Request

variable {Result : Type}

def store (action : Action (Except StorageError Result)) : Request Result :=
  Fallible.attempt ApplicationError.ofStorage action

def file (action : Action (Except AgentFileError Result)) : Request Result :=
  Fallible.attempt agentFileApplicationError action

def always (action : Action Result) : Request Result := Fallible.always action

/-- A row that has to exist. -/
def found (row : Option Result) : Request Result :=
  match row with
  | some value => pure value
  | none => throw .notFound

def valid (checked : Except ValidationError Result) : Request Result :=
  match checked with
  | .ok value => pure value
  | .error error => throw (.invalid error)

end Request

/-- Writes the default file of an agent that has none. -/
def ensureAgentFile {Error : Type} (translate : AgentFileError → Error) (spec : AgentSpec) :
    Fallible Action Error Unit := do
  if ← Fallible.always (.agentFileExists spec.id) then
    pure ()
  else
    Fallible.attempt translate (.writeAgentFile spec.defaultFile)

/-! ### Commands -/

structure ExecutionPlan where
  kind : OperationKind
  agentId : AgentId
  communityId : CommunityConfigId
  mutation : AgentCommandMutation
  promotedDraftId : Option DraftId
  wakeImmediately : Bool

variable (actor : AuthenticatedPrincipal)

def commandScope (kind : OperationKind) : String :=
  principalScope actor ++ ":" ++ operationAction kind

/-- The arguments `execute` hands to the store, for a time and an id drawn before. -/
def ExecutionPlan.command (plan : ExecutionPlan) (actor : AuthenticatedPrincipal)
    (metadata : CommandMetadata) (body : RequestBody) (now : Int) (operationId : OperationId) :
    AgentCommand where
  operation :=
    ⟨operationId, plan.kind, .pending, some plan.agentId, none, now, now,
      metadata.correlationId⟩
  idempotency :=
    ⟨commandScope actor plan.kind, metadata.idempotencyKey, requestHash body, operationId, now⟩
  mutation := plan.mutation
  promotedDraftId := plan.promotedDraftId
  audit :=
    { occurredAt := now
      actorPrincipal := auditActor actor
      authenticationMethod := authenticationMethod actor
      communityConfigId := some plan.communityId
      operationId := some operationId
      correlationId := metadata.correlationId
      idempotencyKey := some metadata.idempotencyKey
      action := operationAction plan.kind
      subjectType := "agent"
      subjectId := some plan.agentId.toText
      outcome := "accepted"
      redactedDetail := none }

/-- Wakes the reconciler after the command was committed. -/
def operationReady (operation : DurableOperation) : Request Unit :=
  Fallible.attempt (fun _ => .internal) (.sendWork (.operation operation.id))

/-- Wakes the reconciler if asked to, unless the operation has ended. -/
def wake (immediately : Bool) (operation : DurableOperation) : Request Unit :=
  if immediately && !operation.status.isTerminal then operationReady operation else pure ()

def execute (metadata : CommandMetadata) (body : RequestBody)
    (plan : ExecutionPlan) : Request DurableOperation := do
  let now ← Request.always .now
  let operationId ← Request.always .newOperationId
  let result ← Request.store
    (.applyAgentCommand (plan.command actor metadata body now operationId))
  wake plan.wakeImmediately result.1
  return result.1

/-- Resolves the input of a create into the lifecycle cache. -/
def prepareAgentCreate (id : AgentId) (input : CreateAgentInput) : Request AgentSpec := do
  let file ← Request.file (.buildCreateFile id input)
  let resolved ← Request.file (.resolveAgentFile file input.communityConfigId .enabled)
  return resolved.spec

variable (agent : AgentSpec)

/-- Writes the file of a created agent, unless it has one. -/
def persistAgentCreate (input : CreateAgentInput) : Request Unit := do
  if ← Request.always (.agentFileExists agent.id) then
    pure ()
  else
    let file ← Request.file (.buildCreateFile agent.id input)
    Request.file (.writeAgentFile file)

/-- The agent a create committed: the one at hand, or the one of an earlier acceptance. -/
def committedAgent (committedId : AgentId) : Request AgentSpec :=
  if committedId = agent.id then pure agent
  else do
    let row ← Request.store (.getAgent .unshared committedId)
    Request.found row

/-- The rest of a create after its operation was committed or replayed. -/
def finishCreate (input : CreateAgentInput) (resource : DurableOperation) :
    Request DurableOperation :=
  match resource.agentId with
  | none => throw .internal
  | some committedId => do
      let committed ← committedAgent agent committedId
      persistAgentCreate committed input
      let current ← Request.store (.getOperation resource.id)
      match current with
      | none => return resource
      | some operation => do
          wake true operation
          return resource

def createPlan (promotedDraftId : Option DraftId) : ExecutionPlan :=
  ⟨.createAgent, agent.id, agent.communityConfigId, .create agent, promotedDraftId, false⟩

def createAgent (metadata : CommandMetadata)
    (input : CreateAgentInput) : Request DurableOperation := do
  let id ← Request.always .newAgentId
  let agent ← prepareAgentCreate id input
  Request.valid agent.validate
  let resource ← execute actor metadata (.createInput input) (createPlan agent none)
  finishCreate agent input resource

/-- Mirrors the changed fields into the human-authored file. -/
def prepareAgentUpdate (current : AgentSpec) (changes : UpdateAgentInput) : Request Unit := do
  ensureAgentFile agentFileApplicationError current
  let file ← Request.file (.loadAgentFile current.id)
  let updated ← Request.valid (changes.updateFile file)
  Request.file (.writeAgentFile updated)

variable (request : UpdateAgentRequest)

def updatePlan (community : CommunityConfigId) : ExecutionPlan :=
  ⟨.updateAgent, request.agentId, community, .update request.agentId request.changes, none, true⟩

def updateAgent : Request DurableOperation := do
  let row ← Request.store (.getAgent .unshared request.agentId)
  let current ← Request.found row
  prepareAgentUpdate current request.changes
  execute actor request.metadata (.updateAgent request)
    (updatePlan request current.communityConfigId)

def statePlan (kind : OperationKind) (id : AgentId) (community : CommunityConfigId)
    (desiredState : DesiredAgentState) (retentionDeadline : Option Int) : ExecutionPlan :=
  ⟨kind, id, community, .setState id desiredState retentionDeadline, none, true⟩

/-- The kind of operation that sets a state; a delete is a command of its own. -/
def stateChangeKind : DesiredAgentState → Request OperationKind
  | .enabled => pure .enableAgent
  | .disabled => pure .disableAgent
  | .deleted => throw (.invalid ⟨"desired_state", "deleted state requires delete"⟩)

def changeAgentState (request : ChangeAgentStateRequest) : Request DurableOperation := do
  let kind ← stateChangeKind request.desiredState
  let row ← Request.store (.getAgent .unshared request.agentId)
  let agent ← Request.found row
  execute actor request.metadata (.changeAgentState request)
    (statePlan kind request.agentId agent.communityConfigId request.desiredState none)

section

variable (retentionSeconds : Int)

/-- The retention row of an agent that is already deleted. -/
def currentRetention (id : AgentId) (desiredState : DesiredAgentState) :
    Request (Option AgentRetention) :=
  if desiredState = .deleted then Request.store (.agentRetention id) else pure none

/-- The deadline a delete records: an agent that is already deleted keeps the one it has. -/
def deletionDeadline (id : AgentId) (desiredState : DesiredAgentState) : Request (Option Int) := do
  let retention ← currentRetention id desiredState
  match retention with
  | some row => return some row.purgeAfter
  | none => do
      let now ← Request.always .now
      return some (saturatingAdd now (max retentionSeconds 0))

/-- A purge records no deadline. -/
def commandDeadline (kind : OperationKind) (id : AgentId) (desiredState : DesiredAgentState) :
    Request (Option Int) :=
  if kind = .deleteAgent then deletionDeadline retentionSeconds id desiredState else pure none

variable (actor : AuthenticatedPrincipal) (request : AgentCommandRequest)

def deletedCommand (kind : OperationKind) : Request DurableOperation := do
  let row ← Request.store (.getAgent .unshared request.agentId)
  let agent ← Request.found row
  let deadline ← commandDeadline retentionSeconds kind request.agentId agent.desiredState
  execute actor request.metadata (.agentCommand request)
    (statePlan kind request.agentId agent.communityConfigId .deleted deadline)

def deleteAgent : Request DurableOperation :=
  deletedCommand retentionSeconds actor request .deleteAgent

def purgeAgent : Request DurableOperation :=
  deletedCommand retentionSeconds actor request .purgeAgent

end

/-! ### Drafts -/

/-- The audit record of a submission. -/
def submissionAudit (request : SubmitDraftRequest) (id : DraftId) (now : Int) : NewAuditRecord where
  occurredAt := now
  actorPrincipal := auditActor actor
  authenticationMethod := authenticationMethod actor
  communityConfigId := some request.agent.communityConfigId
  operationId := none
  correlationId := request.metadata.correlationId
  idempotencyKey := some request.metadata.idempotencyKey
  action := "draft.submit"
  subjectType := "draft"
  subjectId := some id.toText
  outcome := "accepted"
  redactedDetail := none

def submitDraft (request : SubmitDraftRequest) : Request DraftResource := do
  Request.valid request.agent.validate
  let id ← Request.always .newDraftId
  let now ← Request.always .now
  let result ← Request.store
    (.applyDraftCommand ⟨id, actor.principal.ownershipKey, request.agent⟩ (principalScope actor)
      request.metadata.idempotencyKey (requestHash (.submitDraft request))
      (submissionAudit actor request id now))
  return result.1

def promoteDraft (request : PromoteDraftRequest) : Request DurableOperation := do
  let row ← Request.store (.getDraft request.draftId)
  let draft ← Request.found row
  Request.valid draft.agent.validate
  let id ← Request.always .newAgentId
  let agent ← prepareAgentCreate id draft.agent
  Request.valid agent.validate
  let resource ← execute actor request.metadata (.promoteDraft request)
    (createPlan agent (some request.draftId))
  finishCreate agent draft.agent resource

/-! ### Communities -/

def joinCommunity (request : JoinCommunityRequest) : Request CommunityConfig := do
  let id ← Request.always .newCommunityId
  let community : CommunityConfig := ⟨id, request.displayName, request.relayUrl, none⟩
  Request.valid community.validate
  let community ← Request.valid (community.withIdentityPubkey request.identityPubkey)
  Fallible.attempt (fun error => error) (.verifyCommunityJoin community)
  Request.store (.putCommunity community)
  return community

def updateCommunity (request : UpdateCommunityRequest) : Request CommunityConfig := do
  let row ← Request.store (.getCommunity request.communityId)
  let community ← Request.found row
  let renamed := { community with displayName := request.displayName }
  Request.valid renamed.validate
  Request.store (.putCommunity renamed)
  return renamed

def removeCommunity (id : CommunityConfigId) : Request CommunityConfig := do
  let row ← Request.store (.getCommunity id)
  let community ← Request.found row
  let now ← Request.always .now
  let purgedAgents ← Request.store (.deleteCommunityWithDeletedAgents id now)
  Fallible.forEach (fun agentId => Request.file (.removeAgentFile agentId)) purgedAgents
  if community.identityPubkey.isSome then do
    let _ ← Request.store .listCommunities
    return community
  else
    return community

/-! ### Operations -/

/-- The community an audit record names, if the agent can be read. -/
def auditCommunity (agentId : Option AgentId) : Request (Option CommunityConfigId) :=
  match agentId with
  | none => pure none
  | some id => do
      let row ← Fallible.always (.getAgent .unshared id)
      match row with
      | .ok (some agent) => return some agent.communityConfigId
      | .ok none => return none
      | .error _ => return none

def auditReconciliation (operation : DurableOperation) (action outcome : String) :
    Request Unit := do
  let community ← auditCommunity operation.agentId
  let now ← Request.always .now
  Request.store (.appendAudit
    { occurredAt := now
      actorPrincipal := .reconciler
      authenticationMethod := "internal"
      communityConfigId := community
      operationId := some operation.id
      correlationId := operation.correlationId
      idempotencyKey := none
      action := action
      subjectType := "agent"
      subjectId := operation.agentId.map AgentId.toText
      outcome := outcome
      redactedDetail := none })

variable (id : OperationId)

def lookupOperation : Request DurableOperation := do
  let row ← Request.store (.getOperation id)
  Request.found row

/-- Records the reconciler claiming an operation before it performs side effects. -/
def startOperation : Request Unit := do
  let operation ← lookupOperation id
  let now ← Request.always .now
  Request.store (.transitionOperation id .running none now)
  auditReconciliation operation "operation.running" "accepted"

/-- The completion of a purge: one transaction for the status, the audit record, the
tombstone and the removal. -/
def completePurgeOperation (operation : DurableOperation) : Request Unit := do
  match operation.agentId with
  | none => throw (.conflict "purge operation has no agent")
  | some agentId =>
      let row ← Request.store (.getAgent .unshared agentId)
      let agent ← Request.found row
      let now ← Request.always .now
      let occurredAt ← Request.always .now
      Request.store (.completePurge agentId id now
        { occurredAt := occurredAt
          actorPrincipal := .reconciler
          authenticationMethod := "internal"
          communityConfigId := some agent.communityConfigId
          operationId := some id
          correlationId := operation.correlationId
          idempotencyKey := none
          action := "operation.complete"
          subjectType := "agent"
          subjectId := some agentId.toText
          outcome := "succeeded"
          redactedDetail := none })

/-- Persists a terminal reconciliation result. -/
def completeOperation (status : OperationStatus) (errorCode : Option ErrorCode) : Request Unit := do
  Request.valid (require status.isTerminal "status" "completion status must be terminal")
  let operation ← lookupOperation id
  if status = .succeeded ∧ operation.kind = .purgeAgent then
    completePurgeOperation id operation
  else do
    let now ← Request.always .now
    Request.store (.transitionOperation id status errorCode now)
    auditReconciliation operation "operation.complete"
      (if status = .succeeded then "succeeded" else "failed")

/-! ### Requests -/

/-- The commands on agents. -/
inductive AgentRequest where
  | create (request : CreateAgentRequest)
  | update (request : UpdateAgentRequest)
  | changeState (request : ChangeAgentStateRequest)
  | delete (request : AgentCommandRequest)
  | purge (request : AgentCommandRequest)
  | promote (request : PromoteDraftRequest)

/-- The requests that change something. -/
inductive ApiRequest where
  | agent (request : AgentRequest)
  | submitDraft (request : SubmitDraftRequest)
  | joinCommunity (request : JoinCommunityRequest)
  | updateCommunity (request : UpdateCommunityRequest)
  | removeCommunity (id : CommunityConfigId)

def AgentRequest.submit (retentionSeconds : Int) (actor : AuthenticatedPrincipal) :
    AgentRequest → Request DurableOperation
  | .create request => createAgent actor request.metadata request.agent
  | .update request => updateAgent actor request
  | .changeState request => changeAgentState actor request
  | .delete request => deleteAgent retentionSeconds actor request
  | .purge request => purgeAgent retentionSeconds actor request
  | .promote request => promoteDraft actor request

/-- The program of a request, its answer sent back to the client. -/
def ApiRequest.serve (retentionSeconds : Int) (actor : AuthenticatedPrincipal) :
    ApiRequest → Program Action Unit
  | .agent request => (request.submit retentionSeconds actor).run.bind fun _ => .done ()
  | .submitDraft request => (BuzzServer.submitDraft actor request).run.bind fun _ => .done ()
  | .joinCommunity request => (BuzzServer.joinCommunity request).run.bind fun _ => .done ()
  | .updateCommunity request =>
      (BuzzServer.updateCommunity request).run.bind fun _ => .done ()
  | .removeCommunity id => (BuzzServer.removeCommunity id).run.bind fun _ => .done ()

end BuzzServer
