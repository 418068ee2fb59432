/-
This file takes stock of the daemon's programs: which kinds of action each of
them can ever perform.

The inventory is made once, program by program. Every statement of the form
"nobody but such a request does such a thing" is then a question about a short
list of kinds, and needs no program text.
-/

import BuzzServer.Daemon.System

namespace BuzzServer

open Relational Concurrent Concurrent.Fallible

/-- The kinds of action, without their arguments. -/
inductive ActionKind where
  | now
  | newAgentId
  | newOperationId
  | newDraftId
  | newCommunityId
  | getAgent
  | getCachedAgent
  | getReconciledAgent
  | putAgent
  | listAgents
  | listStartupAgents
  | agentRetention
  | expiredRetainedAgents
  | listPurgedAgentIds
  | getCommunity
  | putCommunity
  | listCommunities
  | deleteCommunityWithDeletedAgents
  | applyAgentCommand
  | getOperation
  | nonterminalOperations
  | transitionOperation
  | appendAudit
  | completePurge
  | getDraft
  | applyDraftCommand
  | recordRelayProjection
  | enqueueRelayPublication
  | enqueueRelayRemoval
  | appendReconciliationJournal
  | agentFileExists
  | loadAgentFile
  | loadPersona
  | resolveAgentFile
  | buildCreateFile
  | writeAgentFile
  | removeAgentFile
  | verifyCommunityJoin
  | sendWork
  | createAgentDirectories
  | ensureAgentUser
  | provisionIdentity
  | communityOwnerKeys
  | syncRelay
  | resolveLaunch
  | getReceipt
  | putReceipt
  | deleteReceipt
  | inspect
  | stop
  | start
  | purgeAgentPaths
  | purgeCustody
  | removeStateRoot
  | leaveScope
  | serve
  deriving DecidableEq

def Action.kind {Response : Type} : Action Response → ActionKind
  | .now => .now
  | .newAgentId => .newAgentId
  | .newOperationId => .newOperationId
  | .newDraftId => .newDraftId
  | .newCommunityId => .newCommunityId
  | .getAgent .unshared _ => .getAgent
  | .getAgent .cached _ => .getCachedAgent
  | .getAgent .reconciled _ => .getReconciledAgent
  | .putAgent _ => .putAgent
  | .listAgents => .listAgents
  | .listStartupAgents => .listStartupAgents
  | .agentRetention _ => .agentRetention
  | .expiredRetainedAgents _ => .expiredRetainedAgents
  | .listPurgedAgentIds => .listPurgedAgentIds
  | .getCommunity _ => .getCommunity
  | .putCommunity _ => .putCommunity
  | .listCommunities => .listCommunities
  | .deleteCommunityWithDeletedAgents _ _ => .deleteCommunityWithDeletedAgents
  | .applyAgentCommand _ => .applyAgentCommand
  | .getOperation _ => .getOperation
  | .nonterminalOperations => .nonterminalOperations
  | .transitionOperation _ _ _ _ => .transitionOperation
  | .appendAudit _ => .appendAudit
  | .completePurge _ _ _ _ => .completePurge
  | .getDraft _ => .getDraft
  | .applyDraftCommand _ _ _ _ _ => .applyDraftCommand
  | .recordRelayProjection _ _ _ => .recordRelayProjection
  | .enqueueRelayPublication publication =>
      if publication.action = .tombstoneManagedAgent ∨ publication.action = .archiveIdentity then
        .enqueueRelayRemoval
      else .enqueueRelayPublication
  | .appendReconciliationJournal => .appendReconciliationJournal
  | .agentFileExists _ => .agentFileExists
  | .loadAgentFile _ => .loadAgentFile
  | .loadPersona _ => .loadPersona
  | .resolveAgentFile _ _ _ => .resolveAgentFile
  | .buildCreateFile _ _ => .buildCreateFile
  | .writeAgentFile _ => .writeAgentFile
  | .removeAgentFile _ => .removeAgentFile
  | .verifyCommunityJoin _ => .verifyCommunityJoin
  | .sendWork _ => .sendWork
  | .createAgentDirectories _ => .createAgentDirectories
  | .ensureAgentUser _ => .ensureAgentUser
  | .provisionIdentity _ => .provisionIdentity
  | .communityOwnerKeys _ => .communityOwnerKeys
  | .syncRelay => .syncRelay
  | .resolveLaunch _ => .resolveLaunch
  | .getReceipt _ => .getReceipt
  | .putReceipt _ => .putReceipt
  | .deleteReceipt _ => .deleteReceipt
  | .inspect _ => .inspect
  | .stop _ => .stop
  | .start _ => .start
  | .purgeAgentPaths _ => .purgeAgentPaths
  | .purgeCustody _ => .purgeCustody
  | .removeStateRoot _ => .removeStateRoot
  | .leaveScope => .leaveScope
  | .serve => .serve

/-- Every action the program can perform is of one of these kinds. -/
abbrev Within (kinds : List ActionKind) {Result : Type} (program : Program Action Result) : Prop :=
  Program.Uses (fun ⦃_⦄ action => decide (action.kind ∈ kinds) = true) program

/-! ### The lists -/

/-- What a command on an agent can do before and after it is submitted. -/
def preparationKinds : List ActionKind :=
  [.now, .getAgent, .agentRetention, .getOperation, .getDraft, .agentFileExists, .loadAgentFile,
    .resolveAgentFile, .buildCreateFile, .writeAgentFile, .sendWork]

/-- What a command on an agent can do. -/
def commandKinds : List ActionKind :=
  .newAgentId :: .newOperationId :: .applyAgentCommand :: preparationKinds

def draftKinds : List ActionKind := [.newDraftId, .now, .applyDraftCommand]

def joinKinds : List ActionKind := [.newCommunityId, .verifyCommunityJoin, .putCommunity]

def renameKinds : List ActionKind := [.getCommunity, .putCommunity]

def removalKinds : List ActionKind :=
  [.getCommunity, .now, .deleteCommunityWithDeletedAgents, .removeAgentFile, .listCommunities]

/-- What a request can do. -/
def requestKinds : List ActionKind :=
  commandKinds ++ draftKinds ++ joinKinds ++ renameKinds ++ removalKinds

/-- What it takes to tie a spec to its file and to write it back. -/
def writeBackKinds : List ActionKind :=
  [.agentFileExists, .writeAgentFile, .loadAgentFile, .resolveAgentFile, .putAgent]

def startupKinds : List ActionKind :=
  [.nonterminalOperations, .sendWork, .listStartupAgents, .serve, .leaveScope] ++ writeBackKinds

def retentionKinds : List ActionKind :=
  .expiredRetainedAgents :: .leaveScope :: commandKinds

/-- What it takes to look an operation up and to write its audit record. -/
def auditingKinds : List ActionKind := [.now, .getAgent, .getOperation, .appendAudit]

/-- What it takes to move an operation. -/
def operationKinds : List ActionKind := .transitionOperation :: .completePurge :: auditingKinds

/-- What it takes to prepare a launch. -/
def launchKinds : List ActionKind :=
  [.now, .getCommunity, .recordRelayProjection, .enqueueRelayPublication, .loadPersona,
    .createAgentDirectories, .ensureAgentUser, .provisionIdentity, .communityOwnerKeys,
    .syncRelay, .resolveLaunch]

/-- What the worker notes about a process. -/
def receiptKinds : List ActionKind := [.getReceipt, .putReceipt, .appendReconciliationJournal]

/-- What the reconciler can do. -/
def reconcilerKinds : List ActionKind :=
  [.getReconciledAgent, .deleteReceipt, .inspect, .stop, .start] ++ receiptKinds

/-- What a purge removes. -/
def artifactKinds : List ActionKind :=
  [.now, .enqueueRelayRemoval, .removeAgentFile, .purgeAgentPaths, .purgeCustody]

/-- What a pass over the agents and the tombstones can do. -/
def observationKinds : List ActionKind :=
  [.listAgents, .listPurgedAgentIds, .inspect, .removeStateRoot] ++ receiptKinds ++ artifactKinds

/-- What the worker can do. -/
def workerKinds : List ActionKind :=
  [.newOperationId, .getCachedAgent, .leaveScope] ++ writeBackKinds ++ operationKinds ++
    launchKinds ++ reconcilerKinds ++ artifactKinds

/-! ### Rules -/

section

variable {kinds : List ActionKind} {Error Other Result First Second Item : Type}
  {program : Program Action Result}

theorem within_mono {more : List ActionKind} (included : kinds ⊆ more)
    (within : Within kinds program) : Within more program :=
  within.mono fun _ _ listed => decide_eq_true (included (of_decide_eq_true listed))

/-- A program that avoids some kinds of action has what every action of another kind has. -/
theorem uses_of_disjoint {avoided : List ActionKind}
    {property : ∀ ⦃Response : Type⦄, Action Response → Prop}
    (spared : ∀ ⦃Response : Type⦄ (action : Action Response),
      decide (action.kind ∈ avoided) = false → property action)
    (within : Within kinds program) (disjoint : ∀ kind ∈ avoided, kind ∉ kinds) :
    Program.Uses property program :=
  within.mono fun _ action listed => spared action (decide_eq_false fun met =>
    disjoint _ met (of_decide_eq_true listed))

theorem within_attempt {translate : Other → Error} {action : Action (Except Other Result)}
    (listed : decide (action.kind ∈ kinds) = true) : Within kinds (attempt translate action).run :=
  uses_attempt listed

theorem within_always {action : Action Result} (listed : decide (action.kind ∈ kinds) = true) :
    Within kinds (always action : Fallible Action Error Result).run :=
  uses_always listed

theorem within_pure (result : Result) :
    Within kinds (pure result : Fallible Action Error Result).run :=
  .done _

theorem within_throw (error : Error) :
    Within kinds (throw error : Fallible Action Error Result).run :=
  .done _

theorem within_found (row : Option Result) : Within kinds (Request.found row).run := by
  cases row <;> exact .done _

theorem within_taskFound (row : Option Result) : Within kinds (Task.found row).run := by
  cases row <;> exact .done _

theorem within_valid (checked : Except ValidationError Result) :
    Within kinds (Request.valid checked).run := by
  cases checked <;> exact .done _

theorem within_ensureAgentFile {translate : AgentFileError → Error} {spec : AgentSpec}
    (looks : ActionKind.agentFileExists ∈ kinds) (writes : ActionKind.writeAgentFile ∈ kinds) :
    Within kinds (ensureAgentFile translate spec).run := by
  refine uses_bind (within_always (decide_eq_true looks)) fun present => ?_
  cases present with
  | true => exact within_pure ()
  | false => exact within_attempt (decide_eq_true writes)

end

/-! ### Commands on agents -/

theorem within_wake (immediately : Bool) (operation : DurableOperation) :
    Within preparationKinds (wake immediately operation).run := by
  unfold wake
  split
  · exact within_attempt rfl
  · exact within_pure ()

variable (actor : AuthenticatedPrincipal)

theorem within_execute (metadata : CommandMetadata) (body : RequestBody) (plan : ExecutionPlan) :
    Within commandKinds (execute actor metadata body plan).run := by
  refine uses_alwaysBind rfl fun now => ?_
  refine uses_alwaysBind rfl fun operationId => ?_
  refine uses_attemptBind rfl fun result => ?_
  exact uses_bind (within_mono (by decide) (within_wake _ _)) fun _ => within_pure _

theorem within_prepareAgentCreate (id : AgentId) (input : CreateAgentInput) :
    Within preparationKinds (prepareAgentCreate id input).run := by
  refine uses_attemptBind rfl fun file => ?_
  exact uses_attemptBind rfl fun _ => within_pure _

theorem within_persistAgentCreate (agent : AgentSpec) (input : CreateAgentInput) :
    Within preparationKinds (persistAgentCreate agent input).run := by
  refine uses_alwaysBind rfl fun present => ?_
  cases present with
  | true => exact within_pure ()
  | false =>
    refine uses_attemptBind rfl fun file => ?_
    exact within_attempt rfl

theorem within_finishCreate (agent : AgentSpec) (input : CreateAgentInput)
    (resource : DurableOperation) :
    Within preparationKinds (finishCreate agent input resource).run := by
  unfold finishCreate
  split
  · exact within_throw _
  · next committedId _ =>
    refine uses_bind ?_ fun committed => ?_
    · unfold committedAgent
      split
      · exact within_pure _
      · exact uses_bind (within_attempt rfl) within_found
    refine uses_bind (within_persistAgentCreate committed input) fun _ => ?_
    refine uses_attemptBind rfl fun current => ?_
    cases current with
    | none => exact within_pure _
    | some operation => exact uses_bind (within_wake _ _) fun _ => within_pure _

theorem within_createAgent (metadata : CommandMetadata) (input : CreateAgentInput) :
    Within commandKinds (createAgent actor metadata input).run := by
  refine uses_alwaysBind rfl fun id => ?_
  refine uses_bind (within_mono (by decide) (within_prepareAgentCreate id input)) fun agent => ?_
  refine uses_bind (within_valid _) fun _ => ?_
  refine uses_bind (within_execute ..) fun resource => ?_
  exact within_mono (by decide) (within_finishCreate agent input resource)

theorem within_promoteDraft (request : PromoteDraftRequest) :
    Within commandKinds (promoteDraft actor request).run := by
  refine uses_attemptBind rfl fun row => ?_
  refine uses_bind (within_found row) fun draft => ?_
  refine uses_bind (within_valid _) fun _ => ?_
  refine uses_alwaysBind rfl fun id => ?_
  refine uses_bind (within_mono (by decide) (within_prepareAgentCreate id _)) fun agent => ?_
  refine uses_bind (within_valid _) fun _ => ?_
  refine uses_bind (within_execute ..) fun resource => ?_
  exact within_mono (by decide) (within_finishCreate agent _ resource)

theorem within_prepareAgentUpdate (current : AgentSpec) (changes : UpdateAgentInput) :
    Within preparationKinds (prepareAgentUpdate current changes).run := by
  refine uses_bind (within_ensureAgentFile (by decide) (by decide)) fun _ => ?_
  refine uses_attemptBind rfl fun file => ?_
  exact uses_bind (within_valid _) fun updated => within_attempt rfl

theorem within_updateAgent (request : UpdateAgentRequest) :
    Within commandKinds (updateAgent actor request).run := by
  refine uses_attemptBind rfl fun row => ?_
  refine uses_bind (within_found row) fun current => ?_
  refine uses_bind (within_mono (by decide) (within_prepareAgentUpdate current _)) fun _ => ?_
  exact within_execute ..

theorem within_changeAgentState (request : ChangeAgentStateRequest) :
    Within commandKinds (changeAgentState actor request).run := by
  unfold changeAgentState stateChangeKind
  refine uses_bind ?_ fun kind => ?_
  · split <;> exact .done _
  refine uses_attemptBind rfl fun row => ?_
  exact uses_bind (within_found row) fun agent => within_execute ..

variable (retentionSeconds : Int)

theorem within_commandDeadline (kind : OperationKind) (id : AgentId)
    (desiredState : DesiredAgentState) :
    Within preparationKinds (commandDeadline retentionSeconds kind id desiredState).run := by
  unfold commandDeadline
  split
  · refine uses_bind ?_ fun retention => ?_
    · unfold currentRetention
      split
      · exact within_attempt rfl
      · exact within_pure _
    · cases retention with
      | some row => exact within_pure _
      | none => exact uses_alwaysBind rfl fun now => within_pure _
  · exact within_pure _

theorem within_deletedCommand (request : AgentCommandRequest) (kind : OperationKind) :
    Within commandKinds (deletedCommand retentionSeconds actor request kind).run := by
  refine uses_attemptBind rfl fun row => ?_
  refine uses_bind (within_found row) fun agent => ?_
  refine uses_bind (within_mono (by decide) (within_commandDeadline ..)) fun _ => ?_
  exact within_execute ..

theorem within_submit (actor : AuthenticatedPrincipal) (request : AgentRequest) :
    Within commandKinds (request.submit retentionSeconds actor).run := by
  cases request with
  | create request => exact within_createAgent ..
  | update request => exact within_updateAgent _ _
  | changeState request => exact within_changeAgentState _ _
  | delete request | purge request => exact within_deletedCommand ..
  | promote request => exact within_promoteDraft _ _

/-! ### Drafts and communities -/

theorem within_submitDraft (request : SubmitDraftRequest) :
    Within draftKinds (submitDraft actor request).run := by
  refine uses_bind (within_valid _) fun _ => ?_
  refine uses_alwaysBind rfl fun id => ?_
  refine uses_alwaysBind rfl fun now => ?_
  exact uses_attemptBind rfl fun result => within_pure _

theorem within_removeCommunity (id : CommunityConfigId) :
    Within removalKinds (removeCommunity id).run := by
  refine uses_attemptBind rfl fun row => ?_
  refine uses_bind (within_found row) fun community => ?_
  refine uses_alwaysBind rfl fun now => ?_
  refine uses_attemptBind rfl fun purgedAgents => ?_
  refine uses_bind ?_ fun _ => ?_
  · exact uses_forEach purgedAgents fun _ _ => within_attempt rfl
  split
  · exact uses_attemptBind rfl fun _ => within_pure _
  · exact within_pure _

theorem within_joinCommunity (request : JoinCommunityRequest) :
    Within joinKinds (joinCommunity request).run := by
  refine uses_alwaysBind rfl fun id => ?_
  refine uses_bind (within_valid _) fun _ => ?_
  refine uses_bind (within_valid _) fun community => ?_
  refine uses_attemptBind rfl fun _ => ?_
  exact uses_attemptBind rfl fun _ => within_pure _

theorem within_updateCommunity (request : UpdateCommunityRequest) :
    Within renameKinds (updateCommunity request).run := by
  refine uses_attemptBind rfl fun row => ?_
  refine uses_bind (within_found row) fun community => ?_
  refine uses_bind (within_valid _) fun _ => ?_
  exact uses_attemptBind rfl fun _ => within_pure _

theorem within_serve (actor : AuthenticatedPrincipal) (request : ApiRequest) :
    Within requestKinds (request.serve retentionSeconds actor) := by
  cases request with
  | agent request =>
    exact Program.Uses.bind (within_mono (by decide)
      (within_submit retentionSeconds actor request)) fun _ => .done _
  | submitDraft request =>
    exact Program.Uses.bind (within_mono (by decide) (within_submitDraft actor request))
      fun _ => .done _
  | joinCommunity request =>
    exact Program.Uses.bind (within_mono (by decide) (within_joinCommunity request))
      fun _ => .done _
  | updateCommunity request =>
    exact Program.Uses.bind (within_mono (by decide) (within_updateCommunity request))
      fun _ => .done _
  | removeCommunity id =>
    exact Program.Uses.bind (within_mono (by decide) (within_removeCommunity id)) fun _ => .done _

/-! ### The main thread -/

variable (agentId : AgentId)

theorem within_writeBack (agent : AgentSpec) :
    Within writeBackKinds (writeBack agentId agent).run := by
  refine uses_bind (within_ensureAgentFile (by decide) (by decide)) fun _ => ?_
  refine uses_attemptBind rfl fun file => ?_
  refine uses_attemptBind rfl fun resolved => ?_
  exact uses_attemptBind rfl fun _ => within_pure _

theorem within_startup : Within startupKinds startup := by
  refine Program.Uses.bind ?_ fun outcome => ?_
  · refine uses_attemptBind rfl fun operations => ?_
    refine uses_bind ?_ fun _ => ?_
    · exact uses_forEach operations fun _ _ => within_attempt rfl
    refine uses_attemptBind rfl fun agents => ?_
    refine uses_forEach agents fun agent _ => ?_
    exact uses_bind (within_mono (by decide) (within_writeBack agent.id agent)) fun _ =>
      within_attempt rfl
  · split <;> exact Program.Uses.perform rfl

theorem within_retentionTick : Within retentionKinds (retentionTick retentionSeconds) := by
  refine Program.Uses.bind ?_ fun outcome => ?_
  · refine uses_alwaysBind rfl fun now => ?_
    refine uses_attemptBind rfl fun expired => ?_
    refine uses_forEach expired fun agentId _ => ?_
    refine uses_attemptBind rfl fun row => ?_
    refine uses_bind (within_found row) fun _ => ?_
    refine uses_attemptBind rfl fun retention => ?_
    refine uses_alwaysBind rfl fun attempt => ?_
    exact uses_bind (within_mono (by decide) (within_deletedCommand ..)) fun _ => within_pure _
  · split
    · exact .done _
    · exact Program.Uses.perform rfl

/-! ### The worker -/

theorem within_lookupOperation (id : OperationId) :
    Within auditingKinds (lookupOperation id).run := by
  exact uses_bind (within_attempt rfl) within_found

variable (operation : DurableOperation)

theorem within_auditReconciliation (action outcome : String) :
    Within auditingKinds (auditReconciliation operation action outcome).run := by
  unfold auditReconciliation auditCommunity
  refine uses_bind ?_ fun community => ?_
  · split
    · exact within_pure _
    · refine uses_alwaysBind rfl fun row => ?_
      split <;> exact within_pure _
  refine uses_alwaysBind rfl fun now => ?_
  exact within_attempt rfl

variable (id : OperationId)

include id

theorem within_startOperation : Within operationKinds (startOperation id).run := by
  refine uses_bind (within_mono (by decide) (within_lookupOperation id)) fun operation => ?_
  refine uses_alwaysBind rfl fun now => ?_
  refine uses_attemptBind rfl fun _ => ?_
  exact within_mono (by decide) (within_auditReconciliation ..)

theorem within_claim : Within operationKinds (claim operation id).run := by
  unfold claim
  split
  · exact within_startOperation id
  · exact within_pure ()

theorem within_completeOperation (status : OperationStatus) (errorCode : Option ErrorCode) :
    Within operationKinds (completeOperation id status errorCode).run := by
  unfold completeOperation completePurgeOperation
  refine uses_bind (within_valid _) fun _ => ?_
  refine uses_bind (within_mono (by decide) (within_lookupOperation id)) fun operation => ?_
  split
  · split
    · exact within_throw _
    · refine uses_attemptBind rfl fun row => ?_
      refine uses_bind (within_found row) fun agent => ?_
      refine uses_alwaysBind rfl fun now => ?_
      refine uses_alwaysBind rfl fun occurredAt => ?_
      exact within_attempt rfl
  · refine uses_alwaysBind rfl fun now => ?_
    refine uses_attemptBind rfl fun _ => ?_
    exact within_mono (by decide) (within_auditReconciliation ..)

theorem within_failOperation : Within operationKinds (failOperation id).run := by
  refine uses_bind (within_mono (by decide) (within_lookupOperation id)) fun operation => ?_
  split
  · exact within_pure ()
  · exact uses_bind (within_claim operation id) fun _ =>
      within_completeOperation ..

omit id

theorem within_putReceipt (receipt : ProcessReceipt) :
    Within reconcilerKinds (Reconciler.putReceipt receipt).run :=
  within_attempt rfl

theorem within_startProcess (desired : LaunchSpec) :
    Within reconcilerKinds (Reconciler.startProcess desired).run := by
  refine uses_alwaysBind rfl fun outcome => ?_
  split
  · exact uses_bind (within_putReceipt _) fun _ => within_pure _
  · exact within_pure _
  · exact within_pure _
  · exact within_pure _
  · exact within_throw _

theorem within_ensureStarted (desired : LaunchSpec) (receipt : Option ProcessReceipt) :
    Within reconcilerKinds (Reconciler.ensureStarted desired receipt).run := by
  cases receipt with
  | none => exact within_startProcess desired
  | some durable =>
    refine uses_attemptBind rfl fun observed => ?_
    refine uses_bind (within_putReceipt _) fun _ => ?_
    split
    · exact within_pure _
    split
    · exact within_startProcess desired
    refine uses_attemptBind rfl fun stopped => ?_
    exact uses_bind (within_putReceipt _) fun _ => within_startProcess desired

theorem within_ensureStopped (receipt : Option ProcessReceipt) :
    Within reconcilerKinds (Reconciler.ensureStopped agentId receipt).run := by
  cases receipt with
  | none => exact within_pure _
  | some durable =>
    refine uses_attemptBind rfl fun observed => ?_
    split
    · exact uses_attemptBind rfl fun _ => within_pure _
    refine uses_attemptBind rfl fun stopped => ?_
    refine uses_bind (within_putReceipt _) fun _ => ?_
    exact uses_attemptBind rfl fun _ => within_pure _

theorem within_reconcile (launch : Option LaunchSpec) :
    Within reconcilerKinds (Reconciler.reconcile agentId operation launch).run := by
  unfold Reconciler.reconcile
  split
  · exact within_throw _
  split <;> try exact within_pure _
  refine uses_attemptBind rfl fun row => ?_
  cases row with
  | none => exact within_throw _
  | some agent =>
    show Within reconcilerKinds (Reconciler.reconcileDesired agent launch).run
    unfold Reconciler.reconcileDesired
    split
    · exact within_throw _
    refine uses_attemptBind rfl fun receipt => ?_
    split
    · exact within_ensureStopped _ _
    · exact within_ensureStopped _ _
    split
    · exact within_throw _
    split
    · exact within_throw _
    · exact within_ensureStarted _ _

theorem within_syncProjection (kind : RelayProjectionKind) (fallback : RelayPublicationAction)
    (subjectId : String) (scope : RelayProjectionScope)
    (listed : ∀ now, decide ((Action.enqueueRelayPublication
      ⟨fallback, scope, subjectId, now⟩).kind ∈ launchKinds) = true) :
    Within launchKinds (syncProjection kind fallback subjectId scope).run := by
  refine uses_alwaysBind rfl fun outcome => ?_
  split
  · exact within_attempt rfl
  · exact uses_alwaysBind rfl fun now => within_attempt (listed now)

theorem within_prepareLaunch (resolved : ResolvedAgentConfig) :
    Within launchKinds (prepareLaunch agentId resolved).run := by
  refine uses_attemptBind rfl fun row => ?_
  refine uses_bind (within_taskFound row) fun community => ?_
  refine uses_attemptBind rfl fun _ => ?_
  refine uses_attemptBind rfl fun _ => ?_
  refine uses_attemptBind rfl fun key => ?_
  refine uses_attemptBind rfl fun owner => ?_
  refine uses_alwaysBind rfl fun _ => ?_
  refine uses_bind (within_syncProjection _ _ _ _ fun _ => rfl) fun _ => ?_
  refine uses_bind ?_ fun _ => ?_
  · unfold syncPersona
    split
    · exact within_pure _
    · exact uses_attemptBind rfl fun persona =>
        within_syncProjection _ _ _ _ fun _ => rfl
  exact uses_attemptBind rfl fun launch => within_pure _

theorem within_removeArtifacts : Within artifactKinds (removeArtifacts agentId).run := by
  refine uses_attemptBind rfl fun _ => ?_
  exact uses_attemptBind rfl fun _ => within_attempt rfl

theorem within_concludeStatus (kind : OperationKind) (agentId : AgentId)
    (scope : RelayProjectionScope) (outcome : Except ReconcileError ReconcileOutcome) :
    Within artifactKinds (concludeStatus kind agentId scope outcome).run := by
  unfold concludeStatus purgeArtifacts
  split
  · refine uses_alwaysBind rfl fun _ => ?_
    refine uses_attemptBind rfl fun _ => ?_
    refine uses_alwaysBind rfl fun _ => ?_
    refine uses_attemptBind rfl fun _ => ?_
    refine uses_bind (uses_capture (within_removeArtifacts agentId)) fun cleaned => ?_
    split <;> exact within_pure _
  · exact within_pure _

theorem within_stampReceiptLifecycle : Within receiptKinds (stampReceiptLifecycle agentId).run := by
  refine uses_attemptBind rfl fun receipt => ?_
  split
  · exact within_pure _
  · exact within_attempt rfl

theorem within_concludeOperation (agentId : AgentId) (scope : RelayProjectionScope)
    (finishOperation : Bool) (outcome : Except ReconcileError ReconcileOutcome) :
    Within (operationKinds ++ artifactKinds)
      (concludeOperation operation agentId scope finishOperation outcome).run := by
  refine uses_bind (within_mono (by decide)
    (within_concludeStatus operation.kind agentId scope outcome)) fun status => ?_
  split
  · exact within_mono (by decide) (uses_mapError (within_completeOperation ..))
  split
  · exact within_throw _
  · exact within_pure _

theorem within_reconcileDynamic (finishOperation : Bool) :
    Within workerKinds (reconcileDynamicLifecycleOperation operation finishOperation).run := by
  refine uses_bind (uses_capture ?_) fun outcome => ?_
  · refine uses_bind (within_taskFound _) fun agentId => ?_
    refine uses_attemptBind rfl fun row => ?_
    refine uses_bind (within_taskFound row) fun cachedAgent => ?_
    refine uses_bind (within_mono (by decide) (within_writeBack _ _)) fun resolved => ?_
    refine uses_bind (within_mono (by decide) (within_prepareLaunch _ _)) fun preparation => ?_
    refine uses_bind (within_mono (by decide)
      (uses_capture (within_reconcile ..))) fun outcome => ?_
    refine uses_attemptBind rfl fun _ => ?_
    refine uses_attemptBind rfl fun _ => ?_
    exact uses_bind (within_mono (by decide) (within_stampReceiptLifecycle agentId))
      fun _ => within_mono (by decide) (within_concludeOperation ..)
  · refine uses_alwaysBind rfl fun _ => ?_
    split
    · exact within_pure _
    · exact within_throw _

theorem within_process (work : ReconcileWork) : Within workerKinds work.process := by
  cases work with
  | operation id =>
    show Within workerKinds (reconcileOperationContained id)
    refine Program.Uses.bind (Program.Uses.perform rfl) fun _ => ?_
    refine Program.Uses.bind ?_ fun outcome => ?_
    · refine uses_bind (within_mono (by decide) (uses_mapError (within_lookupOperation id)))
        fun operation => ?_
      refine uses_bind (within_mono (by decide)
        (uses_mapError (within_claim operation id))) fun _ => ?_
      refine uses_bind (within_mono (by decide) (uses_mapError (within_lookupOperation id)))
        fun durable => ?_
      split
      · exact within_reconcileDynamic durable true
      · exact within_pure ()
    · split
      · exact .done _
      · exact Program.Uses.bind (within_mono (by decide) (within_failOperation id)) fun _ => .done _
  | startupAgent id =>
    refine Program.Uses.bind ?_ fun _ => .done _
    refine uses_attemptBind rfl fun row => ?_
    refine uses_bind (within_taskFound row) fun agent => ?_
    refine uses_alwaysBind rfl fun operationId => ?_
    refine uses_alwaysBind rfl fun now => ?_
    refine uses_attemptBind rfl fun _ => ?_
    exact within_reconcileDynamic _ false

theorem within_observePass : Within observationKinds observePass := by
  refine Program.Uses.bind ?_ fun _ => Program.Uses.bind ?_ fun _ => .done _
  · refine uses_attemptBind rfl fun agents => ?_
    refine uses_forEach agents fun agent _ => ?_
    refine uses_attemptBind rfl fun receipt => ?_
    cases receipt with
    | none => exact within_pure ()
    | some receipt =>
      refine uses_attemptBind rfl fun observed => ?_
      exact uses_attemptBind rfl fun _ => within_attempt rfl
  · refine uses_attemptBind rfl fun purged => ?_
    refine uses_forEach purged fun agentId _ => ?_
    exact uses_bind (within_mono (by decide) (within_removeArtifacts agentId))
      fun _ => within_attempt rfl

end BuzzServer
