/-
This file models the reconciler and the programs of the reconciliation worker.

The worker takes one item at a time. For an operation it reads the agent, ties
it to its file, writes the resolved spec back over whatever the row has become,
prepares the launch, and lets the reconciler bring the process in line with the
desired state the row has by then. A purge whose reconciliation succeeded then
removes what the agent left behind, and only its completion looks at the
desired state once more.
-/

import BuzzServer.Daemon.Application

namespace BuzzServer

open Relational Concurrent Fallible

/-! ### The reconciler -/

inductive ReconcileOutcome where
  | deferred
  | unchanged
  | adopted
  | started
  | stopped
  | failedPreflight
  | noPresence
  deriving DecidableEq

inductive ReconcileError where
  | storage (error : StorageError)
  | supervisor (error : SupervisorError)
  | operationAgentMismatch
  | missingLaunch
  | launchAgentMismatch
  deriving DecidableEq

/-- A program of the reconciler. -/
abbrev Reconciliation : Type → Type 1 := Fallible Action ReconcileError

namespace Reconciler

def putReceipt (receipt : ProcessReceipt) : Reconciliation Unit :=
  attempt .storage (.putReceipt receipt)

/-- The start of a process. Its receipt is written before the start counts. -/
def startProcess (desired : LaunchSpec) : Reconciliation ReconcileOutcome := do
  let outcome ← always (.start desired)
  match outcome with
  | .ok started => do
      putReceipt started
      return .started
  | .error .preflight => return .failedPreflight
  | .error .secretResolution => return .noPresence
  | .error .invalidSpec => return .noPresence
  | .error .io => throw (.supervisor .io)

def ensureStarted (desired : LaunchSpec) (receipt : Option ProcessReceipt) :
    Reconciliation ReconcileOutcome :=
  match receipt with
  | none => startProcess desired
  | some durable => do
      let observed ← attempt .supervisor (.inspect durable)
      putReceipt observed
      if desired.canAdopt observed then
        return .adopted
      else if observed.observedState.isTerminal then
        startProcess desired
      else do
        let stopped ← attempt .supervisor (.stop observed)
        putReceipt stopped
        startProcess desired

def ensureStopped (agentId : AgentId) (receipt : Option ProcessReceipt) :
    Reconciliation ReconcileOutcome :=
  match receipt with
  | none => return .unchanged
  | some durable => do
      let observed ← attempt .supervisor (.inspect durable)
      if observed.observedState.isTerminal then do
        attempt .storage (.deleteReceipt agentId)
        return .unchanged
      else do
        let stopped ← attempt .supervisor (.stop observed)
        putReceipt stopped
        attempt .storage (.deleteReceipt agentId)
        return .stopped

/-- Applies the desired state of an agent that was read. -/
def reconcileDesired (agent : AgentSpec) (launch : Option LaunchSpec) :
    Reconciliation ReconcileOutcome :=
  match agent.validate with
  | .error error => throw (.storage (.invalidData error.toText))
  | .ok () => do
      let receipt ← attempt .storage (.getReceipt agent.id)
      match agent.desiredState with
      | .disabled => ensureStopped agent.id receipt
      | .deleted => ensureStopped agent.id receipt
      | .enabled =>
          match launch with
          | none => throw .missingLaunch
          | some desired =>
              if desired.agentId ≠ agent.id then throw .launchAgentMismatch
              else ensureStarted desired receipt

/-- Reconciles one operation. Pending work is deferred, terminal work is never replayed, and
only running work may change processes. -/
def reconcile (agentId : AgentId) (operation : DurableOperation)
    (launch : Option LaunchSpec) : Reconciliation ReconcileOutcome :=
  if operation.agentId ≠ some agentId then throw .operationAgentMismatch
  else
    match operation.status with
    | .pending => return .deferred
    | .succeeded => return .unchanged
    | .failed => return .unchanged
    | .cancelled => return .unchanged
    | .running => do
        let row ← attempt .storage (.getAgent .reconciled agentId)
        match row with
        | none => throw (.storage .notFound)
        | some agent => reconcileDesired agent launch

end Reconciler

/-- The status and error an operation ends with, by the reconciler's outcome. -/
def completionStatus (outcome : Except ReconcileError ReconcileOutcome) : OperationStatus :=
  match outcome with
  | .ok .failedPreflight => .failed
  | .ok .noPresence => .failed
  | .ok _ => .succeeded
  | .error _ => .failed

def completionError : OperationStatus → Option ErrorCode
  | .failed => some .internal
  | _ => none

/-! ### The worker -/

/-- A program of the daemon. -/
abbrev Task : Type → Type 1 := Fallible Action DaemonError

namespace Task

variable {Result : Type}

def store (action : Action (Except StorageError Result)) : Task Result :=
  attempt .storage action

def file (action : Action (Except AgentFileError Result)) : Task Result :=
  attempt .agentFile action

def host (action : Action (Except DaemonError Result)) : Task Result :=
  attempt (fun error => error) action

def application (program : Request Result) : Task Result :=
  mapError .application program

def found (row : Option Result) : Task Result :=
  match row with
  | some value => pure value
  | none => throw (.storage .notFound)

end Task

variable (agentId : AgentId)

/-- Ties a spec that was read to its file and writes the resolved spec back. -/
def writeBack (agent : AgentSpec) : Task ResolvedAgentConfig := do
  ensureAgentFile .agentFile agent
  let file ← Task.file (.loadAgentFile agentId)
  let resolved ← Task.file
    (.resolveAgentFile file agent.communityConfigId agent.desiredState)
  Task.store (.putAgent resolved.spec)
  return resolved

/-- Publishes a projection, or leaves it to the publication worker if the relay fails. -/
def syncProjection (kind : RelayProjectionKind) (fallback : RelayPublicationAction)
    (subjectId : String) (scope : RelayProjectionScope) : Task Unit := do
  let outcome ← always .syncRelay
  match outcome with
  | .ok () => Task.store (.recordRelayProjection kind subjectId scope)
  | .error () => do
      let now ← always .now
      Task.store (.enqueueRelayPublication ⟨fallback, scope, subjectId, now⟩)

/-- Publishes the persona an agent links to, if it links one. -/
def syncPersona (personaId : Option String) (scope : RelayProjectionScope) : Task Unit :=
  match personaId with
  | none => pure ()
  | some id => do
      let persona ← Task.file (.loadPersona id)
      syncProjection .persona .syncPersona persona.id { scope with dTag := personaDTag persona.id }

/-- What the launch of an agent rests on. -/
structure Preparation where
  scope : RelayProjectionScope
  launch : LaunchSpec

/-- The directories, the account, the identity and the projections of an agent, and the
launch resolved from them. -/
def prepareLaunch (resolved : ResolvedAgentConfig) : Task Preparation := do
  let row ← Task.store (.getCommunity resolved.spec.communityConfigId)
  let community ← Task.found row
  Task.host (.ensureAgentUser resolved.filesystem.user)
  Task.host (.createAgentDirectories agentId)
  let key ← Task.host (.provisionIdentity agentId)
  let owner ← Task.host (.communityOwnerKeys community)
  let _ ← always .syncRelay
  let scope : RelayProjectionScope := ⟨community.id, community.relayUrl, owner, toString key⟩
  syncProjection .managedAgent .syncManagedAgent agentId.toText scope
  syncPersona resolved.personaId scope
  let launch ← Task.host (.resolveLaunch resolved)
  return ⟨scope, launch⟩

/-- Stamps the receipt of an agent with the decision that was made. -/
def stampReceiptLifecycle : Task Unit := do
  let receipt ← Task.store (.getReceipt agentId)
  match receipt with
  | none => pure ()
  | some receipt => Task.store (.putReceipt receipt)

/-- The removal of what a purged agent left behind. -/
def removeArtifacts : Task Unit := do
  Task.host (.purgeAgentPaths agentId)
  Task.host (.purgeCustody agentId)
  Task.file (.removeAgentFile agentId)

/-- The destructive part of a purge: it gives the status the operation ends with. -/
def purgeArtifacts (scope : RelayProjectionScope) : Task OperationStatus := do
  let tombstonedAt ← always .now
  Task.store (.enqueueRelayPublication
    ⟨.tombstoneManagedAgent, scope, agentId.toText, tombstonedAt⟩)
  let archivedAt ← always .now
  Task.store (.enqueueRelayPublication ⟨.archiveIdentity, scope, agentId.toText, archivedAt⟩)
  let cleaned ← capture (removeArtifacts agentId)
  match cleaned with
  | .ok () => return .succeeded
  | .error _ => return .failed

/-- The status a reconciliation ends with; a purge that succeeded so far removes first. -/
def concludeStatus (kind : OperationKind) (agentId : AgentId) (scope : RelayProjectionScope)
    (outcome : Except ReconcileError ReconcileOutcome) : Task OperationStatus :=
  if completionStatus outcome = .succeeded ∧ kind = .purgeAgent then
    purgeArtifacts agentId scope
  else pure (completionStatus outcome)

variable (operation : DurableOperation)

/-- The end of a reconciliation: the purge's removals, and the operation's completion. -/
def concludeOperation (agentId : AgentId) (scope : RelayProjectionScope) (finishOperation : Bool)
    (outcome : Except ReconcileError ReconcileOutcome) : Task Unit := do
  let status ← concludeStatus operation.kind agentId scope outcome
  if finishOperation then
    Task.application (completeOperation operation.id status (completionError status))
  else if status = .failed then
    throw (.task "startup reconciliation failed")
  else
    pure ()

/-- The body of `reconcile_dynamic_lifecycle_operation`. -/
def reconcileDynamicBody (finishOperation : Bool) : Task Unit := do
  let agentId ← Task.found operation.agentId
  let row ← Task.store (.getAgent .cached agentId)
  let cachedAgent ← Task.found row
  let resolved ← writeBack agentId cachedAgent
  let preparation ← prepareLaunch agentId resolved
  let outcome ← capture
    (Reconciler.reconcile agentId operation (some preparation.launch))
  let _ ← Task.store (.getReceipt agentId)
  Task.store .appendReconciliationJournal
  stampReceiptLifecycle agentId
  concludeOperation operation agentId preparation.scope finishOperation outcome

/-- Runs a task and drops the local variables it shares with the world. -/
def withinScope (task : Task Unit) : Task Unit := do
  let outcome ← capture task
  always .leaveScope
  match outcome with
  | .ok () => pure ()
  | .error error => throw error

def reconcileDynamicLifecycleOperation (finishOperation : Bool) : Task Unit :=
  withinScope (reconcileDynamicBody operation finishOperation)

variable (id : OperationId)

/-- Claims an operation that nobody has claimed. -/
def claim : Request Unit :=
  if operation.status = .pending then startOperation id else pure ()

def reconcileLifecycleOperation : Task Unit := do
  let operation ← Task.application (lookupOperation id)
  Task.application (claim operation id)
  let durable ← Task.application (lookupOperation id)
  if durable.status = .running then
    reconcileDynamicLifecycleOperation durable true
  else
    pure ()

/-- The terminal state of an operation whose reconciliation failed. -/
def failOperation : Request Unit := do
  let operation ← lookupOperation id
  if operation.status.isTerminal then pure ()
  else do
    claim operation id
    completeOperation id .failed (some .internal)

def reconcileOperationContained : Program Action Unit :=
  (Program.perform .appendReconciliationJournal).bind fun _ =>
    (reconcileLifecycleOperation id).run.bind fun outcome =>
      match outcome with
      | .ok () => .done ()
      | .error _ => (failOperation id).run.bind fun _ => .done ()

def startupKind : DesiredAgentState → OperationKind
  | .enabled => .enableAgent
  | .disabled => .disableAgent
  | .deleted => .deleteAgent

/-- Reconciles an agent the startup loop queued, under an operation that is not stored. -/
def reconcileStartupAgent : Task Unit := do
  let row ← Task.store (.getAgent .unshared agentId)
  let agent ← Task.found row
  let id ← always .newOperationId
  let now ← always .now
  Task.store .appendReconciliationJournal
  reconcileDynamicLifecycleOperation
    ⟨id, startupKind agent.desiredState, .running, some agent.id, none, now, now,
      "startup:" ++ agent.id.toText⟩ false

def observeAgent (agent : AgentSpec) : Task Unit := do
  let receipt ← Task.store (.getReceipt agent.id)
  match receipt with
  | none => pure ()
  | some receipt => do
      let observed ← attempt (fun _ => .host "inspect failed") (.inspect receipt)
      Task.store (.putReceipt observed)
      Task.store .appendReconciliationJournal

def observeDynamicAgents : Task Unit := do
  let agents ← Task.store .listAgents
  forEach observeAgent agents

def cleanupPurgedAgent : Task Unit := do
  removeArtifacts agentId
  Task.host (.removeStateRoot agentId)

def cleanupPurgedAgentArtifacts : Task Unit := do
  let purged ← Task.store .listPurgedAgentIds
  forEach cleanupPurgedAgent purged

/-- What the worker does when its queue stays empty. -/
def observePass : Program Action Unit :=
  observeDynamicAgents.run.bind fun _ =>
    cleanupPurgedAgentArtifacts.run.bind fun _ => .done ()

def ReconcileWork.process : ReconcileWork → Program Action Unit
  | .operation id => reconcileOperationContained id
  | .startupAgent id => (reconcileStartupAgent id).run.bind fun _ => .done ()

end BuzzServer
