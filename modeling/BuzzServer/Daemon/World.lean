/-
This file models the world the daemon's threads share, and the atomic actions
they perform on it.

The world is the database, the files, the receipts and processes of the agents,
the custodied keys, the queue of the reconciliation worker, the clock and the
source of identifiers. Every action is one call that no other thread can
interrupt: a store method, one file operation, one call of the supervisor. What
fails is part of the world too, and may change at any moment.

Three fields repeat local variables of the worker and of the startup loop, so
that a statement can speak about a value that was read and is still to be
written back: `cached` is the worker's `cached_agent`, `reconciled` the agent
the reconciler read, and `starting` the agents the startup loop has listed and
not yet written. `accepted` is the history of the commands the store has
accepted, in commit order, which no code reads.
-/

import BuzzServer.AgentFiles
import BuzzServer.Concurrent.Program
import BuzzServer.Domain.Process
import BuzzServer.Storage.Community

namespace BuzzServer

open Relational Concurrent SqliteStore

/-! ### Threads, work and processes -/

/-- The main thread, the reconciliation worker, and the threads that serve requests. -/
inductive Thread where
  | main
  | worker
  | request (number : Nat)
  deriving DecidableEq

/-- An item of the worker's queue. -/
inductive ReconcileWork where
  | operation (id : OperationId)
  | startupAgent (id : AgentId)
  deriving DecidableEq

/-- A resolved launch: the agent, and the settings that have to agree for a running process
to be adopted. -/
structure LaunchSpec where
  agentId : AgentId
  identity : ResolvedAgentConfig

structure ProcessReceipt where
  agentId : AgentId
  pid : Nat
  desired : ResolvedAgentConfig
  observedState : ObservedProcessState
  deriving DecidableEq

def LaunchSpec.canAdopt (launch : LaunchSpec) (receipt : ProcessReceipt) : Bool :=
  decide (receipt.agentId = launch.agentId) && decide (receipt.desired = launch.identity) &&
    decide (0 < receipt.pid) && !receipt.observedState.isTerminal

inductive SupervisorError where
  | invalidSpec
  | secretResolution
  | preflight
  | io
  deriving DecidableEq

/-- The errors the daemon only logs. -/
inductive DaemonError where
  | storage (error : StorageError)
  | agentFile (error : AgentFileError)
  | application (error : ApplicationError)
  | host (message : String)
  | task (message : String)

/-! ### The world -/

/-- What fails at the moment. -/
structure Faults where
  storeUnavailable : Bool
  writes : WriteFaults
  (fileRead fileWrite fileRemove workerStopped receiptRead receiptWrite receiptDelete : Bool)
  (inspect stop : Bool)
  start : Option SupervisorError
  (directories agentUser custody ownerKeys relay launch journal removal : Bool)
  joinVerification : Option ApplicationError

/-- Nothing fails. -/
def Faults.none : Faults where
  storeUnavailable := false
  writes := fun _ => false
  fileRead := false
  fileWrite := false
  fileRemove := false
  workerStopped := false
  receiptRead := false
  receiptWrite := false
  receiptDelete := false
  inspect := false
  stop := false
  start := Option.none
  directories := false
  agentUser := false
  custody := false
  ownerKeys := false
  relay := false
  launch := false
  journal := false
  removal := false
  joinVerification := Option.none

structure World where
  db : Database
  files : Files
  receipts : Table AgentId ProcessReceipt
  /-- The live processes: which agent each process id belongs to. -/
  processes : Table Nat AgentId
  custody : Table AgentId Nat
  /-- The agents that have a workspace, a runtime directory and logs. -/
  directories : Table AgentId Unit
  queue : List ReconcileWork
  /-- Whether the startup loop is over and requests are served. -/
  serving : Bool
  (cached reconciled : Option AgentSpec)
  starting : List AgentSpec
  /-- The operation the worker is processing. -/
  processing : Option OperationId
  clock : Int
  (nextUuid nextPid nextKey : Nat)
  /-- The thread that drew an agent id. -/
  owners : Table Nat Thread
  faults : Faults
  accepted : List AgentCommand

/-- Some live process belongs to the agent. -/
def World.Live (world : World) (id : AgentId) : Prop :=
  ∃ pid, world.processes.lookup pid = some id

/-- Which local variable a read agent goes to. -/
inductive AgentSlot where
  | unshared
  | cached
  | reconciled
  deriving DecidableEq

/-! ### Actions -/

inductive Action : Type → Type where
  | now : Action Int
  | newAgentId : Action AgentId
  | newOperationId : Action OperationId
  | newDraftId : Action DraftId
  | newCommunityId : Action CommunityConfigId
  | getAgent (slot : AgentSlot) (id : AgentId) :
      Action (Except StorageError (Option AgentSpec))
  | putAgent (spec : AgentSpec) : Action (Except StorageError Unit)
  | listAgents : Action (Except StorageError (List AgentSpec))
  | listStartupAgents : Action (Except StorageError (List AgentSpec))
  | agentRetention (id : AgentId) : Action (Except StorageError (Option AgentRetention))
  | expiredRetainedAgents (now : Int) : Action (Except StorageError (List AgentId))
  | listPurgedAgentIds : Action (Except StorageError (List AgentId))
  | getCommunity (id : CommunityConfigId) :
      Action (Except StorageError (Option CommunityConfig))
  | putCommunity (config : CommunityConfig) : Action (Except StorageError Unit)
  | listCommunities : Action (Except StorageError (List CommunityConfig))
  | deleteCommunityWithDeletedAgents (id : CommunityConfigId) (now : Int) :
      Action (Except StorageError (List AgentId))
  | applyAgentCommand (command : AgentCommand) :
      Action (Except StorageError (DurableOperation × Bool))
  | getOperation (id : OperationId) : Action (Except StorageError (Option DurableOperation))
  | nonterminalOperations : Action (Except StorageError (List DurableOperation))
  | transitionOperation (id : OperationId) (next : OperationStatus)
      (errorCode : Option ErrorCode) (now : Int) : Action (Except StorageError Unit)
  | appendAudit (record : NewAuditRecord) : Action (Except StorageError Unit)
  | completePurge (agentId : AgentId) (operationId : OperationId) (now : Int)
      (audit : NewAuditRecord) : Action (Except StorageError Unit)
  | getDraft (id : DraftId) : Action (Except StorageError (Option DraftResource))
  | applyDraftCommand (draft : DraftResource) (scope key : String) (hash : RequestHash)
      (audit : NewAuditRecord) : Action (Except StorageError (DraftResource × Bool))
  | recordRelayProjection (kind : RelayProjectionKind) (subjectId : String)
      (scope : RelayProjectionScope) : Action (Except StorageError Unit)
  | enqueueRelayPublication (publication : RelayPublication) :
      Action (Except StorageError Unit)
  | appendReconciliationJournal : Action (Except StorageError Unit)
  | agentFileExists (id : AgentId) : Action Bool
  | loadAgentFile (id : AgentId) : Action (Except AgentFileError AgentConfigFile)
  | loadPersona (id : String) : Action (Except AgentFileError PersonaDefinition)
  | resolveAgentFile (file : AgentConfigFile) (community : CommunityConfigId)
      (desiredState : DesiredAgentState) : Action (Except AgentFileError ResolvedAgentConfig)
  | buildCreateFile (id : AgentId) (input : CreateAgentInput) :
      Action (Except AgentFileError AgentConfigFile)
  | writeAgentFile (file : AgentConfigFile) : Action (Except AgentFileError Unit)
  | removeAgentFile (id : AgentId) : Action (Except AgentFileError Unit)
  | verifyCommunityJoin (config : CommunityConfig) : Action (Except ApplicationError Unit)
  | sendWork (work : ReconcileWork) : Action (Except Unit Unit)
  | createAgentDirectories (id : AgentId) : Action (Except DaemonError Unit)
  | ensureAgentUser (user : Option String) : Action (Except DaemonError Unit)
  | provisionIdentity (id : AgentId) : Action (Except DaemonError Nat)
  | communityOwnerKeys (config : CommunityConfig) : Action (Except DaemonError String)
  | syncRelay : Action (Except Unit Unit)
  | resolveLaunch (resolved : ResolvedAgentConfig) : Action (Except DaemonError LaunchSpec)
  | getReceipt (id : AgentId) : Action (Except StorageError (Option ProcessReceipt))
  | putReceipt (receipt : ProcessReceipt) : Action (Except StorageError Unit)
  | deleteReceipt (id : AgentId) : Action (Except StorageError Unit)
  | inspect (receipt : ProcessReceipt) : Action (Except SupervisorError ProcessReceipt)
  | stop (receipt : ProcessReceipt) : Action (Except SupervisorError ProcessReceipt)
  | start (launch : LaunchSpec) : Action (Except SupervisorError ProcessReceipt)
  | purgeAgentPaths (id : AgentId) : Action (Except DaemonError Unit)
  | purgeCustody (id : AgentId) : Action (Except DaemonError Unit)
  | removeStateRoot (id : AgentId) : Action (Except DaemonError Unit)
  | leaveScope : Action Unit
  | serve : Action Unit

/-! ### What an action does -/

namespace World

variable (world : World)

/-- A store method, unless the store cannot be reached. -/
def method {Result : Type} (call : Database → Except StorageError Result × Database) :
    Except StorageError Result × Database :=
  if world.faults.storeUnavailable then (.error .database, world.db) else call world.db

/-- A store method and the world after it. -/
abbrev stores {Result : Type} (call : Database → Except StorageError Result × Database) :
    Except StorageError Result × World :=
  ((world.method call).1, { world with db := (world.method call).2 })

/-- A store query, unless the store cannot be reached. -/
def query {Result : Type} (read : Database → Result) : Except StorageError Result :=
  if world.faults.storeUnavailable then .error .database else .ok (read world.db)

/-- A local variable of the worker after a read: it holds the row that was found. -/
def noteRead (thread : Thread) (slot target : AgentSlot)
    (found : Except StorageError (Option AgentSpec)) (current : Option AgentSpec) :
    Option AgentSpec :=
  match found with
  | .ok (some agent) => if thread = .worker ∧ slot = target then some agent else current
  | _ => current

/-- The history after a command was answered. -/
def noteAccepted (command : AgentCommand)
    (outcome : Except StorageError (DurableOperation × Bool)) : List AgentCommand :=
  match outcome with
  | .ok (_, false) => world.accepted ++ [command]
  | _ => world.accepted

/-- The personas and prompts as a call reads them. -/
def readable : Files := world.files.readWith world.faults.fileRead

theorem readable_eq_files {world : World} (reads : world.faults.fileRead = false) :
    world.readable = world.files := by
  rw [readable, reads, Files.readWith_false]

/-- A supervised process as the supervisor reports it: terminal exactly if it is gone. -/
def observe (receipt : ProcessReceipt) : ProcessReceipt :=
  { receipt with
    observedState :=
      if world.processes.lookup receipt.pid = some receipt.agentId then .healthy else .exited }

/-- The receipt of a process that was just started. -/
def startedReceipt (launch : LaunchSpec) : ProcessReceipt :=
  ⟨launch.agentId, world.nextPid, launch.identity, .healthy⟩

/-- The receipt file of an agent names the agent it belongs to. -/
def storedReceipt (id : AgentId) : Option ProcessReceipt :=
  (world.receipts.lookup id).filter fun receipt => receipt.agentId = id

end World

/-- The value of a call that fails if the flag is set. -/
def failIf {Error Result : Type} (fault : Bool) (error : Error) (result : Result) :
    Except Error Result :=
  if fault then .error error else .ok result

/-- What an action of a thread responds, and the world it leaves. -/
def perform (thread : Thread) ⦃Response : Type⦄ (action : Action Response) (world : World) :
    Response × World :=
  match action with
  | .now => (world.clock, world)
  | .newAgentId =>
      (⟨world.nextUuid⟩, { world with
          nextUuid := world.nextUuid + 1
          owners := world.owners.insert world.nextUuid thread })
  | .newOperationId => (⟨world.nextUuid⟩, { world with nextUuid := world.nextUuid + 1 })
  | .newDraftId => (⟨world.nextUuid⟩, { world with nextUuid := world.nextUuid + 1 })
  | .newCommunityId => (⟨world.nextUuid⟩, { world with nextUuid := world.nextUuid + 1 })
  | .getAgent slot id =>
      (world.query fun db => db.agentSpecs.lookup id, { world with
          cached := World.noteRead thread slot .cached
            (world.query fun db => db.agentSpecs.lookup id) world.cached
          reconciled := World.noteRead thread slot .reconciled
            (world.query fun db => db.agentSpecs.lookup id) world.reconciled })
  | .putAgent spec =>
      ((world.method (putAgent world.faults.writes spec)).1, { world with
          db := (world.method (putAgent world.faults.writes spec)).2
          cached := if thread = .worker then none else world.cached
          starting := if thread = .main then world.starting.tail else world.starting })
  | .listAgents => (world.query (listAgents none), world)
  | .listStartupAgents =>
      (world.query (listAgents none), { world with
          starting := if thread = .main ∧ world.faults.storeUnavailable = false then
            listAgents none world.db else world.starting })
  | .agentRetention id => (world.query fun db => db.agentRetention.lookup id, world)
  | .expiredRetainedAgents now =>
      (world.query (expiredRetainedAgents now), world)
  | .listPurgedAgentIds => (world.query listPurgedAgentIds, world)
  | .getCommunity id => (world.query fun db => db.communityConfigs.lookup id, world)
  | .putCommunity config => world.stores (putCommunity world.faults.writes config)
  | .listCommunities => (world.query listCommunities, world)
  | .deleteCommunityWithDeletedAgents id now =>
      ((world.method (deleteCommunityWithDeletedAgents world.faults.writes id now
          world.nextUuid)).1,
        { world with
          db := (world.method (deleteCommunityWithDeletedAgents world.faults.writes
            id now world.nextUuid)).2
          nextUuid :=
            world.nextUuid + (listAgents (some id) world.db).length })
  | .applyAgentCommand command =>
      ((world.method (applyAgentCommand world.faults.writes command)).1, { world with
          db := (world.method (applyAgentCommand world.faults.writes command)).2
          accepted := world.noteAccepted command
            (world.method (applyAgentCommand world.faults.writes command)).1 })
  | .getOperation id => (world.query fun db => db.operations.lookup id, world)
  | .nonterminalOperations => (world.query nonterminalOperations, world)
  | .transitionOperation id next errorCode now =>
      world.stores (transitionOperation world.faults.writes id next errorCode now)
  | .appendAudit record => world.stores (appendAudit world.faults.writes record)
  | .completePurge agentId operationId now audit =>
      world.stores (completePurge world.faults.writes agentId operationId now audit)
  | .getDraft id =>
      (world.query fun db => (db.agentDrafts.lookup id).map DraftRow.document, world)
  | .applyDraftCommand draft scope key hash audit =>
      world.stores (applyDraftCommand world.faults.writes draft scope key hash audit)
  | .recordRelayProjection kind subjectId scope =>
      world.stores (recordRelayProjection world.faults.writes kind subjectId scope)
  | .enqueueRelayPublication publication =>
      world.stores (enqueueRelayPublication world.faults.writes publication)
  | .appendReconciliationJournal =>
      (failIf (world.faults.storeUnavailable || world.faults.journal) .database (), world)
  | .agentFileExists id => (world.files.agentExists id, world)
  | .loadAgentFile id =>
      (if world.faults.fileRead then .error .io else world.files.loadAgent id, world)
  | .loadPersona id => (world.readable.loadPersona id, world)
  | .resolveAgentFile file community desiredState =>
      (world.readable.resolve file community desiredState, world)
  | .buildCreateFile id input => (world.readable.buildCreateFile id input, world)
  | .writeAgentFile file =>
      (do
          checkFile file.validate
          failIf world.faults.fileWrite .io (),
        { world with
          files :=
            if file.validate = .ok () ∧ world.faults.fileWrite = false then
              world.files.withAgent file
            else world.files })
  | .removeAgentFile id =>
      (failIf world.faults.fileRemove .io (), { world with
          files := if world.faults.fileRemove then world.files
            else world.files.withoutAgent id })
  | .verifyCommunityJoin _ =>
      (match world.faults.joinVerification with
        | some error => .error error
        | none => .ok (), world)
  | .sendWork work =>
      (failIf world.faults.workerStopped () (), { world with
          queue := if world.faults.workerStopped then world.queue else world.queue ++ [work] })
  | .createAgentDirectories id =>
      (failIf world.faults.directories (.host "cannot create agent directories") (),
        { world with directories := world.directories.insert id () })
  | .ensureAgentUser _ =>
      (failIf world.faults.agentUser (.host "filesystem user is not usable") (), world)
  | .provisionIdentity id =>
      (failIf world.faults.custody (.host "custody failed")
          ((world.custody.lookup id).getD world.nextKey),
        { world with
          custody :=
            if world.faults.custody || decide (id ∈ world.custody) then world.custody
            else world.custody.insert id world.nextKey
          nextKey := world.nextKey + 1 })
  | .communityOwnerKeys config =>
      (match config.identityPubkey with
        | none => .error (.host "community has no associated identity")
        | some pubkey => failIf world.faults.ownerKeys (.host "invalid owner secret") pubkey,
        world)
  | .syncRelay => (failIf world.faults.relay () (), world)
  | .resolveLaunch resolved =>
      (failIf world.faults.launch (.host "launch cannot be resolved")
        ⟨resolved.spec.id, resolved⟩, world)
  | .getReceipt id =>
      (failIf world.faults.receiptRead (.invalidData "receipt cannot be read")
        (world.storedReceipt id), world)
  | .putReceipt receipt =>
      (failIf world.faults.receiptWrite (.invalidData "receipt cannot be written") (), { world with
          receipts := if world.faults.receiptWrite then world.receipts
            else world.receipts.insert receipt.agentId receipt })
  | .deleteReceipt id =>
      (failIf world.faults.receiptDelete (.invalidData "receipt cannot be removed") (), { world with
          receipts := if world.faults.receiptDelete then world.receipts
            else world.receipts.erase id })
  | .inspect receipt => (failIf world.faults.inspect .io (world.observe receipt), world)
  | .stop receipt =>
      (failIf world.faults.stop .io { receipt with observedState := .exited }, { world with
          processes :=
            if world.faults.stop ∨ world.processes.lookup receipt.pid ≠ some receipt.agentId
            then world.processes
            else world.processes.erase receipt.pid })
  | .start launch =>
      (match world.faults.start with
        | some error => .error error
        | none => .ok (world.startedReceipt launch),
        { world with
          processes :=
            if world.faults.start.isSome then world.processes
            else world.processes.insert world.nextPid launch.agentId
          nextPid := world.nextPid + 1 })
  | .purgeAgentPaths id =>
      (failIf world.faults.removal (.host "agent paths cannot be removed") (),
        { world with directories := world.directories.erase id })
  | .purgeCustody id =>
      (failIf world.faults.custody (.host "custody failed") (), { world with
          custody := if world.faults.custody then world.custody else world.custody.erase id })
  | .removeStateRoot id =>
      (failIf world.faults.removal (.host "state root cannot be removed") (), { world with
          receipts := if world.faults.removal then world.receipts
            else world.receipts.erase id })
  | .leaveScope =>
      ((), { world with
        cached := if thread = .worker then none else world.cached
        reconciled := if thread = .worker then none else world.reconciled
        starting := if thread = .main then [] else world.starting
        serving := if thread = .main then false else world.serving })
  | .serve => ((), { world with serving := true })

end BuzzServer
