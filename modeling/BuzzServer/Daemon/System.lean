/-
This file puts the threads of the daemon together.

Requests are served by threads of their own, as many as there are clients. The
main thread runs the startup loop and, while it serves, the retention sweep.
The worker takes the next item of its queue, or looks after the running agents
when the queue stays empty. Between any two actions a person may edit a file, a
process may exit, time may pass, and what fails may change. A restart loses the
queue and every local variable and begins with the startup loop again.
-/

import BuzzServer.Concurrent.Discipline
import BuzzServer.Daemon.Reconciler

namespace BuzzServer

open Relational Concurrent

/-! ### The main thread -/

def sendWork (work : ReconcileWork) : Task Unit :=
  Fallible.attempt (fun _ => .task "reconciliation worker stopped") (.sendWork work)

/-- One round of the startup loop. -/
def startAgent (agent : AgentSpec) : Task Unit := do
  let _ ← writeBack agent.id agent
  sendWork (.startupAgent agent.id)

def startupLoop : Task Unit := do
  let operations ← Task.store .nonterminalOperations
  Fallible.forEach (fun operation => sendWork (.operation operation.id)) operations
  let agents ← Task.store .listStartupAgents
  Fallible.forEach startAgent agents

/-- The main thread from its start until it serves requests. -/
def startup : Program Action Unit :=
  startupLoop.run.bind fun outcome =>
    match outcome with
    | .ok () => Program.perform .serve
    | .error _ => Program.perform .leaveScope

/-- The principal the retention sweep acts as. -/
def retentionActor : AuthenticatedPrincipal := ⟨.unixPeer 0 0 none, .administrator⟩

def retentionRequest (agentId : AgentId) (deadline attempt : Int) : AgentCommandRequest :=
  ⟨⟨"retention:" ++ agentId.toText ++ ":" ++ toString deadline ++ ":" ++ toString attempt,
    "retention:" ++ agentId.toText ++ ":" ++ toString attempt⟩, agentId⟩

variable (retentionSeconds : Int)

def purgeExpired (agentId : AgentId) : Request Unit := do
  let row ← Request.store (.getAgent .unshared agentId)
  let _ ← Request.found row
  let retention ← Request.store (.agentRetention agentId)
  let deadline := (retention.map AgentRetention.purgeAfter).getD 0
  let attempt ← Request.always .now
  let _ ← purgeAgent retentionSeconds retentionActor (retentionRequest agentId deadline attempt)
  return ()

def enqueueExpiredPurges : Request Unit := do
  let now ← Request.always .now
  let expired ← Request.store (.expiredRetainedAgents now)
  Fallible.forEach (purgeExpired retentionSeconds) expired

/-- One tick of the retention timer. An error ends the main thread. -/
def retentionTick : Program Action Unit :=
  (enqueueExpiredPurges retentionSeconds).run.bind fun outcome =>
    match outcome with
    | .ok () => .done ()
    | .error _ => Program.perform .leaveScope

/-! ### The system -/

/-- What a deployment fixes: the retention period, and whether restarts are considered. -/
structure Setting where
  retentionSeconds : Int
  restarts : Prop

def ReconcileWork.operationId? : ReconcileWork → Option OperationId
  | .operation id => some id
  | .startupAgent _ => none

variable (world : World)

/-- The worker's queue after an item was taken. -/
def World.receive (work : ReconcileWork) (rest : List ReconcileWork) : World :=
  { world with queue := rest, processing := work.operationId? }

/-- The programs a thread may start. -/
inductive Starts (setting : Setting) : Thread → World → Program Action Unit → World → Prop
  | request (number : Nat) (actor : AuthenticatedPrincipal) (request : ApiRequest)
      {world : World} (serving : world.serving = true) :
      Starts setting (.request number) world (request.serve setting.retentionSeconds actor) world
  | retentionTick {world : World} (serving : world.serving = true) :
      Starts setting .main world (retentionTick setting.retentionSeconds) world
  | receive {world : World} {work : ReconcileWork} {rest : List ReconcileWork}
      (queued : world.queue = work :: rest) :
      Starts setting .worker world work.process (world.receive work rest)
  | timeout {world : World} (idle : world.queue = []) :
      Starts setting .worker world observePass { world with processing := none }

/-- What changes without the daemon: files that people edit, processes that exit, the clock,
which does not run backwards, what fails, and the rows of the publication worker. -/
inductive Interference : World → World → Prop
  | files (world : World) (files : Files) : Interference world { world with files := files }
  | exit (world : World) (pid : Nat) :
      Interference world { world with processes := world.processes.erase pid }
  | clock (world : World) (now : Int) (later : world.clock ≤ now) :
      Interference world { world with clock := now }
  | faults (world : World) (faults : Faults) :
      Interference world { world with faults := faults }
  | publications (world : World) (outbox : List RelayPublication)
      (projections : Table (CommunityConfigId × RelayProjectionKind × String) RelayProjectionRow) :
      Interference world { world with
          db := { world.db with
            relayPublicationOutbox := outbox, relayProjectionState := projections } }

/-- What a restart leaves of the world. -/
def World.reboot : World :=
  { world with
    queue := [], serving := false, cached := none, reconciled := none, starting := [],
    processing := none }

/-- The threads after a restart. -/
def bootThreads : Thread → Program Action Unit
  | .main => startup
  | .worker => .done ()
  | .request _ => .done ()

/-- The daemon. -/
def daemon (setting : Setting) : System Thread Action World where
  perform := perform
  starts := Starts setting
  environment := Interference
  restarts := fun world after threads =>
    setting.restarts ∧ after = world.reboot ∧ threads = bootThreads

/-- A store and a host that no agent was ever created on. Communities, drafts, files and
earlier audit records may be there. -/
structure World.Fresh (world : World) : Prop where
  agentSpecs : world.db.agentSpecs = ∅
  agentRetention : world.db.agentRetention = ∅
  operations : world.db.operations = ∅
  idempotencyKeys : world.db.idempotencyKeys = ∅
  tombstones : world.db.purgedAgentTombstones = ∅
  queue : world.queue = []
  cached : world.cached = none
  reconciled : world.reconciled = none
  starting : world.starting = []
  processing : world.processing = none
  processes : world.processes = ∅
  owners : world.owners = ∅
  accepted : world.accepted = []

/-- A pool in which no thread runs a program. -/
def idlePool : Pool Thread Action World := ⟨world, fun _ => .done ()⟩

/-- The pools the daemon can reach from a fresh world by admitted actions. -/
def Reachable (setting : Setting) (admits : Condition Thread Action World)
    (pool : Pool Thread Action World) : Prop :=
  ∃ world : World, world.Fresh ∧ (daemon setting).Reaches admits (idlePool world) pool

end BuzzServer
