/-
This file says once what each action can do to the part of the world that the
lifecycle properties speak about.

That part, the core, is the tables of agents, retention rows, operations, keys
and tombstones, the receipts and processes, and the local variables of the
worker and the startup loop. Most actions, and every action that fails, leave
the core alone. `Effect` lists the others, each with what made it possible, and
`perform_effect` is the inversion that every invariant is proved from.
-/

import BuzzServer.Daemon.System
import BuzzServer.Storage.Effects

namespace BuzzServer

open Relational Concurrent BuzzServer.SqliteStore

/-- Two worlds with the same core. Identifiers may have been drawn, communities added and
drafts written. -/
structure World.SameCore (before after : World) : Prop where
  tables : before.db.SameLifecycle after.db
  receipts : after.receipts = before.receipts
  processes : after.processes = before.processes
  cached : after.cached = before.cached
  reconciled : after.reconciled = before.reconciled
  starting : after.starting = before.starting
  processing : after.processing = before.processing
  owners : after.owners = before.owners
  accepted : after.accepted = before.accepted
  nextUuid : before.nextUuid ≤ after.nextUuid

theorem World.SameCore.refl (world : World) : world.SameCore world where
  tables := Database.SameLifecycle.refl world.db
  receipts := rfl
  processes := rfl
  cached := rfl
  reconciled := rfl
  starting := rfl
  processing := rfl
  owners := rfl
  accepted := rfl
  nextUuid := Nat.le_refl _

theorem World.sameCore_files (world : World) (files : Files) :
    world.SameCore { world with files := files } :=
  { World.SameCore.refl world with }

/-- What an action can do to the core. -/
inductive Effect (thread : Thread) (before : World) :
    ∀ ⦃Response : Type⦄, Action Response → World → Prop where
  | quiet {Response : Type} {action : Action Response} {after : World}
      (same : before.SameCore after) : Effect thread before action after
  | drawAgentId :
      Effect thread before .newAgentId { before with
          nextUuid := before.nextUuid + 1
          owners := before.owners.insert before.nextUuid thread }
  | readCached {id : AgentId} {agent : AgentSpec} (worker : thread = .worker)
      (found : before.db.agentSpecs.lookup id = some agent) :
      Effect thread before (.getAgent .cached id) { before with cached := some agent }
  | readReconciled {id : AgentId} {agent : AgentSpec} (worker : thread = .worker)
      (found : before.db.agentSpecs.lookup id = some agent) :
      Effect thread before (.getAgent .reconciled id) { before with reconciled := some agent }
  | putAgent {spec : AgentSpec} (known : spec.communityConfigId ∈ before.db.communityConfigs) :
      Effect thread before (.putAgent spec) { before with
          db := { before.db with agentSpecs := before.db.agentSpecs.insert spec.id spec }
          cached := if thread = .worker then none else before.cached
          starting := if thread = .main then before.starting.tail else before.starting }
  | dropAgent {spec : AgentSpec} :
      Effect thread before (.putAgent spec) { before with
          cached := if thread = .worker then none else before.cached
          starting := if thread = .main then before.starting.tail else before.starting }
  | listStartupAgents (main : thread = .main) :
      Effect thread before .listStartupAgents { before with starting := listAgents none before.db }
  | removeCommunity {id : CommunityConfigId} {now : Int} {ids : List AgentId}
      {removed : Database} {outbox : List RelayPublication}
      (checked : checkDeletedAgents id before.db (listAgents (some id) before.db) = .ok ids)
      (removal : Database.Removal (before.nextUuid + ids.length) ids before.db removed) :
      Effect thread before (.deleteCommunityWithDeletedAgents id now) { before with
          db := { removed with
            relayPublicationOutbox := outbox
            communityConfigs := removed.communityConfigs.erase id }
          nextUuid := before.nextUuid + ids.length }
  | acceptCommand {command : AgentCommand} (acceptable : command.Acceptable before.db) :
      Effect thread before (.applyAgentCommand command) { before with
          db := command.commit before.db
          accepted := before.accepted ++ [command] }
  | transition {id : OperationId} {next : OperationStatus} {errorCode : Option ErrorCode}
      {now : Int} {operation : DurableOperation}
      (found : before.db.operations.lookup id = some operation)
      (allowed : operation.status.canTransitionTo next = true) :
      Effect thread before (.transitionOperation id next errorCode now) { before with
          db := { before.db with
            operations := before.db.operations.insert id
              { operation with status := next, errorCode := errorCode, updatedAt := now } } }
  | completePurge {agentId : AgentId} {id : OperationId} {now : Int} {audit : NewAuditRecord}
      {operation : DurableOperation} {agent : AgentSpec} {removed : Database}
      (found : before.db.operations.lookup id = some operation)
      (names : operation.agentId = some agentId) (kind : operation.kind = .purgeAgent)
      (allowed : operation.status.canTransitionTo .succeeded = true)
      (present : before.db.agentSpecs.lookup agentId = some agent)
      (marked : agent.desiredState = .deleted)
      (removal : Database.Removal 0 [agentId] { before.db with
          operations := before.db.operations.insert id
            { operation with status := .succeeded, errorCode := none, updatedAt := now }
          auditRecords := before.db.auditRecords ++ [audit] } removed) :
      Effect thread before (.completePurge agentId id now audit) { before with db := removed }
  | putReceipt {receipt : ProcessReceipt} :
      Effect thread before (.putReceipt receipt)
        { before with receipts := before.receipts.insert receipt.agentId receipt }
  | deleteReceipt {id : AgentId} :
      Effect thread before (.deleteReceipt id) { before with receipts := before.receipts.erase id }
  | stop {receipt : ProcessReceipt} :
      Effect thread before (.stop receipt)
        { before with processes := before.processes.erase receipt.pid }
  | start {launch : LaunchSpec} :
      Effect thread before (.start launch) { before with
          processes := before.processes.insert before.nextPid launch.agentId
          nextPid := before.nextPid + 1 }
  | removeStateRoot {id : AgentId} :
      Effect thread before (.removeStateRoot id)
        { before with receipts := before.receipts.erase id }
  | leaveScope :
      Effect thread before .leaveScope { before with
          cached := if thread = .worker then none else before.cached
          reconciled := if thread = .worker then none else before.reconciled
          starting := if thread = .main then [] else before.starting
          serving := if thread = .main then false else before.serving }

/-! ### The inversion -/

section

variable {Result : Type} {world : World}
  {call : Database → Except StorageError Result × Database}

theorem World.method_cases (world : World)
    (call : Database → Except StorageError Result × Database) :
    (∃ error, world.method call = (.error error, world.db)) ∨
      world.method call = call world.db := by
  unfold World.method
  split
  · exact .inl ⟨_, rfl⟩
  · exact .inr rfl

/-- A call of a method that fails without a trace or gets done. -/
theorem World.method_cases_of {Done : Prop}
    (cases : (∃ error, call world.db = (.error error, world.db)) ∨ Done) :
    (∃ error, world.method call = (.error error, world.db)) ∨
      world.method call = call world.db ∧ Done := by
  rcases world.method_cases call with failed | same
  · exact .inl failed
  · rw [same]
    exact cases.imp_right fun done => ⟨rfl, done⟩

variable {written : Option CommunityConfig} {audited : Option NewAuditRecord}

theorem World.method_aside
    (aside : ∀ database : Database, database.Aside written audited (call database).2) :
    world.db.Aside written audited (world.method call).2 := by
  rcases world.method_cases call with ⟨error, failed⟩ | same
  · rw [failed]
    exact .nothing
  · rw [same]
    exact aside world.db

/-- A store call that keeps the lifecycle tables leaves the core alone. -/
theorem World.sameCore_method
    (aside : ∀ database : Database, database.Aside written audited (call database).2) :
    world.SameCore { world with db := (world.method call).2 } :=
  { World.SameCore.refl world with tables := (World.method_aside aside).sameLifecycle }

end

section

variable (thread : Thread) (world : World)

theorem getAgent_effect (slot : AgentSlot) (id : AgentId) :
    Effect thread world (.getAgent slot id) (perform thread (.getAgent slot id) world).2 := by
  simp only [perform]
  cases read : world.query fun db => db.agentSpecs.lookup id with
  | error error => exact .quiet { World.SameCore.refl world with }
  | ok row =>
    cases row with
    | none => exact .quiet { World.SameCore.refl world with }
    | some agent =>
      have found : world.db.agentSpecs.lookup id = some agent := by
        unfold World.query at read
        split at read
        · cases read
        · exact Except.ok.inj read
      by_cases worker : thread = .worker
      · cases slot with
        | unshared =>
          exact .quiet { World.SameCore.refl world with
            cached := if_neg (by simp), reconciled := if_neg (by simp) }
        | cached =>
          simp only [worker]
          exact .readCached rfl found
        | reconciled =>
          simp only [worker]
          exact .readReconciled rfl found
      · exact .quiet { World.SameCore.refl world with
          cached := if_neg (by simp [worker]), reconciled := if_neg (by simp [worker]) }

theorem putAgent_effect (spec : AgentSpec) :
    Effect thread world (.putAgent spec) (perform thread (.putAgent spec) world).2 := by
  simp only [perform]
  rcases World.method_cases_of (putAgent_cases world.faults.writes world.db spec) with
    ⟨error, failed⟩ | ⟨same, known, done⟩
  · rw [failed]
    exact .dropAgent
  · rw [same, done]
    exact .putAgent known

theorem deleteCommunity_effect (id : CommunityConfigId) (now : Int) :
    Effect thread world (.deleteCommunityWithDeletedAgents id now)
      (perform thread (.deleteCommunityWithDeletedAgents id now) world).2 := by
  simp only [perform]
  rcases World.method_cases_of (deleteCommunityWithDeletedAgents_cases world.faults.writes
      world.db id now world.nextUuid) with
    ⟨error, failed⟩ | ⟨same, ids, removed, outbox, -, checked, removal, -, done⟩
  · rw [failed]
    exact .quiet { World.SameCore.refl world with nextUuid := Nat.le_add_right _ _ }
  · have drawn : (listAgents (some id) world.db).length = ids.length := by
      rw [(checkDeletedAgents_ok checked).1, List.length_map]
    rw [same, done, drawn]
    exact .removeCommunity checked removal

theorem applyAgentCommand_effect (command : AgentCommand) :
    Effect thread world (.applyAgentCommand command)
      (perform thread (.applyAgentCommand command) world).2 := by
  simp only [perform]
  rcases World.method_cases_of (applyAgentCommand_cases world.faults.writes command world.db) with
    ⟨error, failed⟩ | ⟨same, ⟨row, existing, -, -, -, replayed⟩ | ⟨acceptable, accepted⟩⟩
  · rw [failed]
    exact .quiet (World.SameCore.refl world)
  · rw [same, replayed]
    exact .quiet (World.SameCore.refl world)
  · rw [same, accepted]
    exact .acceptCommand acceptable

theorem transitionOperation_effect (id : OperationId) (next : OperationStatus)
    (errorCode : Option ErrorCode) (now : Int) :
    Effect thread world (.transitionOperation id next errorCode now)
      (perform thread (.transitionOperation id next errorCode now) world).2 := by
  simp only [perform]
  rcases World.method_cases_of (transitionOperation_cases world.faults.writes world.db id next
      errorCode now) with ⟨error, failed⟩ | ⟨same, operation, found, allowed, done⟩
  · rw [failed]
    exact .quiet (World.SameCore.refl world)
  · rw [same, done]
    exact .transition found allowed

theorem completePurge_effect (agentId : AgentId) (id : OperationId) (now : Int)
    (audit : NewAuditRecord) :
    Effect thread world (.completePurge agentId id now audit)
      (perform thread (.completePurge agentId id now audit) world).2 := by
  simp only [perform]
  rcases World.method_cases_of (completePurge_cases world.faults.writes world.db agentId id now
      audit) with ⟨error, failed⟩ | ⟨same, operation, agent, after, found, names, kind, allowed,
        present, marked, removal, -, done⟩
  · rw [failed]
    exact .quiet (World.SameCore.refl world)
  · rw [same, done]
    exact .completePurge found names kind allowed present marked removal

/-- The core after any action of any thread. -/
theorem perform_effect ⦃Response : Type⦄ (action : Action Response) :
    Effect thread world action (perform thread action world).2 := by
  cases action with
  | newAgentId => exact .drawAgentId
  | newOperationId | newDraftId | newCommunityId =>
    exact .quiet { World.SameCore.refl world with nextUuid := Nat.le_succ _ }
  | getAgent slot id => exact getAgent_effect thread world slot id
  | putAgent spec => exact putAgent_effect thread world spec
  | listStartupAgents =>
    simp only [perform]
    split
    · next main => exact .listStartupAgents main.1
    · exact .quiet (World.SameCore.refl world)
  | putCommunity config =>
    exact .quiet (World.sameCore_method fun database => putCommunity_aside _ database config)
  | deleteCommunityWithDeletedAgents id now => exact deleteCommunity_effect thread world id now
  | applyAgentCommand command => exact applyAgentCommand_effect thread world command
  | transitionOperation id next errorCode now =>
    exact transitionOperation_effect thread world id next errorCode now
  | appendAudit record =>
    exact .quiet (World.sameCore_method fun database => appendAudit_aside _ database record)
  | completePurge agentId id now audit =>
    exact completePurge_effect thread world agentId id now audit
  | applyDraftCommand draft scope key hash audit =>
    exact .quiet (World.sameCore_method fun database =>
      applyDraftCommand_aside _ database draft scope key hash audit)
  | recordRelayProjection kind subjectId scope =>
    exact .quiet (World.sameCore_method fun database =>
      recordRelayProjection_aside _ database kind subjectId scope)
  | enqueueRelayPublication publication =>
    exact .quiet (World.sameCore_method fun database =>
      enqueueRelayPublication_aside _ database publication)
  | putReceipt receipt =>
    simp only [perform]
    split
    · exact .quiet (World.SameCore.refl world)
    · exact .putReceipt
  | deleteReceipt id =>
    simp only [perform]
    split
    · exact .quiet (World.SameCore.refl world)
    · exact .deleteReceipt
  | stop receipt =>
    simp only [perform]
    split
    · exact .quiet (World.SameCore.refl world)
    · exact .stop
  | start launch =>
    simp only [perform]
    split
    · exact .quiet { World.SameCore.refl world with }
    · exact .start
  | removeStateRoot id =>
    simp only [perform]
    split
    · exact .quiet (World.SameCore.refl world)
    · exact .removeStateRoot
  | leaveScope => exact .leaveScope
  | writeAgentFile file =>
    exact .quiet (World.sameCore_files world _)
  | _ => exact .quiet { World.SameCore.refl world with }

end

/-- No action takes an identifier back. -/
theorem Effect.nextUuid_le {thread : Thread} {before after : World} {Response : Type}
    {action : Action Response} (effect : Effect thread before action after) :
    before.nextUuid ≤ after.nextUuid := by
  cases effect with
  | quiet same => exact same.nextUuid
  | drawAgentId => exact Nat.le_succ _
  | removeCommunity _ _ => exact Nat.le_add_right _ _
  | _ => exact Nat.le_refl _

/-! ### Calls that fail -/

theorem transitionOperation_unchanged (thread : Thread) (world : World) (id : OperationId)
    (next : OperationStatus) (errorCode : Option ErrorCode) (now : Int) (error : StorageError)
    (failed : (perform thread (.transitionOperation id next errorCode now) world).1 =
      .error error) :
    (perform thread (.transitionOperation id next errorCode now) world).2.db = world.db := by
  simp only [perform] at failed ⊢
  rcases World.method_cases_of (transitionOperation_cases world.faults.writes world.db id next
      errorCode now) with ⟨_, refused⟩ | ⟨same, _, -, -, done⟩
  · rw [refused]
  · rw [same, done] at failed
    cases failed

theorem completePurge_unchanged (thread : Thread) (world : World) (agentId : AgentId)
    (id : OperationId) (now : Int) (audit : NewAuditRecord) (error : StorageError)
    (failed : (perform thread (.completePurge agentId id now audit) world).1 = .error error) :
    (perform thread (.completePurge agentId id now audit) world).2.db = world.db := by
  simp only [perform] at failed ⊢
  rcases World.method_cases_of (completePurge_cases world.faults.writes world.db agentId id now
      audit) with ⟨_, refused⟩ | ⟨same, _, _, _, -, -, -, -, -, -, -, -, done⟩
  · rw [refused]
  · rw [same, done] at failed
    cases failed

end BuzzServer
