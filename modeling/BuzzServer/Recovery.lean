/-
This file is about purges that fail.

The retention sweep tries a purge again as long as the agent has a retention
row. A purge marks its agent as deleted without writing such a row, so an agent
that was never deleted before has only the purge operation to speak for it.
Once that operation has failed, the agent is deleted for good and nothing ever
tries to remove it.
-/

import BuzzServer.Retention

namespace BuzzServer

open Relational Concurrent Table

/-! ### Failures that leave a way back -/

/-- A purge of the agent other than the given operation is not over. -/
def Database.OtherPurgePending (database : Database) (id : OperationId) (agentId : AgentId) :
    Prop :=
  ∃ other operation, other ≠ id ∧ database.operations.lookup other = some operation ∧
    operation.kind = .purgeAgent ∧ operation.status.isTerminal = false ∧
      operation.agentId = some agentId

/-- A purge ends without success only if its agent is retained, has another purge pending, or
is not deleted any more. -/
def RecoverableFailures (state : LifecycleState) : LifecycleCall → Prop
  | .complete _ id status _ _ _ =>
      status ≠ .succeeded → ∀ operation agentId,
        state.database.operations.lookup id = some operation → operation.kind = .purgeAgent →
          operation.agentId = some agentId → agentId ∈ state.database.agentRetention ∨
              state.database.OtherPurgePending id agentId ∨
                ∀ agent, state.database.agentSpecs.lookup agentId = some agent →
                  agent.desiredState ≠ .deleted
  | _ => True

/-- Every deleted agent is retained or about to be purged. -/
structure LifecycleState.Recoverable (state : LifecycleState) : Prop where
  keyed : KeyedById state.database.agentSpecs
  deleted : ∀ id agent, state.database.agentSpecs.lookup id = some agent →
    agent.desiredState = .deleted →
      id ∈ state.database.agentRetention ∨ state.database.PurgePending id

variable {database : Database} {id : AgentId}

section

variable {state : LifecycleState}

/-- A command leaves the purges pending that are. -/
theorem AgentCommand.Acceptable.purgePending {command : AgentCommand}
    (acceptable : command.Acceptable database)
    (pending : database.PurgePending id) : (command.commit database).PurgePending id := by
  obtain ⟨operationId, operation, found, waits⟩ := pending
  refine ⟨operationId, operation, ?_, waits⟩
  show (database.operations.insert command.operation.id command.operation).lookup _ = _
  rw [lookup_insert_eq, if_neg]
  · exact found
  · rintro rfl
    exact acceptable.operationFresh (mem_of_lookup found)

variable {submitted : LifecycleCommand}

/-- A command that leaves its target deleted without having found it so is a delete, which
retains it, or a purge, which is pending. -/
theorem LifecycleCommand.marks
    {deadline : Option Int} (acceptable : submitted.command.Acceptable state.database)
    (mutation : submitted.command.mutation = .setState id .deleted deadline) :
    id ∈ (submitted.command.commit state.database).agentRetention ∨
      (submitted.command.commit state.database).PurgePending id := by
  have corresponds := acceptable.corresponds
  have applicable := acceptable.applicable
  rw [mutation] at corresponds applicable
  have expected := corresponds.1
  cases kind : submitted.command.operation.kind with
  | deleteAgent =>
    left
    show id ∈ submitted.command.mutation.retention submitted.command.operation _
    obtain ⟨purgeAfter, given⟩ := Option.isSome_iff_exists.mp (applicable.2 kind)
    rw [mutation, given]
    simp only [AgentCommandMutation.retention, kind]
    exact (AList.mem_insert _).mpr (.inl rfl)
  | purgeAgent =>
    right
    refine ⟨submitted.command.operation.id, submitted.command.operation, ?_, kind, ?_,
      corresponds.2⟩
    · exact AList.lookup_insert _
    · rw [submitted.pending]
      rfl
  | _ => simp [kind, OperationKind.expectedState] at expected

theorem LifecycleState.Recoverable.accept (recoverable : state.Recoverable)
    (acceptable : submitted.command.Acceptable state.database) :
    LifecycleState.Recoverable
      ⟨submitted.command.commit state.database, state.accepted ++ [submitted.command]⟩ where
  keyed := submitted.command.mutation.keyedById_agents recoverable.keyed
  deleted := by
    intro id agent found marked
    change (submitted.command.mutation.agents state.database.agentSpecs).lookup id = _ at found
    rw [submitted.command.mutation.lookup_agents recoverable.keyed] at found
    by_cases same : id = submitted.command.mutation.target
    · rw [if_pos same] at found
      cases mutation : submitted.command.mutation with
      | create created =>
        rw [mutation] at found
        cases found
        rw [submitted.enabled _ mutation] at marked
        cases marked
      | update target changes =>
        rw [mutation] at found
        obtain ⟨earlier, present, rfl⟩ := Option.map_eq_some_iff.mp found
        rcases recoverable.deleted id earlier present marked with retained | pending
        · left
          show id ∈ submitted.command.mutation.retention submitted.command.operation _
          rw [mutation]
          exact retained
        · exact .inr (acceptable.purgePending pending)
      | setState target desiredState deadline =>
        rw [mutation] at found same
        obtain ⟨earlier, present, rfl⟩ := Option.map_eq_some_iff.mp found
        obtain rfl : desiredState = .deleted := marked
        obtain rfl : id = target := same
        exact submitted.marks acceptable mutation
    · rw [if_neg same] at found
      exact (recoverable.deleted id agent found marked).imp
        (submitted.command.mutation.mem_retention_of_ne same) acceptable.purgePending

variable {id : OperationId} {operation : DurableOperation}

/-- A change of status that leaves the operation open leaves the purges pending. -/
theorem Database.PurgePending.transition {agentId : AgentId}
    (pending : database.PurgePending agentId)
    (status : OperationStatus) (errorCode : Option ErrorCode) (now : Int)
    (found : database.operations.lookup id = some operation)
    (stays : status.isTerminal = false ∨ database.OtherPurgePending id agentId ∨
      operation.kind ≠ .purgeAgent ∨ operation.agentId ≠ some agentId) :
    { database with
      operations := database.operations.insert id { operation with
          status := status, errorCode := errorCode, updatedAt := now } :
            Database }.PurgePending agentId := by
  have others : ∀ other row, other ≠ id → database.operations.lookup other = some row →
      (database.operations.insert id { operation with
        status := status, errorCode := errorCode, updatedAt := now }).lookup other = some row := by
    intro other row different present
    rw [lookup_insert_eq, if_neg different]
    exact present
  obtain ⟨waiting, row, present, purge, unfinished, names⟩ := pending
  by_cases same : waiting = id
  · subst same
    obtain rfl : operation = row := Option.some.inj (found.symm.trans present)
    rcases stays with still | ⟨other, row, different, kept, waits⟩ | changed | unnamed
    · exact ⟨waiting, _, AList.lookup_insert _, purge, still, names⟩
    · exact ⟨other, row, others other row different kept, waits⟩
    · exact absurd purge changed
    · exact absurd names unnamed
  · exact ⟨waiting, row, others waiting row same present, purge, unfinished, names⟩

theorem LifecycleState.Recoverable.complete
    {status : OperationStatus} {errorCode : Option ErrorCode} {now : Int}
    (recoverable : state.Recoverable)
    (found : state.database.operations.lookup id = some operation)
    (stays : ∀ agentId, operation.kind = .purgeAgent → operation.agentId = some agentId →
      status.isTerminal = false ∨ agentId ∈ state.database.agentRetention ∨
        state.database.OtherPurgePending id agentId ∨
          ∀ agent, state.database.agentSpecs.lookup agentId = some agent →
            agent.desiredState ≠ .deleted) :
    LifecycleState.Recoverable ⟨{ state.database with
          operations := state.database.operations.insert id
            { operation with status := status, errorCode := errorCode, updatedAt := now } },
        state.accepted⟩ where
  keyed := recoverable.keyed
  deleted := by
    intro agentId agent present marked
    rcases recoverable.deleted agentId agent present marked with retained | pending
    · exact .inl retained
    · by_cases concerned : operation.kind = .purgeAgent ∧ operation.agentId = some agentId
      · rcases stays agentId concerned.1 concerned.2 with still | retained | other | changed
        · exact .inr (pending.transition _ _ _ found (.inl still))
        · exact .inl retained
        · exact .inr (pending.transition _ _ _ found (.inr (.inl other)))
        · exact absurd marked (changed agent present)
      · refine .inr (pending.transition _ _ _ found (.inr (.inr ?_)))
        exact not_and_or.mp concerned

theorem LifecycleState.Recoverable.purge
    {agentId : AgentId} {now : Int} {audit : NewAuditRecord} {removed : Database}
    (recoverable : state.Recoverable)
    (found : state.database.operations.lookup id = some operation)
    (names : operation.agentId = some agentId)
    (removal : Database.Removal 0 [agentId] { state.database with
        operations := state.database.operations.insert id
          { operation with status := .succeeded, errorCode := none, updatedAt := now }
        auditRecords := state.database.auditRecords ++ [audit] } removed) :
    LifecycleState.Recoverable ⟨removed, state.accepted⟩ where
  keyed := fun id agent present => recoverable.keyed id agent (rows_of_removal removal present)
  deleted := by
    intro other agent present marked
    have earlier : state.database.agentSpecs.lookup other = some agent :=
      rows_of_removal removal present
    have remains : other ∉ [agentId] := by
      intro gone
      rw [removal.agents, if_pos gone] at present
      cases present
    have different : agentId ≠ other := fun same => remains (List.mem_singleton.mpr same.symm)
    rcases recoverable.deleted other agent earlier marked with retained | pending
    · obtain ⟨row, kept⟩ := exists_lookup_of_mem retained
      exact .inl (mem_of_lookup ((removal.retention other).trans ((if_neg remains).trans kept)))
    · have between := pending.transition .succeeded none now found
        (.inr (.inr (.inr fun same => different (Option.some.inj (names.symm.trans same)))))
      obtain ⟨waiting, row, kept, purge, unfinished, owner⟩ := between
      refine .inr ⟨waiting, row.forget [agentId], removal.kept waiting row kept, purge,
        unfinished, ?_⟩
      simp [DurableOperation.forget, owner, Ne.symm different]

theorem recoverable_apply (call : LifecycleCall) (met : RecoverableFailures state call)
    (recoverable : state.Recoverable) : (call.apply state).Recoverable := by
  have effect := call.apply_effect state
  generalize call.apply state = after at effect ⊢
  cases effect with
  | none => exact recoverable
  | command acceptable => exact recoverable.accept acceptable
  | start found allowed => exact recoverable.complete found fun _ _ _ => .inl rfl
  | complete found other =>
    refine recoverable.complete found fun agentId purge names => .inr ?_
    exact met (fun succeeded => other ⟨succeeded, purge⟩) _ agentId found purge names
  | purge found names removal => exact recoverable.purge found names removal

end

theorem emptyStore_recoverable (base : Database) : (emptyStore base).Recoverable where
  keyed := fun _ _ found => by simp [emptyStore] at found
  deleted := fun _ _ found => by simp [emptyStore] at found

/-- If no purge fails without a way back, every deleted agent is the target of a pending purge,
or is retained and comes up in the sweep once its time has passed. -/
theorem deleted_recoverable (base : Database) (calls : List LifecycleCall)
    (met : Along RecoverableFailures (emptyStore base) calls) (id : AgentId) (agent : AgentSpec)
    (found : ((emptyStore base).after calls).database.agentSpecs.lookup id = some agent)
    (marked : agent.desiredState = .deleted) :
    (id ∈ ((emptyStore base).after calls).database.agentRetention ∧
      ∃ deadline, ∀ now, deadline ≤ now → id ∈ SqliteStore.expiredRetainedAgents now
          ((emptyStore base).after calls).database) ∨
      ((emptyStore base).after calls).database.PurgePending id := by
  have recoverable := met.invariant (fun _ => recoverable_apply) (emptyStore_recoverable base)
  rcases recoverable.deleted id agent found marked with retained | pending
  · obtain ⟨row, kept⟩ := Table.exists_lookup_of_mem retained
    exact .inl ⟨retained, row.purgeAfter, fun now due =>
      SqliteStore.mem_expiredRetainedAgents.mpr ⟨row, kept, due⟩⟩
  · exact .inr pending

/-! ### Both kinds of histories -/

/-- Whether no purge of the agent is pending. -/
def Database.purgesOver (database : Database) (id : AgentId) : Bool :=
  database.operations.rows.all fun operation =>
    !decide (operation.kind = .purgeAgent) || operation.status.isTerminal ||
      !decide (operation.agentId = some id)

theorem Database.not_purgePending
    (ended : database.purgesOver id = true) : ¬database.PurgePending id := by
  rintro ⟨operationId, operation, found, purge, unfinished, names⟩
  have row := List.all_eq_true.mp ended operation (mem_rows.mpr ⟨operationId, found⟩)
  simp [purge, unfinished, names] at row

namespace Deployment

def failingPurge (number : Nat) : List LifecycleCall :=
  [.start (fun _ => false) ⟨number⟩ 0,
    .complete (fun _ => false) ⟨number⟩ .failed (some .internal) 0
      { occurredAt := 0
        actorPrincipal := .reconciler
        authenticationMethod := "internal"
        communityConfigId := none
        operationId := some ⟨number⟩
        correlationId := "c"
        idempotencyKey := none
        action := "operation.complete"
        subjectType := "agent"
        subjectId := none
        outcome := "failed"
        redactedDetail := none }]

/-- An agent that runs is purged, and the purge fails. -/
def purgedAtOnce : List LifecycleCall :=
  [createCall, stateCall "k2" 3 .purgeAgent .deleted none] ++ failingPurge 3

/-- An agent is deleted first. -/
def purgedAfterDelete : List LifecycleCall :=
  [createCall, stateCall "k2" 3 .deleteAgent .deleted (some 100),
    stateCall "k3" 4 .purgeAgent .deleted none] ++ failingPurge 4

end Deployment

/-- The agent is deleted, not retained, and nothing is left that would remove it. -/
theorem deleted_stranded : (((emptyStore Deployment.host.db).after
        Deployment.purgedAtOnce).database.agentSpecs.lookup ⟨1⟩).map AgentSpec.desiredState =
          some .deleted ∧
      (⟨1⟩ : AgentId) ∉ ((emptyStore Deployment.host.db).after
        Deployment.purgedAtOnce).database.agentRetention ∧
      ¬((emptyStore Deployment.host.db).after
        Deployment.purgedAtOnce).database.PurgePending ⟨1⟩ := by
  refine ⟨?_, ?_, Database.not_purgePending ?_⟩
  all_goals decide +kernel

theorem deleted_purgedAfterDelete : ∃ agent, ((emptyStore Deployment.host.db).after
        Deployment.purgedAfterDelete).database.agentSpecs.lookup ⟨1⟩ = some agent ∧
      agent.desiredState = .deleted ∧
      (((⟨1⟩ : AgentId) ∈ ((emptyStore Deployment.host.db).after
          Deployment.purgedAfterDelete).database.agentRetention ∧
        ∃ deadline, ∀ now, deadline ≤ now → (⟨1⟩ : AgentId) ∈ SqliteStore.expiredRetainedAgents now
            ((emptyStore Deployment.host.db).after Deployment.purgedAfterDelete).database) ∨
        ((emptyStore Deployment.host.db).after
          Deployment.purgedAfterDelete).database.PurgePending ⟨1⟩) := by
  have state : (((emptyStore Deployment.host.db).after
      Deployment.purgedAfterDelete).database.agentSpecs.lookup ⟨1⟩).map
        AgentSpec.desiredState = some .deleted := by decide +kernel
  obtain ⟨agent, found, marked⟩ := Option.map_eq_some_iff.mp state
  refine ⟨agent, found, marked, deleted_recoverable Deployment.host.db
    Deployment.purgedAfterDelete ?_ ⟨1⟩ agent found marked⟩
  refine ⟨trivial, trivial, trivial, trivial, fun _ operation agentId present _ names => ?_,
    trivial⟩
  have owner : Option.bind (some operation) DurableOperation.agentId = some ⟨1⟩ := by
    rw [← present]
    decide +kernel
  obtain rfl : agentId = ⟨1⟩ := Option.some.inj (names.symm.trans owner)
  left
  decide +kernel

end BuzzServer
