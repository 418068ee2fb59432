/-
This file is about the retention rows that let deleted agents come back, and
let the retention sweep purge them later.

A delete writes the row and an enable removes it; a disable and a purge leave it
as it is. So an agent that was deleted and then disabled keeps its row, and the
sweep will purge it although it was told to stay. This is stated over every
history of store calls that the lifecycle commands and the worker make, except
for the row the worker puts back from an older read: `put_agent` can enable or
disable an agent and leaves its retention row alone.
-/

import BuzzServer.DesiredState
import BuzzServer.Purge

namespace BuzzServer

open Relational Concurrent Concurrent.Fallible BuzzServer.SqliteStore Request

/-! ### Histories -/

/-- A command as the lifecycle submits it: its operation is pending, and a new agent is
enabled. -/
structure LifecycleCommand where
  command : AgentCommand
  pending : command.operation.status = .pending
  enabled : ∀ agent, command.mutation = .create agent → agent.desiredState = .enabled

/-- The store calls of the lifecycle: a command, the worker claiming an operation, and the
worker completing one. -/
inductive LifecycleCall where
  | command (faults : WriteFaults) (submitted : LifecycleCommand)
  | start (faults : WriteFaults) (id : OperationId) (now : Int)
  | complete (faults : WriteFaults) (id : OperationId) (status : OperationStatus)
      (errorCode : Option ErrorCode) (now : Int) (audit : NewAuditRecord)

/-- The tables, and the commands that were accepted so far in commit order. -/
structure LifecycleState where
  database : Database
  accepted : List AgentCommand

/-- What `complete_operation` does to the tables: a purge that succeeded is completed with the
removal of its agent, everything else is a change of status. -/
def completed (faults : WriteFaults) (id : OperationId) (status : OperationStatus)
    (errorCode : Option ErrorCode) (now : Int) (audit : NewAuditRecord) (database : Database) :
    Database :=
  if status.isTerminal = false then database
  else
    match database.operations.lookup id with
    | none => database
    | some operation =>
        if status = .succeeded ∧ operation.kind = .purgeAgent then
          match operation.agentId with
          | none => database
          | some agentId =>
              (completePurge faults agentId id now audit database).2
        else (transitionOperation faults id status errorCode now database).2

def LifecycleCall.apply (state : LifecycleState) : LifecycleCall → LifecycleState
  | .command faults submitted =>
      match applyAgentCommand faults submitted.command state.database with
      | (.ok (_, false), changed) => ⟨changed, state.accepted ++ [submitted.command]⟩
      | (_, changed) => ⟨changed, state.accepted⟩
  | .start faults id now =>
      ⟨(transitionOperation faults id .running none now state.database).2, state.accepted⟩
  | .complete faults id status errorCode now audit =>
      ⟨completed faults id status errorCode now audit state.database, state.accepted⟩

/-- A store on which no agent was ever created. Communities and drafts may be there. -/
def emptyStore (base : Database) : LifecycleState :=
  ⟨{ base with agentSpecs := ∅, agentRetention := ∅, operations := ∅, idempotencyKeys := ∅ }, []⟩

/-- The state after a history of calls. -/
def LifecycleState.after (state : LifecycleState) (calls : List LifecycleCall) : LifecycleState :=
  calls.foldl LifecycleCall.apply state

/-- Each call of a history meets a condition on the state it is made in. -/
def Along (condition : LifecycleState → LifecycleCall → Prop) :
    LifecycleState → List LifecycleCall → Prop
  | _, [] => True
  | state, call :: rest => condition state call ∧ Along condition (call.apply state) rest

theorem Along.invariant {condition : LifecycleState → LifecycleCall → Prop}
    {property : LifecycleState → Prop}
    (step : ∀ state call, condition state call → property state → property (call.apply state))
    {state : LifecycleState} {calls : List LifecycleCall} (met : Along condition state calls)
    (initially : property state) : property (state.after calls) := by
  induction calls generalizing state with
  | nil => exact initially
  | cons call rest inductionHypothesis =>
    exact inductionHypothesis met.2 (step state call met.1 initially)

/-! ### What a call can change -/

/-- The effects a call can have: none, an accepted command, a change of status, or the removal
of a purged agent. -/
inductive LifecycleCall.Effect (state : LifecycleState) : LifecycleCall → LifecycleState → Prop
  | none (call : LifecycleCall) : Effect state call state
  | command {faults : WriteFaults} {submitted : LifecycleCommand}
      (acceptable : submitted.command.Acceptable state.database) :
      Effect state (.command faults submitted)
        ⟨submitted.command.commit state.database, state.accepted ++ [submitted.command]⟩
  | start {faults : WriteFaults} {id : OperationId} {now : Int} {operation : DurableOperation}
      (found : state.database.operations.lookup id = some operation)
      (allowed : operation.status.canTransitionTo .running = true) :
      Effect state (.start faults id now) ⟨{ state.database with
            operations := state.database.operations.insert id
              { operation with status := .running, errorCode := Option.none, updatedAt := now } },
          state.accepted⟩
  | complete {faults : WriteFaults} {id : OperationId} {status : OperationStatus}
      {errorCode : Option ErrorCode} {now : Int} {audit : NewAuditRecord}
      {operation : DurableOperation}
      (found : state.database.operations.lookup id = some operation)
      (other : ¬(status = .succeeded ∧ operation.kind = .purgeAgent)) :
      Effect state (.complete faults id status errorCode now audit) ⟨{ state.database with
            operations := state.database.operations.insert id
              { operation with status := status, errorCode := errorCode, updatedAt := now } },
          state.accepted⟩
  | purge {faults : WriteFaults} {id : OperationId} {status : OperationStatus}
      {errorCode : Option ErrorCode} {now : Int} {audit : NewAuditRecord}
      {operation : DurableOperation} {agentId : AgentId} {removed : Database}
      (found : state.database.operations.lookup id = some operation)
      (names : operation.agentId = some agentId)
      (removal : Database.Removal 0 [agentId] { state.database with
          operations := state.database.operations.insert id { operation with
              status := .succeeded, errorCode := Option.none, updatedAt := now }
          auditRecords := state.database.auditRecords ++ [audit] } removed) :
      Effect state (.complete faults id status errorCode now audit) ⟨removed, state.accepted⟩

theorem LifecycleCall.apply_effect (state : LifecycleState) (call : LifecycleCall) :
    call.Effect state (call.apply state) := by
  cases call with
  | command faults submitted =>
    simp only [LifecycleCall.apply]
    rcases applyAgentCommand_cases faults submitted.command state.database with
      ⟨error, failed⟩ | ⟨row, existing, -, -, -, replayed⟩ | ⟨acceptable, accepted⟩
    · rw [failed]
      exact .none _
    · rw [replayed]
      exact .none _
    · rw [accepted]
      exact .command acceptable
  | start faults id now =>
    simp only [LifecycleCall.apply]
    rcases transitionOperation_cases faults state.database id .running none now with
      ⟨error, failed⟩ | ⟨operation, found, allowed, done⟩
    · rw [failed]
      exact .none _
    · rw [done]
      exact .start found allowed
  | complete faults id status errorCode now audit =>
    simp only [LifecycleCall.apply, completed]
    split
    · exact .none _
    split
    · exact .none _
    · next operation found =>
      split
      · split
        · exact .none _
        · next agentId names =>
          rcases completePurge_cases faults state.database agentId id now audit with
            ⟨error, failed⟩ | ⟨current, agent, after, present, -, -, -, -, -, removal, -, done⟩
          · rw [failed]
            exact .none _
          · rw [done]
            rw [found] at present
            cases present
            exact .purge found names removal
      · next other =>
        rcases transitionOperation_cases faults state.database id status errorCode
          now with ⟨error, failed⟩ | ⟨current, present, -, done⟩
        · rw [failed]
          exact .none _
        · rw [done]
          rw [found] at present
          cases present
          exact .complete found other

/-! ### Retained agents are deleted -/

/-- No disable is accepted for an agent that is retained. -/
def DisablesUnretained (state : LifecycleState) : LifecycleCall → Prop
  | .command _ submitted =>
      submitted.command.Acceptable state.database →
        submitted.command.operation.kind = .disableAgent →
          submitted.command.mutation.target ∉ state.database.agentRetention
  | _ => True

/-- Every retained agent is deleted, as it was commanded last. -/
structure LifecycleState.RetainsDeleted (state : LifecycleState) : Prop where
  keyed : KeyedById state.database.agentSpecs
  retained : ∀ id ∈ state.database.agentRetention, ∃ agent,
    state.database.agentSpecs.lookup id = some agent ∧ agent.desiredState = .deleted ∧
      lastCommanded state.accepted id = some .deleted

section

variable {state : LifecycleState} {command : AgentCommand}

/-- A command that leaves its target retained leaves it deleted. -/
theorem AgentCommand.Acceptable.retained (acceptable : command.Acceptable state.database)
    (unretained : command.operation.kind = .disableAgent →
      command.mutation.target ∉ state.database.agentRetention)
    (retains : state.RetainsDeleted)
    (member : command.mutation.target ∈
      command.mutation.retention command.operation state.database.agentRetention) :
    ∃ agent, command.mutation.apply
        (state.database.agentSpecs.lookup command.mutation.target) = some agent ∧
      agent.desiredState = .deleted ∧ command.mutation.commandedState.or
          (lastCommanded state.accepted command.mutation.target) = some .deleted := by
  have corresponds := acceptable.corresponds
  have applicable := acceptable.applicable
  cases mutation : command.mutation with
  | create agent =>
    rw [mutation] at applicable member
    obtain ⟨row, found, -⟩ := retains.retained agent.id member
    exact absurd (Table.mem_of_lookup found) applicable.2.1
  | update id changes =>
    rw [mutation] at member
    obtain ⟨row, found, marked, last⟩ := retains.retained id member
    refine ⟨changes.applyTo row, ?_, marked, last⟩
    exact Option.map_eq_some_iff.mpr ⟨row, found, rfl⟩
  | setState id desiredState deadline =>
    rw [mutation] at corresponds applicable member unretained
    obtain ⟨⟨row, found, -⟩, -⟩ := applicable
    have marked : desiredState = .deleted := by
      have expected := corresponds.1
      cases kind : command.operation.kind with
      | createAgent | updateAgent => simp [kind, OperationKind.expectedState] at expected
      | enableAgent =>
        simp [AgentCommandMutation.retention, AgentCommandMutation.target, kind] at member
      | disableAgent =>
        simp only [AgentCommandMutation.retention, kind] at member
        exact absurd member (unretained kind)
      | deleteAgent | purgeAgent =>
        simpa [kind, OperationKind.expectedState, eq_comm] using expected
    subst marked
    exact ⟨{ row with desiredState := .deleted },
      Option.map_eq_some_iff.mpr ⟨row, found, rfl⟩, rfl, rfl⟩

theorem LifecycleState.RetainsDeleted.accept (retains : state.RetainsDeleted)
    (acceptable : command.Acceptable state.database)
    (unretained : command.operation.kind = .disableAgent →
      command.mutation.target ∉ state.database.agentRetention) :
    LifecycleState.RetainsDeleted ⟨command.commit state.database, state.accepted ++ [command]⟩ where
  keyed := command.mutation.keyedById_agents retains.keyed
  retained := by
    intro id member
    show ∃ agent, (command.mutation.agents state.database.agentSpecs).lookup id = some agent ∧ _
    rw [command.mutation.lookup_agents retains.keyed, lastCommanded_append, AgentCommand.commands]
    by_cases same : id = command.mutation.target
    · subst same
      rw [if_pos rfl, if_pos rfl]
      exact acceptable.retained unretained retains member
    · rw [if_neg same, if_neg (Ne.symm same)]
      exact retains.retained id ((command.mutation.mem_retention member).resolve_left same)

theorem retainsDeleted_apply (call : LifecycleCall) (met : DisablesUnretained state call)
    (retains : state.RetainsDeleted) : (call.apply state).RetainsDeleted := by
  have effect := call.apply_effect state
  generalize call.apply state = after at effect ⊢
  cases effect with
  | none => exact retains
  | command acceptable => exact retains.accept acceptable (met acceptable)
  | start found allowed | complete found other => exact ⟨retains.keyed, retains.retained⟩
  | @purge _ _ _ _ _ _ _ agentId removed found names removal =>
    constructor
    · exact fun id agent present => retains.keyed id agent (rows_of_removal removal present)
    · intro id member
      obtain ⟨row, kept⟩ := Table.exists_lookup_of_mem member
      rw [removal.retention] at kept
      split at kept
      · cases kept
      · next remains =>
        obtain ⟨agent, present, marked⟩ := retains.retained id (Table.mem_of_lookup kept)
        refine ⟨agent, ?_, marked⟩
        exact (removal.agents id).trans ((if_neg remains).trans present)

end

theorem SqliteStore.mem_expiredRetainedAgents {database : Database} {now : Int} {id : AgentId} :
    id ∈ expiredRetainedAgents now database ↔
      ∃ row, database.agentRetention.lookup id = some row ∧ row.purgeAfter ≤ now := by
  unfold expiredRetainedAgents
  simp only [List.mem_map, List.mem_insertionSort, List.mem_filter, decide_eq_true_eq]
  constructor
  · rintro ⟨⟨key, row⟩, ⟨member, due⟩, rfl⟩
    exact ⟨row, AList.mem_lookup_iff.mpr member, due⟩
  · rintro ⟨row, found, due⟩
    exact ⟨⟨id, row⟩, ⟨AList.mem_lookup_iff.mp found, due⟩, rfl⟩

/-! ### The sweep -/

section

/-- Every command the action submits is for one of these agents. -/
def Action.SubmitsFor (ids : List AgentId) ⦃Response : Type⦄ (action : Action Response) : Prop :=
  ∀ command, action.submits = some command → command.mutation.target ∈ ids

variable {ids : List AgentId}

theorem submitsFor_of_gentle {Error Result : Type} {program : Fallible Action Error Result}
    (gentle : Gentle program) : Program.Uses (Action.SubmitsFor ids) program.run := by
  refine gentle.mono ?_
  rintro Response action ⟨calm, -⟩ command submits
  cases action with
  | applyAgentCommand submitted => cases calm
  | _ => cases submits

theorem submitsFor_deletedCommand (retentionSeconds : Int) (actor : AuthenticatedPrincipal)
    (request : AgentCommandRequest) (kind : OperationKind) (member : request.agentId ∈ ids) :
    Program.Uses (Action.SubmitsFor ids)
      (deletedCommand retentionSeconds actor request kind).run := by
  refine uses_bind (submitsFor_of_gentle (gentle_attempt rfl rfl)) fun row => ?_
  refine uses_bind (submitsFor_of_gentle (gentle_found row)) fun agent => ?_
  refine uses_bind (submitsFor_of_gentle (gentle_commandDeadline ..)) fun deadline => ?_
  refine uses_bind (submitsFor_of_gentle (gentle_always rfl rfl)) fun now => ?_
  refine uses_bind (submitsFor_of_gentle (gentle_always rfl rfl)) fun id => ?_
  refine uses_bind ?_ fun result => ?_
  · refine .step (fun command submits => ?_) fun _ => .done _
    cases submits
    exact member
  · exact uses_bind (submitsFor_of_gentle (gentle_wake _ _)) fun _ => .done _

theorem submitsFor_purgeExpired (retentionSeconds : Int) {agentId : AgentId}
    (member : agentId ∈ ids) :
    Program.Uses (Action.SubmitsFor ids) (purgeExpired retentionSeconds agentId).run := by
  refine uses_bind (submitsFor_of_gentle (gentle_attempt rfl rfl)) fun row => ?_
  refine uses_bind (submitsFor_of_gentle (gentle_found row)) fun _ => ?_
  refine uses_bind (submitsFor_of_gentle (gentle_attempt rfl rfl)) fun retention => ?_
  refine uses_bind (submitsFor_of_gentle (gentle_always rfl rfl)) fun attempt => ?_
  exact uses_bind (submitsFor_deletedCommand retentionSeconds _ _ _ member) fun _ => .done _

theorem accepted_perform (thread : Thread) {Response : Type} (action : Action Response)
    (world : World) {command : AgentCommand}
    (accepted : command ∈ (perform thread action world).2.accepted) :
    command ∈ world.accepted ∨ action.submits = some command := by
  have effect := perform_effect thread world action
  generalize (perform thread action world).2 = after at effect accepted
  cases effect with
  | quiet same =>
    rw [same.accepted] at accepted
    exact .inl accepted
  | acceptCommand acceptable =>
    rcases List.mem_append.mp accepted with earlier | new
    · exact .inl earlier
    · rw [List.mem_singleton.mp new]
      exact .inr rfl
  | _ => exact .inl accepted

/-- The world after a retention sweep that nothing interferes with. -/
def sweep (retentionSeconds : Int) (world : World) : World :=
  (alone (perform .main) (enqueueExpiredPurges retentionSeconds) world).2

/-- The sweep submits purges for the expired agents only. -/
theorem sweep_accepted (retentionSeconds : Int) (world : World) {command : AgentCommand}
    (accepted : command ∈ (sweep retentionSeconds world).accepted) :
    command ∈ world.accepted ∨
      command.mutation.target ∈ expiredRetainedAgents world.clock world.db := by
  unfold sweep enqueueExpiredPurges at accepted
  have time : alone (perform .main) (Request.always .now) world = (.ok world.clock, world) := rfl
  rw [alone_bind_ok time] at accepted
  cases listed : world.query (expiredRetainedAgents world.clock) with
  | error error =>
    have failed : alone (perform .main) (store (.expiredRetainedAgents world.clock)) world =
          (.error (ApplicationError.ofStorage error), world) := by
      rw [store, alone_attempt]
      simp only [perform, listed, Except.mapError]
    rw [alone_bind_error failed] at accepted
    exact .inl accepted
  | ok expired =>
    have read : alone (perform .main)
        (store (.expiredRetainedAgents world.clock)) world = (.ok expired, world) := by
      rw [store, alone_attempt]
      simp only [perform, listed, Except.mapError]
    rw [alone_bind_ok read] at accepted
    have current : expired = expiredRetainedAgents world.clock world.db := by
      unfold World.query at listed
      split at listed
      · cases listed
      · exact (Except.ok.inj listed).symm
    rw [← current]
    have uses : Program.Uses (Action.SubmitsFor expired)
        (forEach (purgeExpired retentionSeconds) expired).run :=
      uses_forEach expired fun id member =>
        submitsFor_purgeExpired retentionSeconds member
    refine uses.run_keeps (fun after : World => ∀ command ∈ after.accepted,
      command ∈ world.accepted ∨ command.mutation.target ∈ expired) ?_ (fun _ => .inl) command
      accepted
    intro Response action between submitsFor kept command member
    rcases accepted_perform .main action between member with earlier | submits
    · exact kept command earlier
    · exact .inr (submitsFor command submits)

end

theorem emptyStore_retainsDeleted (base : Database) : (emptyStore base).RetainsDeleted where
  keyed := fun _ _ found => by simp [emptyStore] at found
  retained := fun _ member => by simp [emptyStore] at member

/-- If no disable is accepted for a retained agent, retained agents are deleted in every state,
what has expired was commanded to be deleted last, and the sweep purges nothing else. -/
theorem retention_implies_deleted (base : Database) (calls : List LifecycleCall)
    (met : Along DisablesUnretained (emptyStore base) calls) :
    (∀ id ∈ ((emptyStore base).after calls).database.agentRetention, ∃ agent,
      ((emptyStore base).after calls).database.agentSpecs.lookup id = some agent ∧
        agent.desiredState = .deleted) ∧
    (∀ now, ∀ id ∈ expiredRetainedAgents now ((emptyStore base).after calls).database,
      lastCommanded ((emptyStore base).after calls).accepted id = some .deleted) ∧
    ∀ retentionSeconds (world : World), world.db = ((emptyStore base).after calls).database →
      ∀ command ∈ (sweep retentionSeconds world).accepted, command ∉ world.accepted →
        lastCommanded ((emptyStore base).after calls).accepted command.mutation.target =
          some .deleted := by
  have retains := met.invariant (fun _ => retainsDeleted_apply) (emptyStore_retainsDeleted base)
  have expired : ∀ now, ∀ id ∈ expiredRetainedAgents now ((emptyStore base).after calls).database,
        lastCommanded ((emptyStore base).after calls).accepted id = some .deleted := by
    intro now id member
    obtain ⟨row, found, -⟩ := mem_expiredRetainedAgents.mp member
    obtain ⟨agent, -, -, last⟩ := retains.retained id (Table.mem_of_lookup found)
    exact last
  refine ⟨fun id member => ?_, expired, fun retentionSeconds world same command accepted new => ?_⟩
  · obtain ⟨agent, found, marked, -⟩ := retains.retained id member
    exact ⟨agent, found, marked⟩
  · have target := (sweep_accepted retentionSeconds world accepted).resolve_left new
    rw [same] at target
    exact expired world.clock _ target

namespace Deployment

def helper : AgentSpec := ⟨⟨1⟩, ⟨0⟩, "helper", "help", ⟨⟨"goose"⟩, ∅⟩, .enabled⟩

/-- The accepted create of an agent. -/
def createCall : LifecycleCall :=
  .command (fun _ => false)
    ⟨(createPlan helper none).command admin ⟨"k1", "c"⟩ (.createInput createInput) 0 ⟨2⟩, rfl,
      fun _ created => by
        cases created
        rfl⟩

/-- A state change of that agent. -/
def stateCall (key : String) (number : Nat) (kind : OperationKind)
    (desiredState : DesiredAgentState) (deadline : Option Int) : LifecycleCall :=
  .command (fun _ => false) ⟨(statePlan kind ⟨1⟩ ⟨0⟩ desiredState deadline).command admin ⟨key, "c"⟩
      (.agentCommand ⟨⟨key, "c"⟩, ⟨1⟩⟩) 0 ⟨number⟩, rfl, fun _ created => by cases created⟩

/-- An agent is deleted and then disabled. -/
def disabledAfterDelete : List LifecycleCall :=
  [createCall, stateCall "k2" 3 .deleteAgent .deleted (some 100),
    stateCall "k3" 4 .disableAgent .disabled none]

end Deployment

/-- The agent that was disabled last is still retained, has expired, and is purged. -/
theorem retention_of_disabled : (⟨1⟩ : AgentId) ∈ ((emptyStore Deployment.host.db).after
        Deployment.disabledAfterDelete).database.agentRetention ∧
      (((emptyStore Deployment.host.db).after
        Deployment.disabledAfterDelete).database.agentSpecs.lookup ⟨1⟩).map
          AgentSpec.desiredState = some .disabled ∧
      lastCommanded ((emptyStore Deployment.host.db).after
        Deployment.disabledAfterDelete).accepted ⟨1⟩ = some .disabled ∧
      expiredRetainedAgents 100 ((emptyStore Deployment.host.db).after
        Deployment.disabledAfterDelete).database = [⟨1⟩] ∧
      (sweep 100 { Deployment.host with
        db := ((emptyStore Deployment.host.db).after Deployment.disabledAfterDelete).database
        clock := 100
        nextUuid := 5 }).accepted.map (fun command =>
          (command.operation.kind, command.mutation.target)) = [(.purgeAgent, ⟨1⟩)] := by
  decide +kernel

theorem retention_of_deleted : ∃ agent, ((emptyStore Deployment.host.db).after
        [Deployment.createCall, Deployment.stateCall "k2" 3 .deleteAgent .deleted
          (some 100)]).database.agentSpecs.lookup ⟨1⟩ = some agent ∧
      agent.desiredState = .deleted :=
  (retention_implies_deleted Deployment.host.db
    [Deployment.createCall, Deployment.stateCall "k2" 3 .deleteAgent .deleted (some 100)]
    ⟨fun _ disable => absurd disable (by decide), fun _ disable => absurd disable (by decide),
      trivial⟩).1 ⟨1⟩
    (by decide +kernel)

end BuzzServer
