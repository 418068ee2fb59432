/-
This file is about sending an accepted command again.

The key of an accepted command stays bound, so the store would answer a
resubmission with the operation it recorded. But the application gets to the
store last. It reads the agent, rewrites its file or resolves the persona and
the prompt first, and a create also needs the agent the operation named. What
all of these need is `AgentRequest.Resubmittable`, a condition on the world at
the time of the resubmission. `AgentRequest.WritesNothing` is what it takes for
the resubmission to leave the files alone as well.
-/

import BuzzServer.Daemon.Ledger
import BuzzServer.RequestIdentity
import BuzzServer.UpdateFile

namespace BuzzServer

open Relational Concurrent Concurrent.Fallible AgentRequest Request Table World

/-! ### What a resubmission needs -/

/-- A create can be sent again: its input still resolves, its operation still names an agent,
the agent has its file or can get it, and the reconciler can be woken if that is due. -/
def World.Recreates (world : World) (input : CreateAgentInput) (existing : DurableOperation) :
    Prop :=
  (∃ agent, world.prepared ⟨world.nextUuid⟩ input = .ok agent) ∧
    (∃ id, existing.agentId = some id ∧ world.Persistable id input) ∧ world.Wakes true existing

/-- What the world has to satisfy for a request to get through to its recorded operation. -/
def AgentRequest.Resubmittable (world : World) (existing : DurableOperation) : AgentRequest → Prop
  | .create request => world.Recreates request.agent existing
  | .update request =>
      (∃ current, world.db.agentSpecs.lookup request.agentId = some current ∧
        ∃ updated, world.Rewrites current request.changes updated) ∧ world.Wakes true existing
  | .changeState request =>
      request.desiredState ≠ .deleted ∧ request.agentId ∈ world.db.agentSpecs ∧
        world.Wakes true existing
  | .delete request | .purge request =>
      request.agentId ∈ world.db.agentSpecs ∧ world.Wakes true existing
  | .promote request =>
      ∃ row, world.db.agentDrafts.lookup request.draftId = some row ∧
        row.document.agent.validate = .ok () ∧ world.Recreates row.document.agent existing

/-! ### The store answers with the recorded operation -/

variable {world : World} {actor : AuthenticatedPrincipal} {request : AgentRequest}

theorem World.Recorded.keyedIn (recorded : world.Recorded)
    {command : AgentCommand} (accepted : command ∈ world.accepted)
    (scope : (request.identity actor).scope = command.identity.scope)
    (key : (request.identity actor).key = command.identity.key) :
    ∃ existing, request.KeyedIn actor world.db command.keyRow existing ∧
      world.db.operations.lookup command.operation.id = some existing := by
  obtain ⟨existing, found, -⟩ := recorded.operations command accepted
  refine ⟨existing, ⟨?_, found⟩, found⟩
  rw [scope, key]
  exact recorded.keys command accepted

variable {existing result : DurableOperation} {metadata : CommandMetadata} {row : IdempotencyRecord}

variable (thread : Thread)

section

variable {body : RequestBody} {plan : ExecutionPlan}

theorem execute_unavailable (unavailable : world.faults.storeUnavailable = true) :
    ∃ after, alone (perform thread) (execute actor metadata body plan) world =
      (.error .internal, after) := by
  have answer : (world.answer (world.planned actor metadata body plan)).1 = .error .database := by
    rw [answer_of_unavailable unavailable]
  exact ⟨_, alone_execute_refused thread answer⟩

/-- A plan under a bound key is a replay if the digests agree. It draws the id of an operation
and wakes the reconciler. -/
theorem execute_cases (world : World) (body : RequestBody) (plan : ExecutionPlan)
    (available : world.faults.storeUnavailable = false)
    (keyed : world.db.idempotencyKeys.lookup
      (commandScope actor plan.kind, metadata.idempotencyKey) = some row)
    (found : world.db.operations.lookup row.operationId = some existing) :
    (row.requestHash = requestHash body ∧ world.Wakes plan.wakeImmediately existing ∧
      alone (perform thread) (execute actor metadata body plan) world = (.ok existing,
        ({ world with nextUuid := world.nextUuid + 1 } : World).woken plan.wakeImmediately
          existing)) ∨
    ¬(row.requestHash = requestHash body ∧ world.Wakes plan.wakeImmediately existing) ∧
      ∃ error after, alone (perform thread) (execute actor metadata body plan) world =
        (.error error, after) ∧ (world.Wakes plan.wakeImmediately existing →
          error = .ofStorage SqliteStore.keyReused) := by
  by_cases same : row.requestHash = requestHash body
  · have answer : world.answer (world.planned actor metadata body plan) =
        (.ok (existing, true), world.db) := by
      rw [answer_of_available available]
      exact SqliteStore.applyAgentCommand_replayed keyed same found
    by_cases wakes : world.Wakes plan.wakeImmediately existing
    · have answered : world.answered (world.planned actor metadata body plan) =
          { world with nextUuid := world.nextUuid + 1 } := by
        unfold World.answered
        rw [answer]
        rfl
      rw [alone_execute_ok thread (congrArg Prod.fst answer) wakes, answered]
      exact .inl ⟨same, wakes, rfl⟩
    · exact .inr ⟨fun both => wakes both.2, _, _,
        alone_execute_unwoken thread (congrArg Prod.fst answer) wakes,
        fun woken => absurd woken wakes⟩
  · have answer : (world.answer (world.planned actor metadata body plan)).1 =
        .error SqliteStore.keyReused := by
      rw [answer_of_available available]
      exact congrArg Prod.fst (SqliteStore.applyAgentCommand_reused keyed same)
    exact .inr ⟨fun both => same both.1, _, _, alone_execute_refused thread answer, fun _ => rfl⟩

end

/-- The deadline of a deletion can be computed whenever the store can be read. -/
theorem alone_commandDeadline (retentionSeconds : Int) (kind : OperationKind) (id : AgentId)
    (desiredState : DesiredAgentState) (available : world.faults.storeUnavailable = false) :
    ∃ deadline, alone (perform thread)
      (commandDeadline retentionSeconds kind id desiredState) world = (.ok deadline, world) := by
  unfold commandDeadline
  split
  · unfold deletionDeadline currentRetention
    split
    · have read : alone (perform thread) (Request.store (.agentRetention id)) world =
          (.ok (world.db.agentRetention.lookup id), world) := by
        simp [Request.store, perform, World.query, available, Except.mapError]
      rw [alone_bind_ok read]
      cases world.db.agentRetention.lookup id with
      | some row => exact ⟨_, rfl⟩
      | none => exact ⟨_, alone_bind_ok (alone_always ..)⟩
    · exact ⟨_, alone_bind_ok (alone_always ..)⟩
  · exact ⟨none, rfl⟩

theorem alone_getOperation_ok (world : World) (id : OperationId)
    (available : world.faults.storeUnavailable = false) :
    alone (perform thread) (Request.store (.getOperation id)) world =
      (.ok (world.db.operations.lookup id), world) := by
  simp [Request.store, perform, World.query, available, Except.mapError]

/-! ### The rest of a create -/

section

variable (world : World) (agent : AgentSpec) (input : CreateAgentInput)
  (consistent : world.db.Consistent) (available : world.faults.storeUnavailable = false)
  (found : world.db.operations.lookup existing.id = some existing)
  (fresh : agent.id ∉ world.db.agentSpecs)

include consistent available found fresh

/-- The agent of an earlier acceptance is read, and has its own id. -/
theorem alone_committedAgent_bound {id : AgentId} (named : existing.agentId = some id) :
    ∃ committed : AgentSpec, committed.id = id ∧
      alone (perform thread) (committedAgent agent id) world = (.ok committed, world) := by
  obtain ⟨committed, present⟩ := exists_lookup_of_mem
    (consistent.agentReference _ _ id found named)
  have other : id ≠ agent.id := by
    rintro rfl
    exact fresh (mem_of_lookup present)
  refine ⟨committed, consistent.agentKeyed id committed present, ?_⟩
  unfold committedAgent
  rw [if_neg other, alone_bind_ok (alone_getAgent_ok thread available), present]
  rfl

/-- After a replay the file of the agent of an earlier acceptance is put in its place. -/
theorem finishCreate_cases :
    (∃ id, existing.agentId = some id ∧ world.Persistable id input ∧ world.Wakes true existing ∧
      alone (perform thread) (finishCreate agent input existing) world = (.ok existing,
        ({ world with files := world.persisted id input } : World).woken true existing)) ∨
    ¬((∃ id, existing.agentId = some id ∧ world.Persistable id input) ∧
        world.Wakes true existing) ∧
      ∃ error after, alone (perform thread) (finishCreate agent input existing) world =
        (.error error, after) := by
  unfold finishCreate
  cases named : existing.agentId with
  | none => exact .inr ⟨by simp, _, _, rfl⟩
  | some id =>
    obtain ⟨committed, rfl, read⟩ :=
      alone_committedAgent_bound thread world agent consistent available found fresh named
    dsimp only
    rw [alone_bind_ok read]
    rcases persisted : alone (perform thread) (persistAgentCreate committed input) world with
      ⟨error | _, after⟩
    · refine .inr ⟨fun ⟨⟨id, same, persistable⟩, _⟩ => ?_, _, _, alone_bind_error persisted⟩
      cases same
      cases persisted.symm.trans (alone_persistAgentCreate_ok thread persistable)
    · have persistable := alone_persistAgentCreate_eq_ok thread persisted
      have looked := alone_getOperation_ok thread
        { world with files := world.persisted committed.id input } existing.id available
      rw [found] at looked
      rw [alone_bind_ok (alone_persistAgentCreate_ok thread persistable), alone_bind_ok looked]
      by_cases wakes : world.Wakes true existing
      · exact .inl ⟨_, rfl, persistable, wakes, alone_bind_ok (alone_wake_ok thread wakes)⟩
      · exact .inr ⟨fun both => wakes both.2, _, _,
          alone_bind_error (alone_wake_error thread wakes)⟩

end

theorem World.Sound.prepared_fresh (sound : world.Sound) {input : CreateAgentInput}
    {agent : AgentSpec} (prepared : world.prepared ⟨world.nextUuid⟩ input = .ok agent) :
    agent.id ∉ world.db.agentSpecs := by
  intro present
  have drawn := sound.createdDrawn _ (sound.agentCreated _ present)
  rw [prepared_id prepared] at drawn
  exact absurd drawn (lt_irrefl _)

/-! ### How far a request gets -/

/-- A call leaves everything as it was, except for the ids it drew and what it queued. -/
structure World.Intact (before after : World) : Prop where
  same : after = { before with
    files := { before.files with agents := after.files.agents }
    queue := after.queue
    nextUuid := after.nextUuid
    owners := after.owners }
  queue : before.queue <+: after.queue
  files : ∀ id, after.files.agents.lookup id = before.files.agents.lookup id

/-- A resubmission writes no file: an update writes what its file says already, the agent of a
create has a file. -/
def AgentRequest.WritesNothing (world : World) (existing : DurableOperation) :
    AgentRequest → Prop
  | .create _ | .promote _ => ∀ id, existing.agentId = some id → id ∈ world.files.agents
  | .update request =>
      ∀ current, world.db.agentSpecs.lookup request.agentId = some current →
        world.SparesFile current request.changes
  | .changeState _ | .delete _ | .purge _ => True

theorem World.woken_queue (immediately : Bool) (operation : DurableOperation) :
    world.queue <+: (world.woken immediately operation).queue := by
  unfold World.woken
  dsimp only
  split
  · exact List.prefix_append ..
  · exact List.prefix_rfl

/-- A program that begins by reading an agent ends there or goes on with the agent. -/
theorem alone_readAgent_cases {Result : Type} (world : World) (id : AgentId)
    (rest : AgentSpec → Request Result) :
    (∃ error, (alone (perform thread) (do
          let row ← Request.store (.getAgent .unshared id)
          let agent ← Request.found row
          rest agent) world).1 = .error error ∧
      (world.faults.storeUnavailable = false → id ∉ world.db.agentSpecs)) ∨
    world.faults.storeUnavailable = false ∧ ∃ agent, world.db.agentSpecs.lookup id = some agent ∧
      alone (perform thread) (do
          let row ← Request.store (.getAgent .unshared id)
          let agent ← Request.found row
          rest agent) world = alone (perform thread) (rest agent) world := by
  cases available : world.faults.storeUnavailable with
  | true =>
    rw [alone_bind_error (alone_getAgent_error thread available)]
    exact .inl ⟨_, rfl, nofun⟩
  | false =>
    cases found : world.db.agentSpecs.lookup id with
    | none =>
      rw [alone_bind_ok (alone_getAgent_ok thread available), found,
        alone_bind_error (alone_found_none thread)]
      exact .inl ⟨_, rfl, fun _ => AList.lookup_eq_none.mp found⟩
    | some agent => exact .inr ⟨rfl, agent, rfl, alone_readAgent_of_found thread available found⟩

/-- How far a request gets on its own. It fails, or it gets as far as the store. A command on an
agent is done then; a create goes on with the file. -/
inductive AgentRequest.Reaches (retentionSeconds : Int) (actor : AuthenticatedPrincipal)
    (world : World) (request : AgentRequest) : Prop
  | fails (error : ApplicationError)
      (failed : (alone (perform thread) (request.submit retentionSeconds actor) world).1 =
        .error error)
      (refused : ∀ existing, world.faults.storeUnavailable = false →
        ¬request.Resubmittable world existing)
  | executes (plan : ExecutionPlan) (agents : Table AgentId FileText)
      (kind : plan.kind = request.operationKind) (immediate : plan.wakeImmediately = true)
      (available : world.faults.storeUnavailable = false)
      (submitted : alone (perform thread) (request.submit retentionSeconds actor) world =
        alone (perform thread) (execute actor request.metadata request.body plan)
          { world with files := { world.files with agents := agents } })
      (resubmits : ∀ existing, request.Resubmittable world existing ↔ world.Wakes true existing)
      (spares : ∀ existing, (∀ id, agents.lookup id = world.files.agents.lookup id) ↔
        request.WritesNothing world existing)
  | creates (agent : AgentSpec) (input : CreateAgentInput) (promoted : Option DraftId)
      (kind : request.operationKind = .createAgent) (fresh : agent.id ∉ world.db.agentSpecs)
      (submitted : alone (perform thread) (request.submit retentionSeconds actor) world =
        alone (perform thread) (do
          let resource ← execute actor request.metadata request.body (createPlan agent promoted)
          finishCreate agent input resource) (world.drawing thread))
      (resubmits : ∀ existing, request.Resubmittable world existing ↔
        (∃ id, existing.agentId = some id ∧ world.Persistable id input) ∧
          world.Wakes true existing)
      (spares : ∀ existing, request.WritesNothing world existing ↔
        ∀ id, existing.agentId = some id → id ∈ world.files.agents)

section

variable {retentionSeconds : Int}

theorem reaches_onAgent {id : AgentId} {rest : AgentSpec → Request DurableOperation}
    (submits : request.submit retentionSeconds actor = do
      let row ← Request.store (.getAgent .unshared id)
      let agent ← Request.found row
      rest agent)
    (resubmits : ∀ existing, request.Resubmittable world existing ↔
      id ∈ world.db.agentSpecs ∧ world.Wakes true existing)
    (spares : ∀ existing, request.WritesNothing world existing)
    (executes : world.faults.storeUnavailable = false → ∀ agent, ∃ plan : ExecutionPlan,
      plan.kind = request.operationKind ∧ plan.wakeImmediately = true ∧
      alone (perform thread) (rest agent) world =
        alone (perform thread) (execute actor request.metadata request.body plan) world) :
    request.Reaches thread retentionSeconds actor world := by
  rcases alone_readAgent_cases thread world id rest with
    ⟨error, failed, absent⟩ | ⟨available, agent, found, reads⟩
  · exact .fails error (submits ▸ failed) fun existing available resubmittable =>
      absent available ((resubmits existing).mp resubmittable).1
  · obtain ⟨plan, kind, immediate, executed⟩ := executes available agent
    refine .executes plan world.files.agents kind immediate available
      (submits ▸ reads.trans executed) (fun existing => ?_) fun existing =>
        iff_of_true (fun _ => rfl) (spares existing)
    rw [resubmits, and_iff_right (mem_of_lookup found)]

theorem reaches_deletedCommand {request : AgentRequest} {onAgent : AgentCommandRequest}
    {kind : OperationKind} (kinds : kind = request.operationKind)
    (metadata : onAgent.metadata = request.metadata) (body : .agentCommand onAgent = request.body)
    (submits : request.submit retentionSeconds actor =
      deletedCommand retentionSeconds actor onAgent kind)
    (resubmits : ∀ existing, request.Resubmittable world existing ↔
      onAgent.agentId ∈ world.db.agentSpecs ∧ world.Wakes true existing)
    (spares : ∀ existing, request.WritesNothing world existing) :
    request.Reaches thread retentionSeconds actor world := by
  refine reaches_onAgent thread submits resubmits spares fun available agent => ?_
  obtain ⟨deadline, computed⟩ := alone_commandDeadline thread retentionSeconds kind
    onAgent.agentId agent.desiredState available
  rw [alone_bind_ok computed, metadata, body]
  exact ⟨_, kinds, rfl, rfl⟩

theorem reaches_create {input : CreateAgentInput} {promoted : Option DraftId}
    (sound : world.Sound) (kind : request.operationKind = .createAgent)
    (submits : alone (perform thread) (request.submit retentionSeconds actor) world =
      alone (perform thread) (do
          let id ← Request.always .newAgentId
          let agent ← prepareAgentCreate id input
          valid agent.validate
          let resource ← execute actor request.metadata request.body (createPlan agent promoted)
          finishCreate agent input resource) world)
    (resubmits : ∀ existing, request.Resubmittable world existing ↔
      world.Recreates input existing)
    (spares : ∀ existing, request.WritesNothing world existing ↔
      ∀ id, existing.agentId = some id → id ∈ world.files.agents) :
    request.Reaches thread retentionSeconds actor world := by
  cases prepared : world.prepared ⟨world.nextUuid⟩ input with
  | error error =>
    refine .fails error ?_ fun existing _ resubmittable => ?_
    · rw [submits, alone_create_unprepared thread prepared]
    · obtain ⟨⟨agent, again⟩, -⟩ := (resubmits existing).mp resubmittable
      cases prepared.symm.trans again
  | ok agent =>
    refine .creates agent input promoted kind (sound.prepared_fresh prepared)
      (submits.trans (alone_create_prepared thread prepared)) (fun existing => ?_) spares
    rw [resubmits]
    exact and_iff_right ⟨agent, prepared⟩

theorem submit_reaches (sound : world.Sound) (request : AgentRequest)
    (actor : AuthenticatedPrincipal) : request.Reaches thread retentionSeconds actor world := by
  cases request with
  | create request => exact reaches_create thread sound rfl rfl (fun _ => .rfl) fun _ => .rfl
  | promote request =>
    by_cases drafted : ∃ row, world.Drafted request.draftId row
    · obtain ⟨row, drafted⟩ := drafted
      refine reaches_create thread sound rfl (alone_promoteDraft_drafted thread drafted)
        (fun existing => ?_) fun _ => .rfl
      simp [AgentRequest.Resubmittable, drafted.stored, drafted.valid]
    · obtain ⟨error, failed, -⟩ := alone_promoteDraft_undrafted thread actor drafted
      exact .fails error (congrArg Prod.fst failed)
        fun existing available ⟨row, stored, valid, _⟩ =>
          drafted ⟨row, available, stored, valid⟩
  | update request =>
    rcases alone_readAgent_cases thread world request.agentId _ with
      ⟨error, failed, absent⟩ | ⟨available, current, found, reads⟩
    · exact .fails error failed fun existing available ⟨⟨current, found, _⟩, _⟩ =>
        absent available (mem_of_lookup found)
    rcases prepared : alone (perform thread) (prepareAgentUpdate current request.changes) world with
      ⟨error | _, after⟩
    · refine .fails error (congrArg Prod.fst (reads.trans (alone_bind_error prepared)))
        fun existing _ ⟨⟨again, same, updated, rewrites⟩, _⟩ => ?_
      obtain rfl := Option.some.inj (found.symm.trans same)
      cases prepared.symm.trans (alone_prepareAgentUpdate_ok thread rewrites)
    · obtain ⟨updated, rewrites⟩ := alone_prepareAgentUpdate_eq_ok thread prepared
      have files : (world.provided current).withAgent updated = { world.files with
          agents := ((world.provided current).withAgent updated).agents } := by
        unfold World.provided
        split <;> rfl
      refine .executes (updatePlan request current.communityConfigId) _ rfl rfl available
        (reads.trans ((alone_bind_ok (alone_prepareAgentUpdate_ok thread rewrites)).trans
          (by rw [files]; rfl))) (fun existing => and_iff_right ⟨current, found, updated, rewrites⟩)
        fun existing => ?_
      rw [rewrites.lookup_iff]
      simp [AgentRequest.WritesNothing, found]
  | changeState request =>
    obtain ⟨metadata, agentId, desiredState⟩ := request
    cases desiredState with
    | deleted => exact .fails _ rfl fun _ _ resubmittable => resubmittable.1 rfl
    | enabled | disabled =>
      exact reaches_onAgent thread rfl (fun _ => by simp [AgentRequest.Resubmittable])
        (fun _ => trivial) fun _ _ => ⟨_, rfl, rfl, rfl⟩
  | delete request | purge request =>
    exact reaches_deletedCommand thread rfl rfl rfl rfl (fun _ => .rfl) fun _ => trivial

end

/-! ### Sending an accepted command again -/

/-- A create under a bound key is a replay if the digests agree and the file of its agent is in
its place or can be put there. -/
theorem create_keyed_cases (agent : AgentSpec) (input : CreateAgentInput)
    (promoted : Option DraftId) (body : RequestBody) (sound : world.Sound)
    (fresh : agent.id ∉ world.db.agentSpecs) (available : world.faults.storeUnavailable = false)
    (keyed : world.db.idempotencyKeys.lookup
      (commandScope actor .createAgent, metadata.idempotencyKey) = some row)
    (found : world.db.operations.lookup row.operationId = some existing) :
    let created := alone (perform thread) (do
      let resource ← execute actor metadata body (createPlan agent promoted)
      finishCreate agent input resource) (world.drawing thread)
    let finishes := (∃ id, existing.agentId = some id ∧ world.Persistable id input) ∧
      world.Wakes true existing
    ((row.requestHash = requestHash body ∧ finishes) ∧ created.1 = .ok existing ∧
      (world.Intact created.2 ↔ ∀ id, existing.agentId = some id → id ∈ world.files.agents)) ∨
    ¬(row.requestHash = requestHash body ∧ finishes) ∧ ∃ error, created.1 = .error error ∧
      (finishes → error = .ofStorage SqliteStore.keyReused) := by
  intro created finishes
  rcases execute_cases thread (world.drawing thread) body (createPlan agent promoted) available
      keyed found with ⟨same, -, executed⟩ | ⟨refused, error, after, executed, conflict⟩
  · have named : world.db.operations.lookup existing.id = some existing := by
      rw [sound.consistent.operationKeyed _ _ found]
      exact found
    rcases finishCreate_cases thread { world.drawing thread with
        nextUuid := (world.drawing thread).nextUuid + 1 } agent input sound.consistent available
        named fresh with
      ⟨id, names, persistable, wakes, finished⟩ | ⟨refused, error, after, finished⟩
    · have answered : created = _ := (alone_bind_ok executed).trans finished
      refine .inl ⟨⟨same, ⟨id, names, persistable⟩, wakes⟩, congrArg Prod.fst answered, ?_⟩
      rw [answered, names]
      simp only [Option.some.injEq, forall_eq']
      refine Iff.trans ?_ (persisted_spares_iff persistable)
      refine ⟨Intact.files, fun spared => ⟨?_, woken_queue .., spared⟩⟩
      exact congrArg (fun files => ({ world with
        files, queue := _, nextUuid := _, owners := _ } : World)) (persisted_eq ..)
    · exact .inr ⟨fun both => refused both.2, error,
        congrArg Prod.fst ((alone_bind_ok executed).trans finished),
        fun all => absurd all refused⟩
  · exact .inr ⟨fun both => refused ⟨both.1, .inl rfl⟩, error,
      congrArg Prod.fst (alone_bind_error executed), fun _ => conflict (.inl rfl)⟩

/-- A request whose key is bound is answered with the recorded operation exactly if the digests
agree and it can be resubmitted. It leaves everything intact then exactly if it writes no
file. -/
theorem submit_keyed_cases (retentionSeconds : Int) (sound : world.Sound)
    (bound : request.KeyedIn actor world.db row existing) :
    let submitted := alone (perform thread) (request.submit retentionSeconds actor) world
    ((world.faults.storeUnavailable = false ∧ row.requestHash = requestHash request.body ∧
        request.Resubmittable world existing) ∧ submitted.1 = .ok existing ∧
      (world.Intact submitted.2 ↔ request.WritesNothing world existing)) ∨
    ¬(world.faults.storeUnavailable = false ∧ row.requestHash = requestHash request.body ∧
        request.Resubmittable world existing) ∧
      ∃ error, submitted.1 = .error error ∧ (world.faults.storeUnavailable = false →
        request.Resubmittable world existing →
          error = .ofStorage SqliteStore.keyReused) := by
  intro submitted
  have keyed : world.db.idempotencyKeys.lookup
      (commandScope actor request.operationKind, request.metadata.idempotencyKey) = some row :=
    bound.1
  rcases submit_reaches thread sound request actor with ⟨error, failed, refused⟩ |
    ⟨plan, agents, kind, immediate, available, submits, resubmits, spares⟩ |
    ⟨agent, input, promoted, kind, fresh, submits, resubmits, spares⟩
  · exact .inr ⟨fun all => refused existing all.1 all.2.2, error, failed,
      fun available resubmittable => absurd resubmittable (refused existing available)⟩
  · rw [← kind] at keyed
    have executes := execute_cases thread
      { world with files := { world.files with agents := agents } }
      request.body plan available keyed bound.2
    rw [immediate] at executes
    rcases executes with ⟨same, wakes, executed⟩ | ⟨refused, error, after, executed, conflict⟩
    · have answered : submitted = _ := submits.trans executed
      refine .inl ⟨⟨available, same, (resubmits existing).mpr wakes⟩,
        congrArg Prod.fst answered, ?_⟩
      rw [answered, ← spares existing]
      exact ⟨Intact.files, fun spared => ⟨rfl, woken_queue .., spared⟩⟩
    · exact .inr ⟨fun all => refused ⟨all.2.1, (resubmits existing).mp all.2.2⟩, error,
        congrArg Prod.fst (submits.trans executed),
        fun _ resubmittable => conflict ((resubmits existing).mp resubmittable)⟩
  · rw [kind] at keyed
    cases available : world.faults.storeUnavailable with
    | true =>
      obtain ⟨after, failed⟩ : ∃ after, alone (perform thread) (execute actor request.metadata
          request.body (createPlan agent promoted)) (world.drawing thread) =
            (.error .internal, after) := execute_unavailable thread available
      exact .inr ⟨by simp, _, congrArg Prod.fst (submits.trans (alone_bind_error failed)), nofun⟩
    | false =>
      have created := create_keyed_cases thread agent input promoted request.body sound fresh
        available keyed bound.2
      rw [← submits, ← resubmits, ← spares] at created
      rcases created with
        ⟨⟨same, resubmittable⟩, answered, intact⟩ | ⟨refused, error, failed, conflict⟩
      · exact .inl ⟨⟨rfl, same, resubmittable⟩, answered, intact⟩
      · exact .inr ⟨fun all => refused all.2, error, failed, fun _ => conflict⟩

theorem resubmission_recorded_iff (retentionSeconds : Int) (sound : world.Sound)
    (recorded : world.Recorded)
    {command : AgentCommand} (accepted : command ∈ world.accepted)
    (identity : command.identity = request.identity actor) :
    (∃ operation, (alone (perform thread) (request.submit retentionSeconds actor)
        world).1 = .ok operation ∧ operation.id = command.operation.id) ↔
      world.faults.storeUnavailable = false ∧
        ∃ existing, world.db.operations.lookup command.operation.id = some existing ∧
          request.Resubmittable world existing := by
  obtain ⟨existing, bound, found⟩ : ∃ existing, request.KeyedIn actor world.db command.keyRow
      existing ∧ world.db.operations.lookup command.operation.id = some existing :=
    recorded.keyedIn accepted (by rw [identity]) (by rw [identity])
  have same : command.keyRow.requestHash = requestHash request.body :=
    congrArg CommandIdentity.hash identity
  have named : existing.id = command.operation.id := sound.consistent.operationKeyed _ _ found
  rw [found]
  rcases submit_keyed_cases thread retentionSeconds sound bound with
    ⟨⟨available, -, resubmittable⟩, answered, -⟩ | ⟨refused, error, failed, -⟩
  · exact iff_of_true ⟨existing, answered, named⟩ ⟨available, existing, rfl, resubmittable⟩
  · rw [failed]
    simpa [same] using refused

/-- In every world a run reaches, sending an accepted command again returns the operation that
was recorded for it exactly if the store can be reached and the request is resubmittable. -/
theorem resubmission_returns_recorded_iff {setting : Setting} {pool : Pool Thread Action World}
    (reachable : Reachable setting (unrestricted Thread Action World) pool) (thread : Thread)
    (actor : AuthenticatedPrincipal) (request : AgentRequest) (command : AgentCommand)
    (accepted : command ∈ pool.world.accepted)
    (identity : command.identity = request.identity actor) :
    (∃ operation, (alone (perform thread)
        (request.submit setting.retentionSeconds actor) pool.world).1 = .ok operation ∧
          operation.id = command.operation.id) ↔
      pool.world.faults.storeUnavailable = false ∧
        ∃ existing, pool.world.db.operations.lookup command.operation.id = some existing ∧
          request.Resubmittable pool.world existing :=
  resubmission_recorded_iff thread setting.retentionSeconds reachable.sound reachable.recorded
    accepted identity

namespace Deployment

/-- An agent is created and disabled. -/
def disabled : Pool Thread Action World :=
  playAll ⟨2592000, False⟩ host
    (answer (create "k1") ++ work ++ answer (changeState "k2" ⟨1⟩ .disabled))

def disableCommand : AgentCommand :=
  (statePlan .disableAgent ⟨1⟩ ⟨0⟩ .disabled none).command admin ⟨"k2", "c"⟩
    (.changeAgentState ⟨⟨"k2", "c"⟩, ⟨1⟩, .disabled⟩) 0 ⟨3⟩

theorem disabled_reachable :
    Reachable ⟨2592000, False⟩ (unrestricted Thread Action World) disabled :=
  reachable_playAll host_fresh _ (by decide)

end Deployment

/-- A disable that is still queued can be sent again. -/
theorem resubmission_returns_recorded_disabled : ∃ operation, (alone (perform (.request 1))
        (AgentRequest.submit 2592000 Deployment.admin
          (.changeState ⟨⟨"k2", "c"⟩, ⟨1⟩, .disabled⟩)) Deployment.disabled.world).1 =
            .ok operation ∧ operation.id = ⟨3⟩ :=
  (resubmission_returns_recorded_iff Deployment.disabled_reachable (.request 1) Deployment.admin
    (.changeState ⟨⟨"k2", "c"⟩, ⟨1⟩, .disabled⟩) Deployment.disableCommand (by decide +kernel)
    (by decide +kernel)).mpr ⟨by decide +kernel, Deployment.disableCommand.operation,
      by decide +kernel, by decide, by decide +kernel, .inr (.inr (by decide +kernel))⟩

/-! ### Sending it again for another trace -/

/-- The correlation id decides nothing but the digest. -/
theorem AgentRequest.resubmittable_withCorrelation (request : AgentRequest)
    (correlationId : String) (world : World) (existing : DurableOperation) :
    ((request.withCorrelation correlationId).Resubmittable world existing ↔
        request.Resubmittable world existing) ∧
      ((request.withCorrelation correlationId).WritesNothing world existing ↔
        request.WritesNothing world existing) := by
  cases request <;> exact ⟨.rfl, .rfl⟩

/-- In every world a run reaches, sending an accepted command again under another correlation
id is a replay that leaves everything intact exactly if the command is a create or the
correlation id is the same after all, and the command is resubmittable and writes no file. Under
another correlation id a command that is not a create is a conflict. So is a draft, which writes
no file in any case. -/
theorem resubmission_replayed_iff {setting : Setting} {pool : Pool Thread Action World}
    (reachable : Reachable setting (unrestricted Thread Action World) pool) (thread : Thread)
    (actor : AuthenticatedPrincipal) (correlationId : String) :
    (∀ (request : AgentRequest) (command : AgentCommand), command ∈ pool.world.accepted →
      command.identity = request.identity actor →
      let again := alone (perform thread)
        ((request.withCorrelation correlationId).submit setting.retentionSeconds actor) pool.world
      ((∃ operation, again.1 = .ok operation ∧ operation.id = command.operation.id) ∧
          pool.world.Intact again.2 ↔
        (request.isCreate = true ∨ correlationId = request.metadata.correlationId) ∧
          pool.world.faults.storeUnavailable = false ∧
          ∃ existing, pool.world.db.operations.lookup command.operation.id = some existing ∧
            request.Resubmittable pool.world existing ∧
            request.WritesNothing pool.world existing) ∧
      (¬(request.isCreate = true ∨ correlationId = request.metadata.correlationId) →
        (∀ operation, again.1 ≠ .ok operation) ∧
        (pool.world.faults.storeUnavailable = false →
          ∀ existing, pool.world.db.operations.lookup command.operation.id = some existing →
            request.Resubmittable pool.world existing →
            again.1 = .error (.conflict "idempotency key was reused with a different request")))) ∧
    ∀ (draft : SubmitDraftRequest) (row : DraftIdempotencyRow) (existing : DraftRow),
      pool.world.db.draftIdempotency.lookup
        (principalScope actor, draft.metadata.idempotencyKey) = some row →
      row.requestHash = requestHash (.submitDraft draft) →
      pool.world.db.agentDrafts.lookup row.draftId = some existing →
      let again := alone (perform thread)
        (submitDraft actor { draft with metadata := { draft.metadata with correlationId } })
        pool.world
      (again.1 = .ok existing.document ∧ pool.world.Intact again.2 ↔
        correlationId = draft.metadata.correlationId ∧
          pool.world.faults.storeUnavailable = false ∧ draft.agent.validate = .ok ()) ∧
      (correlationId ≠ draft.metadata.correlationId →
        (∀ document, again.1 ≠ .ok document) ∧
        (pool.world.faults.storeUnavailable = false → draft.agent.validate = .ok () →
          again.1 = .error (.conflict "idempotency key was reused with a different request"))) := by
  have sound := reachable.sound
  constructor
  · intro request command accepted identity again
    obtain ⟨sameScope, sameKey, sameHash⟩ := request.identity_withCorrelation actor correlationId
    obtain ⟨existing, bound, found⟩ : ∃ existing,
        (request.withCorrelation correlationId).KeyedIn actor pool.world.db command.keyRow
          existing ∧
        pool.world.db.operations.lookup command.operation.id = some existing :=
      reachable.recorded.keyedIn accepted (by rw [sameScope, identity]) (by rw [sameKey, identity])
    obtain ⟨resubmits, writes⟩ :=
      request.resubmittable_withCorrelation correlationId pool.world existing
    have digests : command.keyRow.requestHash =
        requestHash (request.withCorrelation correlationId).body ↔
          request.isCreate = true ∨ correlationId = request.metadata.correlationId := by
      rw [← sameHash, ← identity, eq_comm]
      rfl
    have named : existing.id = command.operation.id := sound.consistent.operationKeyed _ _ found
    simp only [found, Option.some.injEq, exists_eq_left', forall_eq', ← digests, ← resubmits,
      ← writes]
    rcases submit_keyed_cases thread setting.retentionSeconds sound bound with
      ⟨⟨available, same, resubmittable⟩, answered, intact⟩ | ⟨refused, error, failed, conflict⟩
    · refine ⟨⟨fun ⟨_, kept⟩ => ⟨same, available, resubmittable, intact.mp kept⟩, fun all =>
        ⟨⟨existing, answered, named⟩, intact.mpr all.2.2.2⟩⟩, fun differs => absurd same differs⟩
    · have failed : again.1 = .error error := failed
      rw [failed]
      exact ⟨iff_of_false (by simp) fun all => refused ⟨all.2.1, all.1, all.2.2.1⟩, fun _ =>
        ⟨by simp, fun available resubmittable =>
          congrArg Except.error (conflict available resubmittable)⟩⟩
  · intro draft row existing bound hash recorded again
    have digests : row.requestHash = requestHash (.submitDraft
        { draft with metadata := { draft.metadata with correlationId } }) ↔
          correlationId = draft.metadata.correlationId := by
      rw [hash]
      obtain ⟨⟨_, _⟩, _⟩ := draft
      simp [requestHash, eq_comm]
    have answered : again = _ := alone_submitDraft_bound thread bound recorded
    have intact : pool.world.Intact { pool.world with nextUuid := pool.world.nextUuid + 1 } :=
      ⟨rfl, List.prefix_rfl, fun _ => rfl⟩
    rw [answered]
    simp only [digests]
    cases draft.agent.validate with
    | error error => simp
    | ok _ => split_ifs <;> simp_all

/-- The create of an agent that has been disabled since, sent again for another trace. -/
theorem resubmission_replayed_create :
    let again := alone (perform (.request 1)) (AgentRequest.submit 2592000 Deployment.admin
      (.create ⟨⟨"k1", "again"⟩, Deployment.createInput⟩)) Deployment.disabled.world
    (∃ operation, again.1 = .ok operation ∧ operation.id = ⟨2⟩) ∧
      Deployment.disabled.world.Intact again.2 := by
  obtain ⟨command, accepted, identity, named⟩ : ∃ command ∈ Deployment.disabled.world.accepted,
      command.identity =
        (AgentRequest.create ⟨⟨"k1", "c"⟩, Deployment.createInput⟩).identity Deployment.admin ∧
      command.operation.id = ⟨2⟩ := by decide +kernel
  obtain ⟨existing, found, ended, agentId⟩ :
      ∃ existing ∈ Deployment.disabled.world.db.operations.lookup ⟨2⟩,
        existing.status.isTerminal = true ∧ existing.agentId = some ⟨1⟩ := by decide +kernel
  have present : (⟨1⟩ : AgentId) ∈ Deployment.disabled.world.files.agents := by decide +kernel
  have prepared : ∃ agent, Deployment.disabled.world.prepared
      ⟨Deployment.disabled.world.nextUuid⟩ Deployment.createInput = .ok agent := ⟨_, rfl⟩
  rw [← named] at found ⊢
  exact ((resubmission_replayed_iff Deployment.disabled_reachable (.request 1) Deployment.admin
    "again").1 (.create ⟨⟨"k1", "c"⟩, Deployment.createInput⟩) command accepted identity).1.mpr
      ⟨.inl rfl, by decide +kernel, existing, found, ⟨prepared, ⟨⟨1⟩, agentId, .inl present⟩,
        .inr (.inl ended)⟩, fun id names => Option.some.inj (agentId.symm.trans names) ▸ present⟩

/-- An agent is created and deleted. -/
def Deployment.deleting : Pool Thread Action World :=
  playAll ⟨2592000, False⟩ host (answer (create "k1") ++ work ++ answer (delete "k2" ⟨1⟩))

/-- The delete is refused when it is sent again with a fresh correlation id, and only then. -/
theorem resubmission_refused :
    Reachable ⟨2592000, False⟩ (unrestricted Thread Action World) Deployment.deleting ∧
    (alone (perform (.request 0)) (AgentRequest.submit 2592000 Deployment.admin
        (.delete ⟨⟨"k2", "again"⟩, ⟨1⟩⟩)) Deployment.deleting.world).1 =
      .error (.conflict "idempotency key was reused with a different request") ∧
    (alone (perform (.request 0)) (AgentRequest.submit 2592000 Deployment.admin
        (.delete ⟨⟨"k2", "c"⟩, ⟨1⟩⟩)) Deployment.deleting.world).1.toOption.map
      DurableOperation.id = some ⟨3⟩ :=
  ⟨reachable_playAll Deployment.host_fresh _ (by decide), by decide +kernel⟩

namespace Deployment

/-- An agent is created and purged. -/
def gone : Pool Thread Action World :=
  playAll ⟨2592000, False⟩ host (answer (create "k1") ++ work ++ answer (purge "k2" ⟨1⟩) ++ work)

theorem gone_reachable : Reachable ⟨2592000, False⟩ (unrestricted Thread Action World) gone :=
  reachable_playAll host_fresh _ (by decide)

end Deployment

/-- Once an agent is purged, neither the purge nor the create can be sent again: the one finds
no agent, the other an operation that names none. -/
theorem resubmission_lost :
    Reachable ⟨2592000, False⟩ (unrestricted Thread Action World) Deployment.gone ∧
    (∃ command ∈ Deployment.gone.world.accepted,
      command.identity = (AgentRequest.purge ⟨⟨"k2", "c"⟩, ⟨1⟩⟩).identity Deployment.admin) ∧
    (alone (perform (.request 1))
        (AgentRequest.submit 2592000 Deployment.admin (.purge ⟨⟨"k2", "c"⟩, ⟨1⟩⟩))
        Deployment.gone.world).1 = .error .notFound ∧
    (alone (perform (.request 1)) (AgentRequest.submit 2592000 Deployment.admin
          (.create ⟨⟨"k1", "c"⟩, Deployment.createInput⟩))
        Deployment.gone.world).1 = .error .internal :=
  ⟨Deployment.gone_reachable, by decide +kernel⟩

end BuzzServer
