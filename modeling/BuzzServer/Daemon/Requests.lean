/-
This file proves that requests and the main thread keep the terms.

A command is submitted under an operation id that was drawn before, and a new
agent under an agent id that nobody else can use. The startup loop writes back
the agents it listed, in the order in which it listed them. All else is calm.
-/

import BuzzServer.Daemon.Judgments

namespace BuzzServer

open Relational Concurrent Discipline Fallible Proves Triple

/-! ### Requests -/

variable {setting : Setting} {thread : Thread} {terms : Terms}

section

theorem WorkerTolerates.tracked {before after : World}
    (tolerated : WorkerTolerates terms before after) (tracked : before.Tracked) :
    after.Tracked := by
  intro pid id live
  rcases tracked pid id (tolerated.processes pid id live) with removed | ⟨receipt, stored, names⟩
  · exact .inl (tolerated.tombstones id removed)
  · refine .inr ⟨receipt, ?_, names⟩
    unfold World.storedReceipt at stored ⊢
    rw [tolerated.receipts]
    exact stored

theorem stands_resting : Stands setting terms thread (Resting terms thread) := by
  intro before after tolerated _ _ resting
  refine ⟨fun main => (tolerated.starting main).trans (resting.1 main), fun worker => ?_⟩
  obtain ⟨cached, reconciled, tracked⟩ := resting.2 worker
  have tolerates := tolerated.worker worker
  exact ⟨tolerates.cached.trans cached, tolerates.reconciled.trans reconciled,
    fun durable => tolerates.tracked (tracked durable)⟩

/-- The thread drew the agent id and nobody has used it. -/
def World.Owned (world : World) (thread : Thread) (id : AgentId) : Prop :=
  world.owners.lookup id.uuid = some thread ∧ ¬world.Created id

theorem stands_owned (id : AgentId) :
    Stands setting terms thread fun world => world.Owned thread id := by
  intro before after tolerated _ _ owned
  obtain ⟨owner, unchanged⟩ := tolerated.owned id.uuid owned.1
  exact ⟨owner, fun created => owned.2 (unchanged created)⟩

theorem stands_drawn (uuid : Nat) :
    Stands setting terms thread fun world => uuid < world.nextUuid :=
  fun _ _ tolerated _ _ below => Nat.lt_of_lt_of_le below tolerated.nextUuid

/-- A plan that creates an agent creates an enabled one, under an id the thread owns. -/
def ExecutionPlan.Ready (plan : ExecutionPlan) (thread : Thread) (world : World) : Prop :=
  ∀ agent, plan.mutation = .create agent →
    agent.desiredState = .enabled ∧ world.Owned thread agent.id

theorem stands_ready (plan : ExecutionPlan) :
    Stands setting terms thread fun world => plan.Ready thread world :=
  fun before after tolerated held kept ready agent mutation =>
    ⟨(ready agent mutation).1,
      stands_owned agent.id before after tolerated held kept (ready agent mutation).2⟩

end

variable {Result Error : Type} {program : Fallible Action Error Result} {pre post : World → Prop}

section

/-- The judgment every request meets: the thread is at rest before and after. -/
abbrev Serves (setting : Setting) (terms : Terms) (thread : Thread) {Error Result : Type}
    (program : Fallible Action Error Result) : Prop :=
  Proves setting terms thread (Resting terms thread) program (fun _ => Resting terms thread)
    fun _ => Resting terms thread

theorem serves_gentle (gentle : Gentle program) : Serves setting terms thread program :=
  Proves.calm gentle stands_resting

/-- A thread other than the worker is at rest as long as nothing is listed to be started. -/
theorem resting_of_starting {before after : World} (notWorker : thread ≠ .worker)
    (resting : Resting terms thread before) (same : after.starting = before.starting) :
    Resting terms thread after :=
  ⟨fun main => same.trans (resting.1 main), fun worker => absurd worker notWorker⟩

variable {failure : Error → World → Prop}

theorem proves_newOperationId (stands : Stands setting terms thread pre) :
    Proves setting terms thread pre (always .newOperationId : Fallible Action Error OperationId)
      (fun id world => pre world ∧ id.uuid < world.nextUuid) failure := by
  refine .always stands fun world sound holds admitted => ?_
  obtain ⟨done, -, kept⟩ := execute_calm rfl (duty_of_gentle setting terms rfl rfl) stands sound
    holds admitted
  exact ⟨done, kept, Nat.lt_succ_self _⟩

theorem proves_execute (notWorker : thread ≠ .worker) (actor : AuthenticatedPrincipal)
    (metadata : CommandMetadata) (body : RequestBody) (plan : ExecutionPlan) :
    Proves setting terms thread (fun world => Resting terms thread world ∧ plan.Ready thread world)
      (execute actor metadata body plan) (fun _ => Resting terms thread)
      fun _ => Resting terms thread := by
  have ready : Stands setting terms thread
      fun world => Resting terms thread world ∧ plan.Ready thread world :=
    stands_resting.and (stands_ready plan)
  have abandon : ∀ (_ : ApplicationError) (world : World),
      Resting terms thread world ∧ plan.Ready thread world → Resting terms thread world :=
    fun _ _ holds => holds.1
  refine .bind (Proves.consequence (fun _ => id)
    (Proves.calm (gentle_always rfl rfl) ready) (fun _ _ => id) abandon) fun now => ?_
  refine .bind (proves_newOperationId ready) fun operationId => ?_
  refine .bindTo (fun _ => Resting terms thread) ?_ fun result => ?_
  · refine .attempt (ready.and (stands_drawn _)) fun world sound holds _ => ?_
    have after : Resting terms thread (perform thread (.applyAgentCommand
        (plan.command actor metadata body now operationId)) world).2 :=
      resting_of_starting notWorker holds.1.1 rfl
    refine ⟨⟨fun _ impossible => impossible.elim, notWorker, rfl, ?_, holds.2, ?_⟩,
      fun _ _ => after, fun _ _ => after⟩
    · show operationAction plan.kind ≠ _
      cases plan.kind <;> decide
    · intro agent mutation
      exact holds.1.2 agent mutation
  · exact .bind (serves_gentle (gentle_wake _ _)) fun _ => .pure fun _ => id

theorem serves_submitDraft (actor : AuthenticatedPrincipal) (request : SubmitDraftRequest) :
    Serves setting terms thread (submitDraft actor request) := by
  refine .bind (serves_gentle (gentle_valid _)) fun _ => ?_
  refine .bind (serves_gentle (gentle_always rfl rfl)) fun draftId => ?_
  refine .bind (serves_gentle (gentle_always rfl rfl)) fun now => ?_
  refine .bind (Proves.attemptQuiet stands_resting
    (fun world => World.sameCore_method fun database =>
      SqliteStore.applyDraftCommand_aside _ database _ _ _ _ _)
    fun world _ => ⟨fun _ none => none.elim, ?_⟩) fun _ => .pure fun _ => id
  simp [submissionAudit]

/-- A plan that creates nothing is ready at all times. -/
theorem serves_execute (notWorker : thread ≠ .worker) (actor : AuthenticatedPrincipal)
    (metadata : CommandMetadata) (body : RequestBody) {plan : ExecutionPlan}
    (existing : ∀ agent, plan.mutation ≠ .create agent) :
    Serves setting terms thread (execute actor metadata body plan) :=
  Proves.consequence
    (fun _ resting => ⟨resting, fun agent creates => absurd creates (existing agent)⟩)
    (proves_execute notWorker actor metadata body plan) (fun _ _ => id)
    fun _ _ => id

theorem proves_prepareAgentCreate (stands : Stands setting terms thread pre) (id : AgentId)
    (input : CreateAgentInput) :
    Proves setting terms thread pre (prepareAgentCreate id input)
      (fun agent world => pre world ∧ agent.id = id ∧ agent.desiredState = .enabled)
      fun _ => pre := by
  refine .bindTo (fun file world => pre world ∧ file.id = id) ?_ fun file => ?_
  · refine Proves.attemptCalm rfl rfl stands ?_ fun _ _ holds => holds
    exact fun world _ _ file built => Files.buildCreateFile_id built
  refine .bindTo (fun resolved world => pre world ∧ resolved.spec.id = id ∧
    resolved.spec.desiredState = .enabled) ?_ fun resolved => Proves.pure fun _ holds => holds
  refine assume fun same => ?_
  refine Proves.attemptCalm rfl rfl stands ?_ fun _ _ holds => holds
  intro world _ _ resolved succeeded
  obtain ⟨named, -, desired⟩ := Files.resolve_spec succeeded
  exact ⟨named.trans same, desired⟩

variable (notWorker : thread ≠ .worker)

include notWorker

theorem proves_newAgentId : Proves setting terms thread (Resting terms thread)
      (always .newAgentId : Fallible Action Error AgentId)
      (fun id world => Resting terms thread world ∧ world.Owned thread id) failure := by
  refine .always stands_resting fun world sound resting _ => ?_
  refine ⟨⟨fun _ impossible => impossible.elim, trivial⟩,
    resting_of_starting notWorker resting rfl, AList.lookup_insert _, fun created => ?_⟩
  exact Nat.lt_irrefl _ (sound.createdDrawn _ created)

variable (actor : AuthenticatedPrincipal)

include actor

/-- Preparing, validating and submitting a new agent, then writing its file. -/
theorem serves_submitCreate (metadata : CommandMetadata) (body : RequestBody)
    (input : CreateAgentInput) (promoted : Option DraftId) :
    Serves setting terms thread (do
      let id ← Request.always .newAgentId
      let agent ← prepareAgentCreate id input
      Request.valid agent.validate
      let resource ← execute actor metadata body (createPlan agent promoted)
      finishCreate agent input resource) := by
  refine .bind (proves_newAgentId notWorker) fun id => ?_
  have owned : Stands setting terms thread
      fun world => Resting terms thread world ∧ world.Owned thread id :=
    stands_resting.and (stands_owned id)
  refine .bindTo (fun agent world => (Resting terms thread world ∧
      world.Owned thread id) ∧ agent.id = id ∧ agent.desiredState = .enabled)
    (Proves.consequence (fun _ holds => holds) (proves_prepareAgentCreate owned id input)
      (fun _ _ holds => holds) fun _ _ holds => holds.1) fun agent => ?_
  refine assume fun created => ?_
  refine .bind (Proves.consequence (fun _ holds => holds)
    (Proves.calm (gentle_valid _) owned) (fun _ _ holds => holds) fun _ _ holds => holds.1)
    fun _ => ?_
  refine .bind (Proves.consequence ?_ (proves_execute notWorker actor metadata body _)
    (fun _ _ holds => holds) fun _ _ holds => holds) fun resource =>
      serves_gentle (gentle_finishCreate agent input resource)
  intro world holds
  refine ⟨holds.1, fun other same => ?_⟩
  cases same
  exact ⟨created.2, created.1 ▸ holds.2⟩

theorem serves_updateAgent (request : UpdateAgentRequest) :
    Serves setting terms thread (updateAgent actor request) := by
  refine .bind (serves_gentle (gentle_attempt rfl rfl)) fun row => ?_
  refine .bind (serves_gentle (gentle_found row)) fun current => ?_
  refine .bind (serves_gentle
    (gentle_within (within_prepareAgentUpdate current _) (by decide))) fun _ => ?_
  exact serves_execute notWorker actor _ _ fun _ impossible => by cases impossible

theorem serves_changeAgentState (request : ChangeAgentStateRequest) :
    Serves setting terms thread (changeAgentState actor request) := by
  refine .bind (serves_gentle ?_) fun kind => ?_
  · cases request.desiredState with
    | enabled => exact gentle_pure _
    | disabled => exact gentle_pure _
    | deleted => exact gentle_throw _
  refine .bind (serves_gentle (gentle_attempt rfl rfl)) fun row => ?_
  refine .bind (serves_gentle (gentle_found row)) fun agent => ?_
  exact serves_execute notWorker actor _ _ fun _ impossible => by cases impossible

omit actor

theorem serves_deletedCommand (retentionSeconds : Int) (actor : AuthenticatedPrincipal)
    (request : AgentCommandRequest) (kind : OperationKind) :
    Serves setting terms thread (deletedCommand retentionSeconds actor request kind) := by
  refine .bind (serves_gentle (gentle_attempt rfl rfl)) fun row => ?_
  refine .bind (serves_gentle (gentle_found row)) fun agent => ?_
  refine .bind (serves_gentle (gentle_commandDeadline ..)) fun deadline => ?_
  exact serves_execute notWorker actor _ _ fun _ impossible => by cases impossible

theorem serves_promoteDraft (actor : AuthenticatedPrincipal) (request : PromoteDraftRequest) :
    Serves setting terms thread (promoteDraft actor request) := by
  refine .bind (serves_gentle (gentle_attempt rfl rfl)) fun row => ?_
  refine .bind (serves_gentle (gentle_found row)) fun draft => ?_
  refine .bind (serves_gentle (gentle_valid _)) fun _ => ?_
  exact serves_submitCreate notWorker actor _ _ draft.agent (some request.draftId)

theorem serves_removeCommunity (id : CommunityConfigId) :
    Serves setting terms thread (removeCommunity id) := by
  refine .bind (serves_gentle (gentle_attempt rfl rfl)) fun row => ?_
  refine .bind (serves_gentle (gentle_found row)) fun community => ?_
  refine .bind (serves_gentle (gentle_always rfl rfl)) fun now => ?_
  refine .bindTo (fun _ => Resting terms thread) ?_ fun purgedAgents => ?_
  · refine .attempt stands_resting fun world sound resting _ => ?_
    have after : Resting terms thread
        (perform thread (.deleteCommunityWithDeletedAgents id now) world).2 :=
      resting_of_starting notWorker resting rfl
    exact ⟨⟨fun _ impossible => impossible.elim, trivial⟩, fun _ _ => after, fun _ _ => after⟩
  refine .bind (calmAside ?_ stands_resting
    fun worker => absurd worker notWorker) fun _ => serves_gentle ?_
  · exact Fallible.uses_forEach _ fun agentId _ => .step rfl fun _ => .done _
  · split
    · refine uses_bind ?_ fun _ => gentle_pure _
      exact gentle_attempt rfl rfl
    · exact gentle_pure _

/-- Every request meets the terms. -/
theorem serves_request (retentionSeconds : Int) (actor : AuthenticatedPrincipal)
    (request : AgentRequest) :
    Serves setting terms thread (request.submit retentionSeconds actor) := by
  cases request with
  | create request =>
    exact serves_submitCreate notWorker actor request.metadata (.createInput request.agent)
      request.agent none
  | update request => exact serves_updateAgent notWorker actor request
  | changeState request => exact serves_changeAgentState notWorker actor request
  | delete request | purge request =>
    exact serves_deletedCommand notWorker retentionSeconds actor request _
  | promote request => exact serves_promoteDraft notWorker actor request

omit notWorker

variable (proves : Proves setting terms thread pre program (fun _ => post) fun _ => post)

include proves

/-- A program whose outcome does not matter. -/
theorem Proves.anyway :
    (conduct setting terms).Triple (daemon setting) terms.admits thread pre program.run
      fun _ => post :=
  Triple.consequence (fun _ _ => id) proves fun outcome _ holds => by
    cases outcome <;> exact holds

theorem Proves.dropped : (conduct setting terms).Triple (daemon setting) terms.admits thread pre
      (program.run.bind fun _ => .done ()) fun _ => post :=
  Triple.bind proves.anyway fun _ => Triple.done fun _ _ => id

omit proves

theorem triple_serve (notWorker : thread ≠ .worker) (retentionSeconds : Int)
    (actor : AuthenticatedPrincipal) (request : ApiRequest) :
    (conduct setting terms).Triple (daemon setting) terms.admits thread (Resting terms thread)
      (request.serve retentionSeconds actor) fun _ => Resting terms thread := by
  cases request <;> simp only [ApiRequest.serve]
  case agent request => exact (serves_request notWorker retentionSeconds actor request).dropped
  case submitDraft request => exact (serves_submitDraft actor request).dropped
  case joinCommunity request =>
    exact (serves_gentle (gentle_within (within_joinCommunity request) (by decide))).dropped
  case updateCommunity request =>
    exact (serves_gentle (gentle_within (within_updateCommunity request) (by decide))).dropped
  case removeCommunity id => exact (serves_removeCommunity notWorker id).dropped

end

/-! ### The main thread -/

section

/-- Writing back an agent: whatever the file says, the spec that is written is one of the same
agent with the community and the desired state that were read. -/
theorem proves_writeBack {failure : DaemonError → World → Prop} {agentId : AgentId}
    {agent : AgentSpec} (same : agent.id = agentId) (stands : Stands setting terms thread pre)
    (puts : ∀ spec world, world.Sound → pre world → spec.SameAgent agent →
      duty setting terms thread (.putAgent spec) world ∧
        post (perform thread (.putAgent spec) world).2)
    (abandon : ∀ error world, pre world → failure error world)
    (refused : ∀ error world, post world → failure error world) :
    Proves setting terms thread pre (writeBack agentId agent)
      (fun resolved world => post world ∧ resolved.spec.id = agentId) failure := by
  refine .bind (Proves.consequence (fun _ => id)
    (Proves.calm (gentle_ensureAgentFile _ agent) stands) (fun _ _ => id) abandon)
    fun _ => ?_
  refine .bindTo (fun file world => pre world ∧ file.id = agentId) ?_ fun file => ?_
  · refine Proves.attemptCalm rfl rfl stands ?_ abandon
    intro world _ _ file loaded
    simp only [perform] at loaded
    split at loaded
    · cases loaded
    · exact Files.loadAgent_id loaded
  refine .bindTo (fun resolved world => pre world ∧ resolved.spec.SameAgent agent) ?_
    fun resolved => ?_
  · refine assume fun named => ?_
    refine Proves.attemptCalm rfl rfl stands ?_ abandon
    intro world _ _ resolved succeeded
    obtain ⟨id, community, desired⟩ := Files.resolve_spec succeeded
    exact ⟨id.trans (named.trans same.symm), community, desired⟩
  refine assume fun agrees => ?_
  refine .bindTo (fun _ => post) ?_ fun _ =>
    Proves.pure fun _ holds => ⟨holds, agrees.1.trans same⟩
  refine .attempt stands fun world sound holds _ => ?_
  obtain ⟨done, reached⟩ := puts resolved.spec world sound holds agrees
  exact ⟨done, fun _ _ => reached, fun _ _ => refused _ _ reached⟩

theorem stands_starting (agents : List AgentSpec) :
    Stands setting terms .main fun world => world.starting = agents :=
  fun _ _ tolerated _ _ starting => (tolerated.starting rfl).trans starting

theorem gentle_sendWork (work : ReconcileWork) : Gentle (sendWork work) := gentle_attempt rfl rfl

theorem proves_startAgent (agent : AgentSpec) (rest : List AgentSpec) :
    Proves setting terms .main (fun world => world.starting = agent :: rest) (startAgent agent)
      (fun _ world => world.starting = rest) fun _ _ => True := by
  refine .bindTo (fun _ world => world.starting = rest) ?_ fun _ => ?_
  · refine .consequence (fun _ => id) (proves_writeBack rfl (stands_starting _)
      ?_ (fun _ _ _ => trivial) fun _ _ _ => trivial) (fun _ _ holds => holds.1)
      fun _ _ => id
    intro spec world _ starting agrees
    refine ⟨⟨fun _ impossible => impossible.elim, .inr ⟨rfl, agent, rest, starting, agrees⟩⟩, ?_⟩
    show (if Thread.main = .main then world.starting.tail else world.starting) = rest
    rw [if_pos rfl, starting, List.tail_cons]
  · exact .consequence (fun _ => id)
      (Proves.calm (gentle_sendWork _) (stands_starting rest)) (fun _ _ => id)
      fun _ _ _ => trivial

theorem proves_startupLoop (restarts : setting.restarts) :
    Proves setting terms .main (fun world => world.starting = []) startupLoop
      (fun _ world => world.starting = []) fun _ _ => True := by
  have calm : ∀ {Result : Type} {program : Task Result}, Gentle program →
      Proves setting terms .main (fun world => world.starting = []) program
        (fun _ world => world.starting = []) fun _ _ => True := fun gentle =>
    Proves.consequence (fun _ => id) (Proves.calm gentle (stands_starting []))
      (fun _ _ => id) fun _ _ _ => trivial
  refine .bind (calm (gentle_attempt rfl rfl)) fun operations => ?_
  refine .bind (calm ?_) fun _ => ?_
  · exact Fallible.uses_forEach operations fun operation _ => gentle_sendWork _
  refine .bindTo (fun agents world => world.starting = agents) ?_ fun agents =>
    Proves.forEach (fun listed world => world.starting = listed) proves_startAgent agents
  refine .attempt (stands_starting []) fun world _ _ _ => ?_
  refine ⟨⟨fun _ impossible => impossible.elim, rfl, restarts⟩, fun agents listed => ?_,
    fun _ _ => trivial⟩
  simp only [perform, World.query] at listed ⊢
  split at listed
  · cases listed
  · next available =>
    rw [if_pos ⟨trivial, Bool.eq_false_of_not_eq_true available⟩]
    exact Except.ok.inj listed

theorem triple_leaveScope (stands : Stands setting terms thread pre)
    (notWorker : thread ≠ .worker) :
    (conduct setting terms).Triple (daemon setting) terms.admits thread pre
      (Program.perform .leaveScope) fun _ => Resting terms thread := by
  refine step stands (fun world sound _ admitted => ?_) fun _ => Triple.done fun _ _ => id
  have done : duty setting terms thread .leaveScope world :=
    ⟨fun _ impossible => impossible.elim, trivial⟩
  exact ⟨done, keeps_of_duty sound done admitted, fun main => if_pos main,
    fun worker => absurd worker notWorker⟩

theorem triple_startup (restarts : setting.restarts) :
    (conduct setting terms).Triple (daemon setting) terms.admits .main
      (fun world => world.starting = []) startup fun _ => Resting terms .main := by
  refine Triple.bind (proves_startupLoop restarts) fun outcome => ?_
  cases outcome with
  | error error =>
    exact triple_leaveScope (fun _ _ _ _ _ => id) (by decide)
  | ok _ =>
    refine step (stands_starting []) (fun world sound starting admitted => ?_)
      fun _ => Triple.done fun _ _ => id
    have done : duty setting terms .main .serve world :=
      ⟨fun _ impossible => impossible.elim, trivial⟩
    exact ⟨done, keeps_of_duty sound done admitted, fun _ => starting,
      fun worker => by cases worker⟩

theorem serves_purgeExpired (notWorker : thread ≠ .worker) (retentionSeconds : Int)
    (agentId : AgentId) : Serves setting terms thread (purgeExpired retentionSeconds agentId) := by
  refine .bind (serves_gentle (gentle_attempt rfl rfl)) fun row => ?_
  refine .bind (serves_gentle (gentle_found row)) fun _ => ?_
  refine .bind (serves_gentle (gentle_attempt rfl rfl)) fun retention => ?_
  refine .bind (serves_gentle (gentle_always rfl rfl)) fun attempt => ?_
  exact .bind (serves_deletedCommand notWorker retentionSeconds ..) fun _ =>
    Proves.pure fun _ => id

theorem triple_retentionTick (retentionSeconds : Int) :
    (conduct setting terms).Triple (daemon setting) terms.admits .main (Resting terms .main)
      (retentionTick retentionSeconds) fun _ => Resting terms .main := by
  have sweeps : Serves setting terms .main (enqueueExpiredPurges retentionSeconds) := by
    refine .bind (serves_gentle (gentle_always rfl rfl)) fun now => ?_
    refine .bind (serves_gentle (gentle_attempt rfl rfl)) fun expired => ?_
    exact .forEach (fun _ => Resting terms .main)
      (fun agentId _ => serves_purgeExpired (by decide) _ agentId) expired
  refine Triple.bind sweeps fun outcome => ?_
  cases outcome with
  | ok _ => exact Triple.done fun _ _ => id
  | error error => exact triple_leaveScope stands_resting (by decide)

end

end BuzzServer
