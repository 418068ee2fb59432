/-
This file is about promoting a draft.

A promotion mints an agent id and prepares the agent before its transaction, so
two promotions of one draft may both get there. The conditional update at the
end of the transaction lets one of them through: no interleaving accepts two
commands that promote the same draft. What a later call is told is another
matter. It is told of the conflict, or given the original operation, only if
its preparation succeeds once more, because the draft's persona and prompt are
resolved before the tables are asked.
-/

import BuzzServer.Resubmission

namespace BuzzServer

open Relational Concurrent Concurrent.Fallible Relational.Transaction World

/-! ### One promotion per draft -/

/-- No two accepted commands promote the same draft. -/
def World.PromotesOnce (world : World) : Prop :=
  world.accepted.Pairwise fun first second =>
    ∀ id, first.promotedDraftId = some id → second.promotedDraftId ≠ some id

variable {id : DraftId}

section

variable {setting : Setting} {terms : Terms} {admits : Condition Thread Action World}
variable {thread : Thread} {before after : World} {Response : Type} {action : Action Response}

/-- A draft that an accepted command promoted cannot be promoted again. -/
theorem World.Recorded.not_promotable {world : World} (recorded : world.Recorded)
    {command : AgentCommand} (accepted : command ∈ world.accepted)
    (promotion : command.promotedDraftId = some id) : world.db.draftPromotable id = false := by
  obtain ⟨row, found, promoted⟩ := recorded.promotions command accepted id promotion
  unfold Database.draftPromotable
  rw [found]
  show row.promotedOperationId.isNone = false
  rw [promoted]
  rfl

theorem World.PromotesOnce.act (effect : Effect thread before action after)
    (recorded : before.Recorded) (once : before.PromotesOnce) : after.PromotesOnce := by
  unfold World.PromotesOnce at once ⊢
  rcases effect.keys with ⟨command, -, acceptable, grown, -⟩ | ⟨same, -⟩
  · rw [grown, List.pairwise_append]
    refine ⟨once, List.pairwise_singleton _ _, fun earlier member later last id promotion => ?_⟩
    rw [List.mem_singleton] at last
    subst last
    intro again
    have refused := recorded.not_promotable member promotion
    rw [acceptable.promotable id again] at refused
    cases refused
  · rw [same]
    exact once

theorem promotesOnce_persists :
    Persists setting terms admits fun world => world.Recorded ∧ world.PromotesOnce where
  act := fun sound done admitted effect holds =>
    ⟨recorded_persists.act sound done admitted effect holds.1, holds.2.act effect holds.1⟩
  quiet := fun same holds => by
    refine ⟨(recorded_persists : Persists setting terms admits _).quiet same holds.1, ?_⟩
    unfold World.PromotesOnce
    rw [same.accepted]
    exact holds.2
  exit := fun pid holds =>
    ⟨(recorded_persists : Persists setting terms admits _).exit pid holds.1, holds.2⟩
  receive := fun queue item resting holds =>
    ⟨(recorded_persists : Persists setting terms admits _).receive queue item resting holds.1,
      holds.2⟩
  reboot := fun restarts holds =>
    ⟨(recorded_persists : Persists setting terms admits _).reboot restarts holds.1, holds.2⟩

theorem Reachable.promotesOnce {pool : Pool Thread Action World}
    (reachable : Reachable setting admits pool) : pool.world.PromotesOnce := by
  have holds := (promotesOnce_persists : Persists setting .unconditional admits _).reachable
    (fun durable => durable.elim)
    (fun _ _ action world _ => Terms.unconditional_admits _ action world)
    (fun world fresh => ⟨fresh.recorded, by
      unfold World.PromotesOnce
      rw [fresh.accepted]
      exact List.Pairwise.nil⟩) reachable
  exact holds.2

end

/-! ### The answer to a second promotion -/

/-- The statements a second promotion gets through before the tables refuse it. -/
def WriteFaults.Refuses (faults : WriteFaults) (database : Database)
    (community : CommunityConfigId) : Prop :=
  faults .insertAgentSpec = false ∧ (community ∈ database.communityConfigs →
      faults .insertOperation = false ∧ faults .insertIdempotencyKey = false ∧
        faults .promoteDraft = false)

/-- The part of the transaction that records a command, for a draft that was promoted. -/
theorem recordCommand_repromotes (faults : WriteFaults) (command : AgentCommand)
    (database : Database) (promotes : command.promotedDraftId = some id)
    (freshOperation : command.operation.id ∉ database.operations)
    (references : database.agentReferenceHolds command.operation.agentId = true)
    (unused : (command.idempotency.scope, command.idempotency.key) ∉ database.idempotencyKeys)
    (promoted : database.draftPromotable id = false) (message : String) :
    recordCommand faults command database = .error (.conflict message) ↔
      (faults .insertOperation = false ∧ faults .insertIdempotencyKey = false ∧
        faults .promoteDraft = false) ∧
      "draft does not exist or was already promoted" = message := by
  simp only [recordCommand, promotes, bind_eq_error, insertOperation,
    insertIdempotencyKey, markDraftPromoted]
  unfold Database.draftPromotable at promoted ⊢
  simp [freshOperation, references, unused, promoted, and_assoc]

/-- A command that would promote a promoted draft is refused as a conflict exactly if no
statement before the refusal fails. A community that was removed is a conflict too. -/
theorem applyAgentCommand_repromotes (faults : WriteFaults) (command : AgentCommand)
    {database : Database} {agent : AgentSpec}
    (unused : database.idempotencyKeys.lookup
      (command.idempotency.scope, command.idempotency.key) = none)
    (creates : command.mutation = .create agent)
    (corresponds : command.mutation.Matches command.operation)
    (valid : agent.validate = .ok ()) (freshAgent : agent.id ∉ database.agentSpecs)
    (freshOperation : command.operation.id ∉ database.operations)
    (promotes : command.promotedDraftId = some id)
    (promoted : database.draftPromotable id = false) :
    (∃ message, (SqliteStore.applyAgentCommand faults command database).1 =
        .error (.conflict message)) ↔
      faults.Refuses database agent.communityConfigId := by
  have absent : (command.idempotency.scope, command.idempotency.key) ∉
      database.idempotencyKeys := AList.lookup_eq_none.mp unused
  obtain ⟨kind, owner⟩ : command.operation.kind = .createAgent ∧
      command.operation.agentId = some agent.id := by
    rw [creates] at corresponds
    exact corresponds
  have mutates : applyMutation faults command.operation command.mutation database =
      insertAgentSpec faults agent database := by
    rw [creates]
    simp [applyMutation, ensure, kind, owner, validateTransaction, valid]
  have references : ({ database with agentSpecs := database.agentSpecs.insert agent.id agent } :
      Database).agentReferenceHolds command.operation.agentId = true := by
    rw [owner]
    exact decide_eq_true ((AList.mem_insert _).mpr (.inl rfl))
  have records := recordCommand_repromotes faults command
    { database with agentSpecs := database.agentSpecs.insert agent.id agent } promotes
    freshOperation references absent promoted
  unfold SqliteStore.applyAgentCommand WriteFaults.Refuses
  rw [unused]
  simp only [transaction, atomically_eq_error, bind_eq_error, mutates, insertAgentSpec]
  by_cases known : agent.communityConfigId ∈ database.communityConfigs
  · simp [freshAgent, known, records]
  · simp [known, constraintViolation]

/-- Nothing was recorded: the tables, the files and the accepted commands are the same. -/
structure World.Untouched (before after : World) : Prop where
  db : after.db = before.db
  files : after.files = before.files
  accepted : after.accepted = before.accepted

/-- What a second promotion under a new key needs to be told of the conflict: the draft still
resolves, and no statement before the refusal fails. -/
def World.RefusesAgain (world : World) (request : PromoteDraftRequest) : Prop :=
  world.faults.storeUnavailable = false ∧ ∃ row agent,
    world.db.agentDrafts.lookup request.draftId = some row ∧ row.document.agent.validate = .ok () ∧
        world.prepared ⟨world.nextUuid⟩ row.document.agent = .ok agent ∧
          world.faults.writes.Refuses world.db agent.communityConfigId

section

variable {world : World} {actor : AuthenticatedPrincipal} (thread : Thread)

theorem ofStorage_eq_conflict {error : StorageError} {message : String} :
    ApplicationError.ofStorage error = .conflict message ↔ error = .conflict message := by
  cases error <;> simp [ApplicationError.ofStorage]

theorem World.prepared_ne_conflict {id : AgentId} {input : CreateAgentInput} {message : String} :
    world.prepared id input ≠ .error (.conflict message) := by
  unfold prepared
  split
  · next error _ => cases error <;> simp [agentFileApplicationError]
  · split
    · next error _ => cases error <;> simp [agentFileApplicationError]
    · simp

/-- The store refuses a second promotion under a new key, and nothing is recorded. -/
theorem execute_repromotes (world : World) (actor : AuthenticatedPrincipal)
    (metadata : CommandMetadata) (body : RequestBody) {agent : AgentSpec}
    (available : world.faults.storeUnavailable = false)
    (unused : world.db.idempotencyKeys.lookup
      (commandScope actor .createAgent, metadata.idempotencyKey) = none)
    (promoted : world.db.draftPromotable id = false) (valid : agent.validate = .ok ())
    (freshAgent : agent.id ∉ world.db.agentSpecs)
    (freshOperation : ⟨world.nextUuid⟩ ∉ world.db.operations) :
    ∃ error after, alone (perform thread)
        (execute actor metadata body (createPlan agent (some id))) world = (.error error, after) ∧
      world.Untouched after ∧ ((∃ message, error = .conflict message) ↔
        world.faults.writes.Refuses world.db agent.communityConfigId) := by
  have refusal := applyAgentCommand_repromotes world.faults.writes
    (world.planned actor metadata body (createPlan agent (some id))) unused rfl ⟨rfl, rfl⟩
    valid freshAgent freshOperation rfl promoted
  have answer : ∃ error,
      world.answer (world.planned actor metadata body (createPlan agent (some id))) =
        (.error error, world.db) := by
    rw [answer_of_available available]
    rcases SqliteStore.applyAgentCommand_cases world.faults.writes
      (world.planned actor metadata body (createPlan agent (some id))) world.db with
      failed | ⟨row, existing, bound, -⟩ | ⟨acceptable, -⟩
    · exact failed
    · cases unused.symm.trans bound
    · cases promoted.symm.trans (acceptable.promotable id rfl)
  obtain ⟨error, answer⟩ := answer
  rw [← answer_of_available available, answer] at refusal
  refine ⟨.ofStorage error, _, alone_execute_refused thread (congrArg Prod.fst answer),
    ⟨congrArg Prod.snd answer, rfl, ?_⟩, ?_⟩
  · show world.noteAccepted _ (world.answer _).1 = world.accepted
    rw [answer]
    rfl
  · rw [← refusal]
    simp only [ofStorage_eq_conflict, Except.error.injEq]

/-- A create that promotes a promoted draft fails and records nothing. -/
theorem create_repromotes {metadata : CommandMetadata} (body : RequestBody)
    (input : CreateAgentInput) (sound : world.Sound)
    (available : world.faults.storeUnavailable = false)
    (unused : world.db.idempotencyKeys.lookup
      (commandScope actor .createAgent, metadata.idempotencyKey) = none)
    (promoted : world.db.draftPromotable id = false) :
    ∃ error after, alone (perform thread) (do
          let drawn ← Request.always .newAgentId
          let agent ← prepareAgentCreate drawn input
          Request.valid agent.validate
          let resource ← execute actor metadata body (createPlan agent (some id))
          finishCreate agent input resource) world = (.error error, after) ∧
      world.Untouched after ∧ ((∃ message, error = .conflict message) ↔
        ∃ agent, world.prepared ⟨world.nextUuid⟩ input = .ok agent ∧
          world.faults.writes.Refuses world.db agent.communityConfigId) := by
  cases prepared : world.prepared ⟨world.nextUuid⟩ input with
  | error error =>
    refine ⟨error, _, alone_create_unprepared thread prepared, ⟨rfl, rfl, rfl⟩, ?_⟩
    refine iff_of_false ?_ (by simp)
    rintro ⟨message, rfl⟩
    exact prepared_ne_conflict prepared
  | ok agent =>
    rw [alone_create_prepared thread prepared]
    have freshOperation : (⟨world.nextUuid + 1⟩ : OperationId) ∉ world.db.operations := by
      intro member
      have drawn := sound.operationDrawn _ member
      exact absurd drawn (by simp)
    obtain ⟨error, after, refused, untouched, conflict⟩ := execute_repromotes thread
      (world.drawing thread) actor metadata body available unused promoted
      (prepared_valid prepared) (sound.prepared_fresh prepared) freshOperation
    refine ⟨error, after, alone_bind_error refused,
      ⟨untouched.db, untouched.files, untouched.accepted⟩, conflict.trans ?_⟩
    simp [drawing]

/-- A second promotion under a new key fails and records nothing, and it is told of the
conflict exactly if it gets that far. -/
theorem promoteDraft_again {request : PromoteDraftRequest} (sound : world.Sound)
    (unused : world.db.idempotencyKeys.lookup
      (commandScope actor .createAgent, request.metadata.idempotencyKey) = none)
    (promoted : world.db.draftPromotable request.draftId = false) :
    ∃ error after, alone (perform thread) (promoteDraft actor request) world =
        (.error error, after) ∧ world.Untouched after ∧
      ((∃ message, error = .conflict message) ↔ world.RefusesAgain request) := by
  by_cases drafted : ∃ row, world.Drafted request.draftId row
  · obtain ⟨row, drafted⟩ := drafted
    rw [alone_promoteDraft_drafted thread drafted]
    obtain ⟨error, after, failed, untouched, conflict⟩ := create_repromotes thread
      (.promoteDraft request) row.document.agent sound drafted.available unused promoted
    refine ⟨error, after, failed, untouched, conflict.trans ?_⟩
    unfold World.RefusesAgain
    simp [drafted.available, drafted.stored, drafted.valid]
  · obtain ⟨error, failed, distinct⟩ := alone_promoteDraft_undrafted thread actor drafted
    refine ⟨error, world, failed, ⟨rfl, rfl, rfl⟩, iff_of_false ?_ ?_⟩
    · rintro ⟨message, rfl⟩
      exact distinct message rfl
    · rintro ⟨available, row, agent, stored, valid, -⟩
      exact drafted ⟨row, available, stored, valid⟩

end

/-! ### Every interleaving -/

/-- In every world a run reaches: no draft was promoted twice; a later promotion under a new
key fails, records nothing, and reports the conflict exactly if it gets as far as the tables;
and a replay returns the original operation exactly if it can be resubmitted. -/
theorem promotion_once {setting : Setting} {pool : Pool Thread Action World}
    (reachable : Reachable setting (unrestricted Thread Action World) pool) :
    pool.world.PromotesOnce ∧
    ∀ (thread : Thread) (actor : AuthenticatedPrincipal) (request : PromoteDraftRequest),
      ∀ command ∈ pool.world.accepted, command.promotedDraftId = some request.draftId →
        (pool.world.db.idempotencyKeys.lookup
            (commandScope actor .createAgent, request.metadata.idempotencyKey) = none →
          ∃ error after, alone (perform thread) (promoteDraft actor request) pool.world =
              (.error error, after) ∧ pool.world.Untouched after ∧
            ((∃ message, error = .conflict message) ↔ pool.world.RefusesAgain request)) ∧
        (command.identity = (AgentRequest.promote request).identity actor →
          ((∃ operation, (alone (perform thread) (promoteDraft actor request)
              pool.world).1 = .ok operation ∧ operation.id = command.operation.id) ↔
            pool.world.faults.storeUnavailable = false ∧ ∃ existing,
              pool.world.db.operations.lookup command.operation.id = some existing ∧
                (AgentRequest.promote request).Resubmittable pool.world existing)) := by
  refine ⟨reachable.promotesOnce, fun thread actor request command accepted promotion => ⟨?_, ?_⟩⟩
  · intro unused
    exact promoteDraft_again thread reachable.sound unused
      (reachable.recorded.not_promotable accepted promotion)
  · intro identity
    exact resubmission_recorded_iff thread setting.retentionSeconds reachable.sound
      reachable.recorded accepted identity

namespace Deployment

/-- A draft is submitted with `k1` and promoted with `k2`. -/
def promotes : List Move :=
  answer (.submitDraft ⟨⟨"k1", "c"⟩, createInput⟩) ++
    answer (.agent (.promote ⟨⟨"k2", "c"⟩, ⟨1⟩⟩)) ++ work

def promoted : Pool Thread Action World := playAll ⟨2592000, False⟩ host promotes

theorem promoted_reachable :
    Reachable ⟨2592000, False⟩ (unrestricted Thread Action World) promoted :=
  reachable_playAll host_fresh _ (by decide)

/-- Then the agent is purged. -/
def promotedGone : Pool Thread Action World :=
  playAll ⟨2592000, False⟩ host (promotes ++ answer (purge "k3" ⟨2⟩) ++ work)

/-- The host with a file that prompts may point at. -/
def promptHost : World :=
  { host with files := ⟨∅, ∅, (∅ : Table String PromptFile).insert "/prompt" (.text "help")⟩ }

/-- A draft whose prompt is in that file is promoted, and then files cannot be read. -/
def promotedUnread : Pool Thread Action World :=
  playAll ⟨2592000, False⟩ promptHost
    (answer (.submitDraft ⟨⟨"k1", "c"⟩,
        { createInput with systemPrompt := none, systemPromptFile := some "/prompt" }⟩) ++
      answer (.agent (.promote ⟨⟨"k2", "c"⟩, ⟨1⟩⟩)) ++ work ++
      [.faults { Faults.none with fileRead := true }])

end Deployment

/-- The draft of the deployment was promoted once, a second promotion reports the conflict,
and the first one is replayed. -/
theorem promotion_once_promoted : (∃ error after, alone (perform (.request 1))
        (promoteDraft Deployment.admin ⟨⟨"k4", "c"⟩, ⟨1⟩⟩) Deployment.promoted.world =
          (.error error, after) ∧ Deployment.promoted.world.Untouched after ∧
        ((∃ message, error = .conflict message) ↔
          Deployment.promoted.world.RefusesAgain ⟨⟨"k4", "c"⟩, ⟨1⟩⟩)) ∧
    (alone (perform (.request 1))
        (promoteDraft Deployment.admin ⟨⟨"k4", "c"⟩, ⟨1⟩⟩) Deployment.promoted.world).1 =
      .error (.conflict "draft does not exist or was already promoted") := by
  have promoting : ∃ command ∈ Deployment.promoted.world.accepted,
      command.promotedDraftId = some ⟨1⟩ := by decide +kernel
  obtain ⟨command, accepted, promotion⟩ := promoting
  refine ⟨((promotion_once Deployment.promoted_reachable).2 (.request 1) Deployment.admin
    ⟨⟨"k4", "c"⟩, ⟨1⟩⟩ command accepted promotion).1 (by decide +kernel), by decide +kernel⟩

/-- Once the agent is purged the promotion cannot be replayed, and while the draft's prompt file
cannot be read a second promotion is not told of the conflict. -/
theorem promotion_unreplayed :
    Reachable ⟨2592000, False⟩ (unrestricted Thread Action World) Deployment.promotedGone ∧
    (∃ command ∈ Deployment.promotedGone.world.accepted, command.promotedDraftId = some ⟨1⟩ ∧
      command.identity = (AgentRequest.promote ⟨⟨"k2", "c"⟩, ⟨1⟩⟩).identity Deployment.admin) ∧
    (alone (perform (.request 1))
        (promoteDraft Deployment.admin ⟨⟨"k2", "c"⟩, ⟨1⟩⟩) Deployment.promotedGone.world).1 =
      .error .internal ∧
    Reachable ⟨2592000, False⟩ (unrestricted Thread Action World) Deployment.promotedUnread ∧
    (∃ command ∈ Deployment.promotedUnread.world.accepted,
      command.promotedDraftId = some ⟨1⟩) ∧
    ∃ message, (alone (perform (.request 1))
        (promoteDraft Deployment.admin ⟨⟨"k4", "c"⟩, ⟨1⟩⟩) Deployment.promotedUnread.world).1 =
      .error (.invalid ⟨"system_prompt_file", message⟩) :=
  ⟨reachable_playAll Deployment.host_fresh _ (by decide), by decide +kernel, by decide +kernel,
    reachable_playAll (by constructor <;> rfl) _ (by decide), by decide +kernel,
    "/prompt: cannot read file", by decide +kernel⟩

end BuzzServer
