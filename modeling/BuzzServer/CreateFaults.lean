/-
This file is about the failure points of a create.

A create commits its agent and operation, writes the agent's file, reads the
operation back and wakes the reconciler. Each of these steps can fail on its
own, after the ones before it took effect. Here the faults of every single step
are given by a script, and the result says for which scripts and worlds a call
that fails has added nothing, and a call that succeeds has queued its operation.
-/

import BuzzServer.Resubmission

namespace BuzzServer

open Relational Concurrent Concurrent.Fallible BuzzServer.SqliteStore Files Request World

/-! ### Faults of their own for every step -/

/-- The world with other faults. -/
def World.under (world : World) (faults : Faults) : World := { world with faults := faults }

/-- What an action does under the faults a script has for its step. The state counts the steps,
and the faults of the world itself stay out of the way. -/
def performUnder (script : Nat → Faults) (thread : Thread) ⦃Response : Type⦄
    (action : Action Response) (state : World × Nat) : Response × (World × Nat) :=
  ((perform thread action (state.1.under (script state.2))).1,
    ((perform thread action (state.1.under (script state.2))).2.under state.1.faults, state.2 + 1))

/-! ### What a call may leave -/

/-- No agent, operation, key, promotion or agent file is there that was not there before. -/
structure World.AddsNothing (before after : World) : Prop where
  agents : ∀ id ∈ after.db.agentSpecs, id ∈ before.db.agentSpecs
  operations : ∀ id ∈ after.db.operations, id ∈ before.db.operations
  keys : ∀ key ∈ after.db.idempotencyKeys, key ∈ before.db.idempotencyKeys
  promotions : ∀ id, before.db.draftPromotable id = true → after.db.draftPromotable id = true
  files : ∀ id ∈ after.files.agents, id ∈ before.files.agents

/-- A call that failed has added nothing, and a call that returned an operation still to be
carried out has queued it. -/
structure World.Reports (before : World) (outcome : Except ApplicationError DurableOperation)
    (after : World) : Prop where
  failed : ∀ error, outcome = .error error → before.AddsNothing after
  queued : ∀ operation, outcome = .ok operation → operation.status.isTerminal = false →
    .operation operation.id ∈ after.queue

variable {agent : AgentSpec} {operation existing : DurableOperation} {Result : Type}
  {before : World} {after : World}

/-- Neither the tables nor the files changed. -/
theorem World.addsNothing_of_same (tables : after.db = before.db)
    (files : after.files = before.files) : before.AddsNothing after :=
  ⟨fun _ member => tables ▸ member, fun _ member => tables ▸ member,
    fun _ member => tables ▸ member, fun _ promotable => tables ▸ promotable,
    fun _ member => files ▸ member⟩

/-- The world a scripted run began in, and what came of it. -/
abbrev World.ReportsRun (before : World)
    (run : Except ApplicationError DurableOperation × (World × Nat)) : Prop :=
  before.Reports run.1 run.2.1

theorem World.reports_error {error : ApplicationError} :
    before.Reports (.error error) after ↔ before.AddsNothing after := by
  constructor
  · intro reports
    exact reports.failed error rfl
  · intro nothing
    refine ⟨fun _ _ => nothing, fun _ impossible => ?_⟩
    cases impossible

theorem World.reports_ok : before.Reports (.ok operation) after ↔
      (operation.status.isTerminal = false → .operation operation.id ∈ after.queue) := by
  constructor
  · intro reports
    exact reports.queued operation rfl
  · intro queued
    refine ⟨fun _ impossible => ?_, fun _ same => ?_⟩
    · cases impossible
    · cases same
      exact queued

theorem World.reportsRun_error {error : ApplicationError} {after : World × Nat} :
    before.ReportsRun (.error error, after) ↔ before.AddsNothing after.1 :=
  reports_error

theorem World.reportsRun_ok {after : World × Nat} : before.ReportsRun (.ok operation, after) ↔
      (operation.status.isTerminal = false → .operation operation.id ∈ after.1.queue) :=
  reports_ok

theorem World.reports_congr {other after : World}
    {outcome : Except ApplicationError DurableOperation} (tables : other.db = before.db)
    (files : other.files = before.files) :
    other.Reports outcome after ↔ before.Reports outcome after := by
  have nothing : other.AddsNothing after ↔ before.AddsNothing after := by
    cases other
    cases tables
    cases files
    exact ⟨fun ⟨agents, operations, keys, promotions, agentFiles⟩ =>
        ⟨agents, operations, keys, promotions, agentFiles⟩,
      fun ⟨agents, operations, keys, promotions, agentFiles⟩ =>
        ⟨agents, operations, keys, promotions, agentFiles⟩⟩
  cases outcome with
  | error error => rw [reports_error, reports_error, nothing]
  | ok operation => rw [reports_ok, reports_ok]

/-! ### What the steps need -/

section

variable (script : Nat → Faults) (step : Nat) (files : Files) (id : AgentId)
  (input : CreateAgentInput)

/-- The input resolves, with files read in two steps. -/
def Files.PreparesUnder (agent : AgentSpec) : Prop :=
  ∃ file resolved, (files.readWith (script step).fileRead).buildCreateFile id input = .ok file ∧
    (files.readWith (script (step + 1)).fileRead).resolve file input.communityConfigId .enabled =
      .ok resolved ∧ resolved.spec = agent

/-- The agent has a file, or it can be built and written in the next steps. -/
def Files.PersistsUnder : Prop :=
  id ∈ files.agents ∨
    ∃ file, (files.readWith (script (step + 1)).fileRead).buildCreateFile id input = .ok file ∧
      file.validate = .ok () ∧ (script (step + 2)).fileWrite = false

/-- The step after the agent has its file. -/
def Files.persistedAt : Nat :=
  if id ∈ files.agents then step + 1 else step + 3

variable (operation : DurableOperation)

/-- The operation can be read back and, unless it has ended, queued. -/
def SendsUnder : Prop :=
  (script step).storeUnavailable = false ∧
    (operation.status.isTerminal = true ∨ (script (step + 1)).workerStopped = false)

/-- The rest of an accepted create gets through. -/
def Files.CompletesUnder : Prop :=
  files.PersistsUnder script step id input ∧ SendsUnder script (files.persistedAt step id) operation

/-- A replay that writes a missing file also gets through to the queue. -/
def Files.RepairsUnder (existing : DurableOperation) : Prop :=
  ∀ id, existing.agentId = some id → (script step).storeUnavailable = false →
    id ∉ files.agents → files.PersistsUnder script (step + 1) id input →
      SendsUnder script (step + 4) existing

end

/-! ### The steps -/

variable {input : CreateAgentInput}

section

variable (script : Nat → Faults) (thread : Thread) (world : World) (step : Nat)

theorem under_attempt {Other : Type} (translate : Other → ApplicationError)
    (action : Action (Except Other Result)) :
    alone (performUnder script thread) (attempt translate action) (world, step) =
      ((perform thread action (world.under (script step))).1.mapError translate,
        ((perform thread action (world.under (script step))).2.under world.faults, step + 1)) :=
  rfl

/-- A file operation that reads, in a step with faults of its own. -/
theorem under_read (action : Action (Except AgentFileError Result))
    {outcome : Except AgentFileError Result}
    (reads : perform thread action (world.under (script step)) =
      (outcome, world.under (script step))) :
    (∃ result, outcome = .ok result ∧
      alone (performUnder script thread) (Request.file action) (world, step) =
        (.ok result, (world, step + 1))) ∨
    (∀ result, outcome ≠ .ok result) ∧
      ∃ error, alone (performUnder script thread) (Request.file action) (world, step) =
        (.error error, (world, step + 1)) := by
  unfold Request.file
  rw [under_attempt, reads]
  cases outcome with
  | error error => exact .inr ⟨by simp, _, rfl⟩
  | ok result => exact .inl ⟨result, rfl, rfl⟩

theorem under_prepareAgentCreate (id : AgentId) (input : CreateAgentInput) :
    (∃ agent, world.files.PreparesUnder script step id input agent ∧
      alone (performUnder script thread) (prepareAgentCreate id input) (world, step) =
        (.ok agent, (world, step + 2))) ∨
    (∀ agent, ¬world.files.PreparesUnder script step id input agent) ∧
      ∃ error after, alone (performUnder script thread) (prepareAgentCreate id input)
        (world, step) = (.error error, (world, after)) := by
  unfold prepareAgentCreate
  rcases under_read script thread world step (.buildCreateFile id input) rfl with
    ⟨file, built, builds⟩ | ⟨refused, error, failed⟩
  · rw [alone_bind_ok builds]
    rcases under_read script thread world (step + 1)
        (.resolveAgentFile file input.communityConfigId .enabled) rfl with
      ⟨resolved, resolves, reads⟩ | ⟨refused, error, failed⟩
    · refine .inl ⟨resolved.spec, ⟨file, resolved, built, resolves, rfl⟩, ?_⟩
      rw [alone_bind_ok reads]
      rfl
    · refine .inr ⟨?_, error, _, alone_bind_error failed⟩
      rintro agent ⟨other, resolved, rebuilt, resolves, -⟩
      obtain rfl := Except.ok.inj (built.symm.trans rebuilt)
      exact refused resolved resolves
  · refine .inr ⟨?_, error, _, alone_bind_error failed⟩
    rintro agent ⟨file, -, built, -⟩
    exact refused file built

variable {id : AgentId}

theorem Files.PreparesUnder.unique {files : Files}
    {first second : AgentSpec} (one : files.PreparesUnder script step id input first)
    (other : files.PreparesUnder script step id input second) : first = second := by
  obtain ⟨file, resolved, built, resolves, rfl⟩ := one
  obtain ⟨again, once, rebuilt, reresolves, rfl⟩ := other
  obtain rfl := Except.ok.inj (built.symm.trans rebuilt)
  rw [Except.ok.inj (resolves.symm.trans reresolves)]

theorem Files.PreparesUnder.valid {files : Files}
    (prepares : files.PreparesUnder script step id input agent) : agent.validate = .ok () := by
  obtain ⟨file, resolved, -, resolves, rfl⟩ := prepares
  exact Files.resolve_valid resolves

theorem Files.PreparesUnder.fresh (sound : world.Sound)
    (prepares : world.files.PreparesUnder script step ⟨world.nextUuid⟩ input agent) :
    agent.id ∉ world.db.agentSpecs := by
  obtain ⟨file, resolved, built, resolves, rfl⟩ := prepares
  intro present
  have drawn := sound.createdDrawn _ (sound.agentCreated _ present)
  rw [(Files.resolve_spec resolves).1, Files.buildCreateFile_id built] at drawn
  exact absurd drawn (lt_irrefl _)

/-! ### After the commit -/

/-- The file of a created agent is there already or written in its steps, or it cannot be. -/
theorem under_persistAgentCreate (agent : AgentSpec) (input : CreateAgentInput) :
    (world.files.PersistsUnder script step agent.id input ∧ ∃ files,
      alone (performUnder script thread) (persistAgentCreate agent input) (world, step) =
        (.ok (), ({ world with files := files }, world.files.persistedAt step agent.id)) ∧
      agent.id ∈ files.agents ∧ (agent.id ∈ world.files.agents → files = world.files)) ∨
    ¬world.files.PersistsUnder script step agent.id input ∧
      ∃ error after, alone (performUnder script thread) (persistAgentCreate agent input)
        (world, step) = (.error error, (world, after)) := by
  have looked : alone (performUnder script thread) (Request.always (.agentFileExists agent.id))
      (world, step) = (.ok (world.files.agentExists agent.id), (world, step + 1)) := rfl
  unfold persistAgentCreate Files.persistedAt
  rw [alone_bind_ok looked]
  by_cases present : agent.id ∈ world.files.agents
  · rw [if_pos (by simpa [Files.agentExists] using present), if_pos present]
    exact .inl ⟨.inl present, world.files, rfl, present, fun _ => rfl⟩
  rw [if_neg (by simpa [Files.agentExists] using present), if_neg present]
  rcases under_read script thread world (step + 1) (.buildCreateFile agent.id input) rfl with
    ⟨file, built, builds⟩ | ⟨refused, error, failed⟩
  · rw [alone_bind_ok builds]
    unfold Request.file
    rw [under_attempt]
    by_cases writes : (world.under (script (step + 2))).Writes file
    · refine .inl ⟨.inr ⟨file, built, writes⟩, world.files.withAgent file, ?_, ?_,
        fun member => absurd member present⟩
      · rw [perform_writeAgentFile_ok thread writes]
        rfl
      · rw [← buildCreateFile_id built]
        exact (AList.mem_insert _).mpr (.inl rfl)
    · obtain ⟨error, failed⟩ := perform_writeAgentFile_error thread writes
      refine .inr ⟨?_, agentFileApplicationError error, step + 3, by rw [failed]; rfl⟩
      rintro (member | ⟨other, rebuilt, written⟩)
      · exact present member
      · obtain rfl := Except.ok.inj (built.symm.trans rebuilt)
        exact writes written
  · refine .inr ⟨?_, error, _, alone_bind_error failed⟩
    rintro (member | ⟨file, built, -⟩)
    · exact present member
    · exact refused file built

/-- A query, in a step with faults of its own. -/
theorem under_query {action : Action (Except StorageError Result)} {read : Database → Result}
    (queries : ∀ world, perform thread action world = (world.query read, world)) :
    alone (performUnder script thread) (Request.store action) (world, step) =
      (if (script step).storeUnavailable then .error .internal else .ok (read world.db),
        (world, step + 1)) := by
  unfold Request.store
  rw [under_attempt, queries]
  cases unavailable : (script step).storeUnavailable <;>
    simp [World.query, World.under, unavailable, Except.mapError, ApplicationError.ofStorage]

/-- What is left to do once the agent has its file. -/
def sendBack (operation : DurableOperation) : Request DurableOperation := do
  let current ← Request.store (.getOperation operation.id)
  match current with
  | none => return operation
  | some current => do
      wake true current
      return operation

/-- The operation is read back and queued, or it cannot be. -/
theorem under_sendBack (found : world.db.operations.lookup operation.id = some operation) :
    (SendsUnder script step operation ∧ ∃ after,
      alone (performUnder script thread) (sendBack operation) (world, step) =
        (.ok operation, after) ∧
      (operation.status.isTerminal = false → .operation operation.id ∈ after.1.queue)) ∨
    ¬SendsUnder script step operation ∧
      ∃ error after, alone (performUnder script thread) (sendBack operation) (world, step) =
        (.error error, (world, after)) := by
  have read := under_query script thread world step
    fun _ => show perform thread (.getOperation operation.id) _ = _ from rfl
  unfold sendBack SendsUnder
  cases available : (script step).storeUnavailable with
  | true =>
    rw [available] at read
    exact .inr ⟨by simp, _, _, alone_bind_error read⟩
  | false =>
    rw [available, found] at read
    rw [alone_bind_ok read]
    cases ended : operation.status.isTerminal with
    | true =>
      refine .inl ⟨by simp, (world, step + 1), ?_, by simp⟩
      simp only [wake, ended]
      rfl
    | false =>
      have sent : alone (performUnder script thread) (wake true operation) (world, step + 1) =
          if (script (step + 1)).workerStopped then (.error .internal, (world, step + 2))
          else (.ok (), ({ world with queue := world.queue ++ [.operation operation.id] },
            step + 2)) := by
        simp only [wake, ended, Bool.not_false, Bool.and_true, if_true]
        unfold operationReady
        rw [under_attempt]
        cases stopped : (script (step + 1)).workerStopped <;>
          simp [perform, World.under, stopped, failIf, Except.mapError]
      cases stopped : (script (step + 1)).workerStopped with
      | true =>
        rw [stopped] at sent
        exact .inr ⟨by simp, _, _, alone_bind_error sent⟩
      | false =>
        rw [stopped] at sent
        rw [alone_bind_ok sent]
        exact .inl ⟨by simp, _, rfl, fun _ => List.mem_append_right _ (List.mem_singleton_self _)⟩

/-! ### The commit -/

section

variable (actor : AuthenticatedPrincipal) (metadata : CommandMetadata) (body : RequestBody)
  (plan : ExecutionPlan) (later : plan.wakeImmediately = false)

/-- The clock is read, an id drawn, and the store asked in the third step. -/
theorem under_store_command : alone (performUnder script thread) (execute actor metadata body plan)
        (world, step) =
      alone (performUnder script thread) (do
          let result ← Request.store (.applyAgentCommand (world.planned actor metadata body plan))
          wake plan.wakeImmediately result.1
          return result.1)
        ({ world with nextUuid := world.nextUuid + 1 }, step + 2) := by
  have clock : alone (performUnder script thread) (Request.always .now : Request Int)
      (world, step) = (.ok world.clock, (world, step + 1)) := rfl
  have drawn : alone (performUnder script thread)
      (Request.always .newOperationId : Request OperationId) (world, step + 1) =
        (.ok ⟨world.nextUuid⟩, ({ world with nextUuid := world.nextUuid + 1 }, step + 2)) := rfl
  unfold execute World.planned
  rw [alone_bind_ok clock, alone_bind_ok drawn]

theorem under_applyAgentCommand (command : AgentCommand) :
    alone (performUnder script thread) (Request.store (.applyAgentCommand command))
        ({ world with nextUuid := world.nextUuid + 1 }, step) =
      (((world.under (script step)).answer command).1.mapError .ofStorage,
        (((world.under (script step)).answered command).under world.faults, step + 1)) :=
  rfl

include later

theorem under_execute_ok {replayed : Bool} (answer : ((world.under (script (step + 2))).answer
      (world.planned actor metadata body plan)).1 = .ok (operation, replayed)) :
    alone (performUnder script thread) (execute actor metadata body plan) (world, step) =
      (.ok operation, (((world.under (script (step + 2))).answered
        (world.planned actor metadata body plan)).under world.faults, step + 3)) := by
  have stored := under_applyAgentCommand script thread world (step + 2)
    (world.planned actor metadata body plan)
  rw [answer] at stored
  have idle (state : World × Nat) : alone (performUnder script thread)
      (wake false operation) state = (.ok (), state) := rfl
  rw [under_store_command, alone_bind_ok stored, later, alone_bind_ok (idle _), alone_pure]

omit later in
theorem under_execute_error {error : StorageError}
    (answer : ((world.under (script (step + 2))).answer
      (world.planned actor metadata body plan)).1 = .error error) :
    alone (performUnder script thread) (execute actor metadata body plan) (world, step) =
      (.error (.ofStorage error), (((world.under (script (step + 2))).answered
        (world.planned actor metadata body plan)).under world.faults, step + 3)) := by
  have stored := under_applyAgentCommand script thread world (step + 2)
    (world.planned actor metadata body plan)
  rw [answer] at stored
  rw [under_store_command, alone_bind_error stored]

end

/-! ### The rest of a create -/

theorem finishCreate_eq (input : CreateAgentInput) {resource : DurableOperation}
    (named : resource.agentId = some id) :
    finishCreate agent input resource = (do
      let committed ← committedAgent agent id
      persistAgentCreate committed input
      sendBack resource) := by
  unfold finishCreate
  rw [named]
  rfl

/-- The rest of a create for an agent that was just committed: it succeeds and queues the
operation, or fails and leaves the tables. -/
theorem under_finishCreate_accepted (agent : AgentSpec) (input : CreateAgentInput)
    (named : operation.agentId = some agent.id)
    (found : world.db.operations.lookup operation.id = some operation) :
    (world.files.CompletesUnder script step agent.id input operation ∧ ∃ after,
      alone (performUnder script thread) (finishCreate agent input operation)
          (world, step) = (.ok operation, after) ∧
        (operation.status.isTerminal = false → .operation operation.id ∈ after.1.queue)) ∨
    ¬world.files.CompletesUnder script step agent.id input operation ∧ ∃ error after,
      alone (performUnder script thread) (finishCreate agent input operation)
          (world, step) = (.error error, after) ∧ after.1.db = world.db := by
  have committed : alone (performUnder script thread) (committedAgent agent agent.id)
      (world, step) = (.ok agent, (world, step)) := by
    unfold committedAgent
    rw [if_pos rfl]
    rfl
  rw [finishCreate_eq input named, alone_bind_ok committed]
  rcases under_persistAgentCreate script thread world step agent input with
    ⟨persists, files, persisted, -, -⟩ | ⟨refused, error, after, failed⟩
  · rw [alone_bind_ok persisted]
    rcases under_sendBack script thread { world with files := files }
        (world.files.persistedAt step agent.id) found with
      ⟨sends, after, sent⟩ | ⟨unsent, error, after, failed⟩
    · exact .inl ⟨⟨persists, sends⟩, after, sent⟩
    · exact .inr ⟨fun completes => unsent completes.2, error, _, failed, rfl⟩
  · exact .inr ⟨fun completes => refused completes.1, error, _, alone_bind_error failed, rfl⟩

/-- Giving an agent its file and waking the reconciler fails without a trace, unless it is the
waking that fails after a file was written. -/
theorem under_repair (found : world.db.operations.lookup existing.id = some existing) :
    world.ReportsRun (alone (performUnder script thread) (do
            persistAgentCreate agent input
            sendBack existing) (world, step)) ↔
      (agent.id ∉ world.files.agents → world.files.PersistsUnder script step agent.id input →
        SendsUnder script (step + 3) existing) := by
  rcases under_persistAgentCreate script thread world step agent input with
    ⟨persists, files, persisted, member, kept⟩ | ⟨refused, error, after, failed⟩
  · rw [alone_bind_ok persisted]
    rcases under_sendBack script thread { world with files := files }
        (world.files.persistedAt step agent.id) found with
      ⟨sends, after, sent, queued⟩ | ⟨unsent, error, after, failed⟩
    · rw [sent, World.reportsRun_ok]
      refine iff_of_true queued fun absent _ => ?_
      rw [Files.persistedAt, if_neg absent] at sends
      exact sends
    · rw [failed, World.reportsRun_error]
      by_cases present : agent.id ∈ world.files.agents
      · exact iff_of_true (World.addsNothing_of_same rfl (kept present))
          fun absent => absurd present absent
      · rw [Files.persistedAt, if_neg present] at unsent
        exact iff_of_false (fun nothing => present (nothing.files _ member))
          fun safe => unsent (safe present persists)
  · rw [alone_bind_error failed, World.reportsRun_error]
    exact iff_of_true (World.addsNothing_of_same rfl rfl) fun _ again => absurd again refused

/-- The rest of a create after a replay reports what happened exactly if a file it writes is
followed by a wake. -/
theorem under_finishCreate_replayed (input : CreateAgentInput) (consistent : world.db.Consistent)
    (found : world.db.operations.lookup existing.id = some existing)
    (fresh : agent.id ∉ world.db.agentSpecs) :
    world.ReportsRun
        (alone (performUnder script thread) (finishCreate agent input existing) (world, step)) ↔
      world.files.RepairsUnder script step input existing := by
  unfold Files.RepairsUnder
  cases named : existing.agentId with
  | none =>
    have thrown : alone (performUnder script thread) (finishCreate agent input existing)
        (world, step) = (.error .internal, (world, step)) := by
      unfold finishCreate
      rw [named]
      rfl
    rw [thrown, World.reportsRun_error]
    exact iff_of_true (World.addsNothing_of_same rfl rfl) (by simp)
  | some id =>
    obtain ⟨row, present⟩ := Table.exists_lookup_of_mem
      (consistent.agentReference _ _ id found named)
    have sameId : row.id = id := consistent.agentKeyed id row present
    have other : id ≠ agent.id := by
      rintro rfl
      exact fresh (Table.mem_of_lookup present)
    have read := under_query script thread world step
      fun world => perform_getAgent_unshared thread world id
    rw [finishCreate_eq input named]
    cases available : (script step).storeUnavailable with
    | true =>
      rw [available] at read
      have failed : alone (performUnder script thread) (committedAgent agent id)
          (world, step) = (.error .internal, (world, step + 1)) := by
        unfold committedAgent
        rw [if_neg other]
        exact alone_bind_error read
      rw [alone_bind_error failed, World.reportsRun_error]
      exact iff_of_true (World.addsNothing_of_same rfl rfl) (by simp)
    | false =>
      rw [available, present] at read
      have committed : alone (performUnder script thread) (committedAgent agent id)
          (world, step) = (.ok row, (world, step + 1)) := by
        unfold committedAgent
        rw [if_neg other, alone_bind_ok read]
        rfl
      rw [alone_bind_ok committed, under_repair script thread world (step + 1) found, sameId]
      simp

/-! ### The whole call -/

variable (actor : AuthenticatedPrincipal)

/-- The command a create submits, for the id that was drawn for its agent before. -/
def World.createCommand (metadata : CommandMetadata)
    (body : RequestBody) (promoted : Option DraftId) (agent : AgentSpec) : AgentCommand :=
  (createPlan agent promoted).command actor metadata body world.clock ⟨world.nextUuid + 1⟩

/-- The scripts and worlds in which a create that begins with the step leaves nothing behind
if it fails: whenever its transaction commits, the file, the operation and the queue follow,
and whenever it replays and writes a missing file, the operation and the queue follow. -/
structure World.SettlesUnder (actor : AuthenticatedPrincipal) (metadata : CommandMetadata)
    (body : RequestBody) (promoted : Option DraftId) (input : CreateAgentInput) : Prop where
  accepted : ∀ agent, world.files.PreparesUnder script (step + 1) ⟨world.nextUuid⟩ input agent →
    (script (step + 5)).storeUnavailable = false →
    (world.createCommand actor metadata body promoted agent).Acceptable world.db →
    (∀ statement ∈ (world.createCommand actor metadata body promoted agent).statements,
      (script (step + 5)).writes statement = false) →
    world.files.CompletesUnder script (step + 6) agent.id input
      (world.createCommand actor metadata body promoted agent).operation
  replayed : ∀ agent, world.files.PreparesUnder script (step + 1) ⟨world.nextUuid⟩ input agent →
    (script (step + 5)).storeUnavailable = false → ∀ row existing,
    world.db.idempotencyKeys.lookup
      (commandScope actor .createAgent, metadata.idempotencyKey) = some row →
    row.requestHash = requestHash body →
    world.db.operations.lookup row.operationId = some existing →
    world.files.RepairsUnder script (step + 6) input existing

section

variable {actor : AuthenticatedPrincipal} {metadata : CommandMetadata} {body : RequestBody}
  {promoted : Option DraftId}

/-- The transaction of a create whose input was resolved, and what follows it. -/
def commitCreate (actor : AuthenticatedPrincipal) (metadata : CommandMetadata) (body : RequestBody)
    (promoted : Option DraftId) (agent : AgentSpec) (input : CreateAgentInput) :
    Request DurableOperation := do
  let resource ← execute actor metadata body (createPlan agent promoted)
  finishCreate agent input resource

theorem under_drawing :
    alone (performUnder script thread) (Request.always .newAgentId : Request AgentId)
      (world, step) = (.ok ⟨world.nextUuid⟩, (world.drawing thread, step + 1)) :=
  rfl

/-- A create that the store refuses leaves nothing. -/
theorem under_refused {error : StorageError}
    (answer : ((world.drawing thread).under (script (step + 5))).answer
      (world.createCommand actor metadata body promoted agent) = (.error error, world.db)) :
    world.ReportsRun (alone (performUnder script thread)
      (commitCreate actor metadata body promoted agent input)
      (world.drawing thread, step + 3)) := by
  have refused := under_execute_error script thread (world.drawing thread) (step + 3) actor
    metadata body (createPlan agent promoted) (congrArg Prod.fst answer)
  unfold commitCreate
  rw [alone_bind_error refused, World.reportsRun_error]
  exact World.addsNothing_of_same (congrArg Prod.snd answer) rfl

/-- The world a create goes on in after the store has answered. -/
theorem under_answered (input : CreateAgentInput) {replayed : Bool} {tables : Database}
    (answer : ((world.drawing thread).under (script (step + 5))).answer
      (world.createCommand actor metadata body promoted agent) =
        (.ok (operation, replayed), tables)) :
    ∃ after : World, alone (performUnder script thread)
        (commitCreate actor metadata body promoted agent input) (world.drawing thread, step + 3) =
        alone (performUnder script thread) (finishCreate agent input operation)
          (after, step + 6) ∧ after.db = tables ∧ after.files = world.files := by
  have executed := under_execute_ok script thread (world.drawing thread) (step + 3) actor
    metadata body (createPlan agent promoted) rfl (congrArg Prod.fst answer)
  unfold commitCreate
  rw [alone_bind_ok executed]
  exact ⟨_, rfl, congrArg Prod.snd answer, rfl⟩

/-- A replayed create. -/
theorem under_replayed_iff (sound : world.Sound) (fresh : agent.id ∉ world.db.agentSpecs)
    (found : world.db.operations.lookup existing.id = some existing)
    (answer : ((world.drawing thread).under (script (step + 5))).answer
      (world.createCommand actor metadata body promoted agent) = (.ok (existing, true), world.db)) :
    world.ReportsRun (alone (performUnder script thread)
        (commitCreate actor metadata body promoted agent input) (world.drawing thread, step + 3)) ↔
      world.files.RepairsUnder script (step + 6) input existing := by
  obtain ⟨after, continues, tables, files⟩ := under_answered script thread world step input answer
  have consistent := sound.consistent
  rw [← tables] at consistent found fresh
  rw [continues, World.ReportsRun, ← World.reports_congr tables files, ← files]
  exact under_finishCreate_replayed script thread after (step + 6) input consistent found fresh

/-- An accepted create. -/
theorem under_accepted_iff (fresh : agent.id ∉ world.db.agentSpecs)
    (answer : ((world.drawing thread).under (script (step + 5))).answer
      (world.createCommand actor metadata body promoted agent) =
        (.ok ((world.createCommand actor metadata body promoted agent).operation, false),
          (world.createCommand actor metadata body promoted agent).commit world.db)) :
    world.ReportsRun (alone (performUnder script thread)
        (commitCreate actor metadata body promoted agent input) (world.drawing thread, step + 3)) ↔
      world.files.CompletesUnder script (step + 6) agent.id input
        (world.createCommand actor metadata body promoted agent).operation := by
  obtain ⟨after, continues, tables, files⟩ := under_answered script thread world step input answer
  have found : after.db.operations.lookup
      (world.createCommand actor metadata body promoted agent).operation.id =
        some (world.createCommand actor metadata body promoted agent).operation := by
    rw [tables]
    exact AList.lookup_insert _
  have added : agent.id ∈ after.db.agentSpecs := by
    rw [tables]
    exact (AList.mem_insert _).mpr (.inl rfl)
  have finishes := under_finishCreate_accepted script thread after (step + 6) agent input rfl found
  rw [files] at finishes
  rw [continues]
  rcases finishes with ⟨completes, last, finished, queued⟩ | ⟨stuck, error, last, failed, kept⟩
  · rw [finished, World.reportsRun_ok]
    exact iff_of_true queued completes
  · rw [failed, World.reportsRun_error]
    refine iff_of_false (fun nothing => fresh (nothing.agents _ ?_)) stuck
    rw [kept]
    exact added

/-- Once its input resolved, a create reports what happened exactly if the rest gets through
after a commit, and after a replay that writes a file. -/
theorem under_committed_iff (sound : world.Sound) (fresh : agent.id ∉ world.db.agentSpecs) :
    world.ReportsRun (alone (performUnder script thread)
        (commitCreate actor metadata body promoted agent input) (world.drawing thread, step + 3)) ↔
      ((script (step + 5)).storeUnavailable = false →
        ((world.createCommand actor metadata body promoted agent).Acceptable world.db →
          (∀ statement ∈ (world.createCommand actor metadata body promoted agent).statements,
            (script (step + 5)).writes statement = false) →
          world.files.CompletesUnder script (step + 6) agent.id input
            (world.createCommand actor metadata body promoted agent).operation) ∧
        ∀ row existing, world.db.idempotencyKeys.lookup
            (commandScope actor .createAgent, metadata.idempotencyKey) = some row →
          row.requestHash = requestHash body →
          world.db.operations.lookup row.operationId = some existing →
          world.files.RepairsUnder script (step + 6) input existing) := by
  cases available : (script (step + 5)).storeUnavailable with
  | true =>
    exact iff_of_true
      (under_refused script thread world step (World.answer_of_unavailable available)) (by simp)
  | false =>
    have answers : ((world.drawing thread).under (script (step + 5))).answer
        (world.createCommand actor metadata body promoted agent) =
          applyAgentCommand (script (step + 5)).writes
            (world.createCommand actor metadata body promoted agent) world.db :=
      World.answer_of_available available
    rcases applyAgentCommand_cases (script (step + 5)).writes
      (world.createCommand actor metadata body promoted agent) world.db with
      ⟨error, failed⟩ | ⟨row, existing, bound, same, recorded, replays⟩ | ⟨acceptable, accepts⟩
    · refine iff_of_true (under_refused script thread world step (answers.trans failed))
        fun _ => ⟨fun acceptable quiet => ?_, fun row existing bound same recorded => ?_⟩
      · cases failed.symm.trans (applyAgentCommand_eq_new.mpr ⟨acceptable, quiet, rfl, rfl⟩)
      · cases failed.symm.trans (applyAgentCommand_replayed bound same recorded)
    · have named : world.db.operations.lookup existing.id = some existing := by
        rw [sound.consistent.operationKeyed _ _ recorded]
        exact recorded
      rw [under_replayed_iff script thread world step sound fresh named (answers.trans replays)]
      constructor
      · intro repairs _
        refine ⟨fun acceptable => ?_, fun row' existing' bound' _ recorded' => ?_⟩
        · cases acceptable.keyUnused.symm.trans bound
        · obtain rfl := Option.some.inj (bound.symm.trans bound')
          obtain rfl := Option.some.inj (recorded.symm.trans recorded')
          exact repairs
      · intro settles
        exact (settles rfl).2 row existing bound same recorded
    · rw [under_accepted_iff script thread world step fresh (answers.trans accepts)]
      constructor
      · intro completes _
        refine ⟨fun _ _ => completes, fun row existing bound => ?_⟩
        cases acceptable.keyUnused.symm.trans bound
      · intro settles
        exact (settles rfl).1 acceptable (applyAgentCommand_eq_new.mp accepts).2.1

/-- A create reports what happened exactly if it settles. -/
theorem under_create_iff (sound : world.Sound) :
    world.ReportsRun (alone (performUnder script thread) (do
            let id ← Request.always .newAgentId
            let agent ← prepareAgentCreate id input
            Request.valid agent.validate
            commitCreate actor metadata body promoted agent input) (world, step)) ↔
      world.SettlesUnder script step actor metadata body promoted input := by
  rw [alone_bind_ok (under_drawing script thread world step)]
  rcases under_prepareAgentCreate script thread (world.drawing thread) (step + 1)
      ⟨world.nextUuid⟩ input with ⟨agent, prepares, prepared⟩ | ⟨refused, error, after, failed⟩
  · have valid : alone (performUnder script thread) (Request.valid agent.validate)
        (world.drawing thread, step + 3) = (.ok (), (world.drawing thread, step + 3)) := by
      rw [prepares.valid script _]
      rfl
    rw [alone_bind_ok prepared, alone_bind_ok valid, under_committed_iff script thread world step
      sound (Files.PreparesUnder.fresh script world (step + 1) sound prepares)]
    constructor
    · intro settles
      refine ⟨fun other again available => ?_, fun other again available => ?_⟩
      · rw [again.unique script _ prepares]
        exact (settles available).1
      · exact (settles available).2
    · intro settles available
      exact ⟨settles.accepted agent prepares available, settles.replayed agent prepares available⟩
  · rw [alone_bind_error failed, World.reportsRun_error]
    exact iff_of_true (World.addsNothing_of_same rfl rfl)
      ⟨fun agent again => absurd again (refused agent),
        fun agent again => absurd again (refused agent)⟩

end

/-- A promotion settles if the create it goes on with does. -/
def World.PromotesUnder (request : PromoteDraftRequest) : Prop :=
  (script step).storeUnavailable = false → ∀ row,
    world.db.agentDrafts.lookup request.draftId = some row → row.document.agent.validate = .ok () →
        world.SettlesUnder script (step + 1) actor request.metadata (.promoteDraft request)
          (some request.draftId) row.document.agent

theorem under_promoteDraft_iff (sound : world.Sound) (actor : AuthenticatedPrincipal)
    (request : PromoteDraftRequest) :
    world.ReportsRun
        (alone (performUnder script thread) (promoteDraft actor request) (world, step)) ↔
      world.PromotesUnder script step actor request := by
  have read := under_query script thread world step
    fun _ => show perform thread (.getDraft request.draftId) _ = _ from rfl
  unfold promoteDraft World.PromotesUnder
  cases available : (script step).storeUnavailable with
  | true =>
    rw [available] at read
    rw [alone_bind_error read, World.reportsRun_error]
    exact iff_of_true (World.addsNothing_of_same rfl rfl) (by simp)
  | false =>
    rw [available] at read
    rw [alone_bind_ok read]
    cases stored : world.db.agentDrafts.lookup request.draftId with
    | none =>
      have absent : alone (performUnder script thread)
          (found (Option.map DraftRow.document none)) (world, step + 1) =
            (.error .notFound, (world, step + 1)) := rfl
      rw [alone_bind_error absent, World.reportsRun_error]
      exact iff_of_true (World.addsNothing_of_same rfl rfl) (by simp)
    | some row =>
      have present : alone (performUnder script thread)
          (found (Option.map DraftRow.document (some row))) (world, step + 1) =
            (.ok row.document, (world, step + 1)) := rfl
      rw [alone_bind_ok present]
      cases checked : row.document.agent.validate with
      | error error =>
        have refused : alone (performUnder script thread)
            (Request.valid (Except.error error : Except ValidationError Unit)) (world, step + 1) =
              (.error (.invalid error), (world, step + 1)) := rfl
        rw [alone_bind_error refused, World.reportsRun_error]
        refine iff_of_true (World.addsNothing_of_same rfl rfl) fun _ other same valid => ?_
        cases same
        cases checked.symm.trans valid
      | ok value =>
        refine (under_create_iff script thread world (step + 1) sound).trans ?_
        constructor
        · rintro settles - other same -
          cases same
          exact settles
        · intro settles
          exact settles rfl row rfl checked

end

/-- In every world a run reaches, whatever fails at which step: a create or a promotion that
fails has added nothing, and one that returns an unfinished operation has queued it, exactly
if it settles. -/
theorem create_reports_iff {setting : Setting} {pool : Pool Thread Action World}
    (reachable : Reachable setting (unrestricted Thread Action World) pool)
    (script : Nat → Faults) (thread : Thread) (actor : AuthenticatedPrincipal) :
    (∀ metadata input, pool.world.Reports
          (alone (performUnder script thread) (createAgent actor metadata input) (pool.world, 0)).1
          (alone (performUnder script thread) (createAgent actor metadata input)
            (pool.world, 0)).2.1 ↔
        pool.world.SettlesUnder script 0 actor metadata (.createInput input) none input) ∧
    ∀ request, pool.world.Reports (alone (performUnder script thread) (promoteDraft actor request)
            (pool.world, 0)).1
          (alone (performUnder script thread) (promoteDraft actor request) (pool.world, 0)).2.1 ↔
        pool.world.PromotesUnder script 0 actor request :=
  ⟨fun _ _ => under_create_iff script thread pool.world 0 reachable.sound,
    under_promoteDraft_iff script thread pool.world 0 reachable.sound actor⟩

namespace Deployment

/-- The create of the deployment, with faults of their own for every step. -/
def createUnder (script : Nat → Faults) :
    Except ApplicationError DurableOperation × (World × Nat) :=
  alone (performUnder script (.request 0)) (createAgent admin ⟨"k1", "c"⟩ createInput) (host, 0)

theorem host_reachable :
    Reachable ⟨2592000, False⟩ (unrestricted Thread Action World) (idlePool host) :=
  reachable_playAll host_fresh [] (by decide)

end Deployment

/-- If nothing fails, the create settles. -/
theorem create_reports_faultless :
    Deployment.host.SettlesUnder (fun _ => .none) 0 Deployment.admin ⟨"k1", "c"⟩
      (.createInput Deployment.createInput) none Deployment.createInput := by
  have succeeded : (Deployment.createUnder fun _ => .none).1 =
      .ok ⟨⟨2⟩, .createAgent, .pending, some ⟨1⟩, none, 0, 0, "c"⟩ := by decide +kernel
  have queued : (Deployment.createUnder fun _ => .none).2.1.queue = [.operation ⟨2⟩] := by
    decide +kernel
  refine ((create_reports_iff Deployment.host_reachable (fun _ => .none) (.request 0)
    Deployment.admin).1 ⟨"k1", "c"⟩ Deployment.createInput).mp ?_
  show Deployment.host.Reports (Deployment.createUnder fun _ => .none).1
    (Deployment.createUnder fun _ => .none).2.1
  rw [succeeded, World.reports_ok]
  exact fun _ => List.mem_singleton_self _

/-- The file cannot be written after the commit, or the queue is closed: the call fails, and the
agent and its pending operation are there with nothing queued. -/
theorem create_unreported :
    (Deployment.createUnder fun _ => { Faults.none with fileWrite := true }).1 = .error .internal ∧
    ⟨1⟩ ∈ (Deployment.createUnder
      fun _ => { Faults.none with fileWrite := true }).2.1.db.agentSpecs ∧
    ((Deployment.createUnder
      fun _ => { Faults.none with fileWrite := true }).2.1.db.operations.lookup
      ⟨2⟩).map DurableOperation.status = some .pending ∧
    (Deployment.createUnder fun _ => { Faults.none with fileWrite := true }).2.1.queue = [] ∧
    (Deployment.createUnder fun _ => { Faults.none with workerStopped := true }).1 =
      .error .internal ∧
    ⟨1⟩ ∈ (Deployment.createUnder
      fun _ => { Faults.none with workerStopped := true }).2.1.db.agentSpecs := by
  decide +kernel

end BuzzServer
