/-
This file computes what the programs of the lifecycle application do when one of
them runs on its own.

A property of a single call speaks about the world before it, the answer and the
world after it. Here each program gets one lemma for the case that it succeeds
and one for the case that it fails, with the condition under which it does
either as a predicate on the world before. The properties of calls are put
together from these lemmas and never unfold a program.
-/

import BuzzServer.Daemon.Application
import BuzzServer.Storage.Command

namespace BuzzServer

open Relational Concurrent Concurrent.Fallible Files Request World

/-! ### Writing a file -/

theorem failIf_eq_ok {Error Result : Type} {fault : Bool} {error : Error} {result value : Result} :
    failIf fault error result = .ok value ↔ fault = false ∧ result = value := by
  unfold failIf
  cases fault <;> simp

/-- The configuration is valid, and files can be written. -/
def World.Writes (world : World) (file : AgentConfigFile) : Prop :=
  file.validate = .ok () ∧ world.faults.fileWrite = false

variable {command : AgentCommand} {agent current : AgentSpec} {replayed : Bool}
  {operation : DurableOperation} {changes : UpdateAgentInput} {actor : AuthenticatedPrincipal}
  {input : CreateAgentInput}

section

variable (thread : Thread) {world : World}

theorem perform_writeAgentFile_ok {file : AgentConfigFile} (writes : world.Writes file) :
    perform thread (.writeAgentFile file) world =
      (.ok (), { world with files := world.files.withAgent file }) := by
  obtain ⟨valid, writable⟩ := writes
  simp only [perform, valid, writable]
  rfl

theorem perform_writeAgentFile_error {file : AgentConfigFile} (refused : ¬world.Writes file) :
    ∃ error, perform thread (.writeAgentFile file) world = (.error error, world) := by
  simp only [perform]
  cases valid : file.validate with
  | error error => exact ⟨_, rfl⟩
  | ok value =>
    cases unwritable : world.faults.fileWrite with
    | false => exact absurd ⟨valid, unwritable⟩ refused
    | true => exact ⟨_, rfl⟩

/-! ### The file of an agent -/

/-- The agent has a file, or its default file can be written. -/
def World.Provides (world : World) (spec : AgentSpec) : Prop :=
  spec.id ∈ world.files.agents ∨ world.Writes spec.defaultFile

/-- The files once the agent has one. -/
def World.provided (world : World) (spec : AgentSpec) : Files :=
  if spec.id ∈ world.files.agents then world.files
  else world.files.withAgent spec.defaultFile

section

variable {Error : Type} {translate : AgentFileError → Error} {spec : AgentSpec}

theorem alone_ensureAgentFile_ok (provides : world.Provides spec) :
    alone (perform thread) (ensureAgentFile translate spec) world =
      (.ok (), { world with files := world.provided spec }) := by
  unfold ensureAgentFile provided
  show alone _ (if world.files.agentExists spec.id then _ else _) world = _
  by_cases present : spec.id ∈ world.files.agents
  · rw [if_pos (by simpa [agentExists] using present), if_pos present]
    rfl
  · rw [if_neg (by simpa [agentExists] using present), if_neg present,
      alone_attempt, perform_writeAgentFile_ok thread (provides.resolve_left present)]
    rfl

theorem alone_ensureAgentFile_error (refused : ¬world.Provides spec) :
    ∃ error, alone (perform thread) (ensureAgentFile translate spec) world =
      (.error error, world) := by
  show ∃ error, alone _ (if world.files.agentExists spec.id then _ else _) world = _
  have absent : spec.id ∉ world.files.agents := fun present => refused (.inl present)
  obtain ⟨error, failed⟩ := perform_writeAgentFile_error thread fun writes => refused (.inr writes)
  rw [if_neg (by simpa [agentExists] using absent), alone_attempt, failed]
  exact ⟨_, rfl⟩

end

/-! ### Updating a file -/

/-- The configuration an update writes over the agent's file. -/
structure World.Rewrites (world : World) (current : AgentSpec) (changes : UpdateAgentInput)
    (updated : AgentConfigFile) : Prop where
  provides : world.Provides current
  readable : world.faults.fileRead = false
  changed : ∃ file, (world.provided current).loadAgent current.id = .ok file ∧
    changes.updateFile file = .ok updated
  writes : world.Writes updated

theorem alone_loadAgentFile_ok {files : Files} {file : AgentConfigFile}
    (readable : world.faults.fileRead = false) (loaded : files.loadAgent current.id = .ok file) :
    alone (perform thread) (Request.file (.loadAgentFile current.id))
      { world with files := files } = (.ok file, { world with files := files }) := by
  simp [Request.file, perform, readable, loaded, Except.mapError]

theorem alone_prepareAgentUpdate_ok {updated : AgentConfigFile}
    (rewrites : world.Rewrites current changes updated) :
    alone (perform thread) (prepareAgentUpdate current changes) world =
      (.ok (), { world with files := (world.provided current).withAgent updated }) := by
  obtain ⟨provides, readable, ⟨file, loaded, changed⟩, writes⟩ := rewrites
  unfold prepareAgentUpdate
  rw [alone_bind_ok (alone_ensureAgentFile_ok thread provides)]
  rw [alone_bind_ok (alone_loadAgentFile_ok thread readable loaded), changed]
  show alone _ (Request.file (.writeAgentFile updated)) _ = _
  unfold Request.file
  rw [alone_attempt, perform_writeAgentFile_ok]
  · rfl
  · exact writes

theorem alone_prepareAgentUpdate_unprovided (changes : UpdateAgentInput)
    (refused : ¬world.Provides current) :
    ∃ error, alone (perform thread) (prepareAgentUpdate current changes) world =
      (.error error, world) := by
  obtain ⟨error, failed⟩ : ∃ error, alone (perform thread)
      (ensureAgentFile agentFileApplicationError current) world = (.error error, world) :=
    alone_ensureAgentFile_error thread refused
  exact ⟨error, alone_bind_error failed⟩

/-- An update that does not go through leaves the default file behind if it wrote that. -/
theorem alone_prepareAgentUpdate_error (provides : world.Provides current)
    (refused : ∀ updated, ¬world.Rewrites current changes updated) :
    ∃ error, alone (perform thread) (prepareAgentUpdate current changes) world =
      (.error error, { world with files := world.provided current }) := by
  unfold prepareAgentUpdate
  rw [alone_bind_ok (alone_ensureAgentFile_ok thread provides)]
  cases readable : world.faults.fileRead with
  | true =>
    refine ⟨agentFileApplicationError .io, alone_bind_error ?_⟩
    simp [Request.file, perform, readable, Except.mapError]
  | false =>
    cases loaded : (world.provided current).loadAgent current.id with
    | error error =>
      refine ⟨agentFileApplicationError error, alone_bind_error ?_⟩
      simp [Request.file, perform, readable, loaded, Except.mapError]
    | ok file =>
      rw [alone_bind_ok (alone_loadAgentFile_ok thread readable loaded)]
      cases changed : changes.updateFile file with
      | error error => exact ⟨_, alone_bind_error rfl⟩
      | ok updated =>
        have unwritten : ¬({ world with files := world.provided current } : World).Writes updated :=
          fun writes => refused updated ⟨provides, readable, ⟨file, loaded, changed⟩, writes⟩
        obtain ⟨error, failed⟩ := perform_writeAgentFile_error thread unwritten
        refine ⟨agentFileApplicationError error, ?_⟩
        show alone _ (Request.file (.writeAgentFile updated)) _ = _
        unfold Request.file
        rw [alone_attempt, failed]
        rfl

theorem alone_prepareAgentUpdate_eq_ok {after : World}
    (prepared : alone (perform thread) (prepareAgentUpdate current changes) world =
      (.ok (), after)) : ∃ updated, world.Rewrites current changes updated := by
  by_contra refused
  rw [not_exists] at refused
  by_cases provides : world.Provides current
  · obtain ⟨error, failed⟩ := alone_prepareAgentUpdate_error thread provides refused
    cases prepared.symm.trans failed
  · obtain ⟨error, failed⟩ := alone_prepareAgentUpdate_unprovided thread changes provides
    cases prepared.symm.trans failed

/-! ### The file the agent has then -/

theorem World.Rewrites.id {updated : AgentConfigFile}
    (rewrites : world.Rewrites current changes updated) : updated.id = current.id := by
  obtain ⟨file, loaded, changed⟩ := rewrites.changed
  obtain ⟨-, rfl⟩ := UpdateAgentInput.updateFile_eq_ok.mp changed
  show file.id = current.id
  exact loadAgent_id loaded

theorem World.Rewrites.unique {first second : AgentConfigFile}
    (one : world.Rewrites current changes first) (other : world.Rewrites current changes second) :
    first = second := by
  obtain ⟨file, loaded, changed⟩ := one.changed
  obtain ⟨again, reloaded, rechanged⟩ := other.changed
  obtain rfl := Except.ok.inj (loaded.symm.trans reloaded)
  exact Except.ok.inj (changed.symm.trans rechanged)

/-! ### Reading an agent -/

theorem perform_getAgent_unshared (world : World) (id : AgentId) :
    perform thread (.getAgent .unshared id) world =
      (world.query fun db => db.agentSpecs.lookup id, world) := by
  have kept : ∀ target current, target ≠ AgentSlot.unshared →
      noteRead thread .unshared target (world.query fun db => db.agentSpecs.lookup id)
        current = current := by
    intro target current other
    unfold noteRead
    split
    · exact if_neg fun same => other same.2.symm
    · rfl
  simp only [perform, kept _ _ (by decide : AgentSlot.cached ≠ .unshared),
    kept _ _ (by decide : AgentSlot.reconciled ≠ .unshared)]

variable {id : AgentId}

theorem alone_getAgent_ok (available : world.faults.storeUnavailable = false) :
    alone (perform thread) (store (.getAgent .unshared id)) world =
      (.ok (world.db.agentSpecs.lookup id), world) := by
  unfold store
  rw [alone_attempt, perform_getAgent_unshared]
  simp [query, available, Except.mapError]

theorem alone_getAgent_error (unavailable : world.faults.storeUnavailable = true) :
    alone (perform thread) (store (.getAgent .unshared id)) world = (.error .internal, world) := by
  unfold store
  rw [alone_attempt, perform_getAgent_unshared]
  simp [query, unavailable, Except.mapError, ApplicationError.ofStorage]

theorem alone_found_none {Result : Type} :
    alone (perform thread) (found (none : Option Result)) world = (.error .notFound, world) :=
  rfl

theorem alone_found_some {Result : Type} (row : Result) :
    alone (perform thread) (found (some row)) world = (.ok row, world) :=
  rfl

/-- A program that begins by reading an agent goes on with the agent it found. -/
theorem alone_readAgent_of_found {Result : Type} {rest : AgentSpec → Request Result}
    (available : world.faults.storeUnavailable = false)
    (found : world.db.agentSpecs.lookup id = some agent) :
    alone (perform thread) (do
          let row ← store (.getAgent .unshared id)
          let agent ← Request.found row
          rest agent) world = alone (perform thread) (rest agent) world := by
  rw [alone_bind_ok (alone_getAgent_ok thread available), found,
    alone_bind_ok (alone_found_some thread agent)]

/-! ### Executing a plan -/

/-- The command a plan submits in a world. -/
def World.planned (world : World) (actor : AuthenticatedPrincipal) (metadata : CommandMetadata)
    (body : RequestBody) (plan : ExecutionPlan) : AgentCommand :=
  plan.command actor metadata body world.clock ⟨world.nextUuid⟩

/-- The reconciler can be woken for the operation, or need not be. -/
def World.Wakes (world : World) (immediately : Bool) (operation : DurableOperation) : Prop :=
  immediately = false ∨ operation.status.isTerminal = true ∨ world.faults.workerStopped = false

/-- The queue once the reconciler was woken. -/
def World.woken (world : World) (immediately : Bool) (operation : DurableOperation) : World :=
  { world with
    queue := if immediately && !operation.status.isTerminal then
      world.queue ++ [.operation operation.id] else world.queue }

theorem alone_wake_ok {immediately : Bool} (wakes : world.Wakes immediately operation) :
    alone (perform thread) (wake immediately operation) world =
      (.ok (), world.woken immediately operation) := by
  unfold wake woken
  split
  · next due =>
    rw [Bool.and_eq_true, Bool.not_eq_true'] at due
    have running : world.faults.workerStopped = false := by
      rcases wakes with idle | ended | running
      · rw [due.1] at idle
        cases idle
      · rw [due.2] at ended
        cases ended
      · exact running
    simp [operationReady, perform, running, failIf, Except.mapError]
  · rfl

theorem alone_wake_error {immediately : Bool} (refused : ¬world.Wakes immediately operation) :
    alone (perform thread) (wake immediately operation) world = (.error .internal, world) := by
  simp only [World.Wakes, not_or] at refused
  obtain ⟨due, unfinished, stopped⟩ := refused
  simp [wake, due, unfinished, operationReady, perform, stopped, failIf, Except.mapError]

/-- What the store says to a command in a world. -/
def World.answer (world : World) (command : AgentCommand) :
    Except StorageError (DurableOperation × Bool) × Database :=
  world.method (SqliteStore.applyAgentCommand world.faults.writes command)

/-- The world once the store has answered a command that drew its own operation id. -/
def World.answered (world : World) (command : AgentCommand) : World :=
  { world with
    db := (world.answer command).2
    nextUuid := world.nextUuid + 1
    accepted := world.noteAccepted command (world.answer command).1 }

section

variable {metadata : CommandMetadata} {body : RequestBody} {plan : ExecutionPlan}

/-- The clock is read and the operation id drawn before the store is asked. -/
theorem alone_execute : alone (perform thread) (execute actor metadata body plan) world =
      alone (perform thread) (do
          let result ← store (.applyAgentCommand (world.planned actor metadata body plan))
          wake plan.wakeImmediately result.1
          return result.1)
        { world with nextUuid := world.nextUuid + 1 } := by
  rfl

theorem alone_store_command (world : World) (command : AgentCommand) :
    alone (perform thread) (store (.applyAgentCommand command))
        { world with nextUuid := world.nextUuid + 1 } =
      ((world.answer command).1.mapError .ofStorage, world.answered command) :=
  rfl

variable (answer : (world.answer (world.planned actor metadata body plan)).1 =
  .ok (operation, replayed))

include answer

theorem alone_execute_of_answer :
    alone (perform thread) (execute actor metadata body plan) world = alone (perform thread) (do
          wake plan.wakeImmediately operation
          return operation) (world.answered (world.planned actor metadata body plan)) := by
  have stored := alone_store_command thread world (world.planned actor metadata body plan)
  rw [answer] at stored
  rw [alone_execute, alone_bind_ok stored]

theorem alone_execute_ok (wakes : world.Wakes plan.wakeImmediately operation) :
    alone (perform thread) (execute actor metadata body plan) world =
      (.ok operation, (world.answered (world.planned actor metadata body plan)).woken
        plan.wakeImmediately operation) := by
  rw [alone_execute_of_answer thread answer]
  exact alone_bind_ok (alone_wake_ok thread wakes)

theorem alone_execute_unwoken (asleep : ¬world.Wakes plan.wakeImmediately operation) :
    alone (perform thread) (execute actor metadata body plan) world =
      (.error .internal, world.answered (world.planned actor metadata body plan)) := by
  rw [alone_execute_of_answer thread answer]
  exact alone_bind_error (alone_wake_error thread asleep)

omit answer

theorem alone_execute_refused {error : StorageError}
    (answer : (world.answer (world.planned actor metadata body plan)).1 = .error error) :
    alone (perform thread) (execute actor metadata body plan) world =
      (.error (.ofStorage error), world.answered (world.planned actor metadata body plan)) := by
  have stored := alone_store_command thread world (world.planned actor metadata body plan)
  rw [answer] at stored
  rw [alone_execute, alone_bind_error stored]

end

/-! ### What the store answers -/

theorem World.answer_of_available (available : world.faults.storeUnavailable = false) :
    world.answer command = SqliteStore.applyAgentCommand world.faults.writes command world.db := by
  unfold answer method
  rw [available]
  rfl

theorem World.answer_of_unavailable (unavailable : world.faults.storeUnavailable = true) :
    world.answer command = (.error .database, world.db) := by
  unfold answer method
  rw [unavailable]
  rfl

/-- The store accepts a command as new exactly if it can be reached, the tables allow the
command and no statement of it fails. -/
theorem World.answer_accepted_iff :
    world.answer command = (.ok (command.operation, false), command.commit world.db) ↔
      world.faults.storeUnavailable = false ∧ command.Acceptable world.db ∧
        ∀ statement ∈ command.statements, world.faults.writes statement = false := by
  cases unavailable : world.faults.storeUnavailable with
  | true =>
    rw [answer_of_unavailable unavailable]
    simp
  | false =>
    rw [answer_of_available unavailable, SqliteStore.applyAgentCommand_eq_new]
    simp

/-! ### Creating an agent -/

/-- The spec a create resolves its input to, or why it does not. -/
def World.prepared (world : World) (id : AgentId) (input : CreateAgentInput) :
    Except ApplicationError AgentSpec :=
  match world.readable.buildCreateFile id input with
  | .error error => .error (agentFileApplicationError error)
  | .ok file =>
      match world.readable.resolve file input.communityConfigId .enabled with
      | .error error => .error (agentFileApplicationError error)
      | .ok resolved => .ok resolved.spec

theorem alone_prepareAgentCreate (world : World) (id : AgentId) (input : CreateAgentInput) :
    alone (perform thread) (prepareAgentCreate id input) world =
      (world.prepared id input, world) := by
  unfold prepareAgentCreate prepared Request.file
  have builds : alone (perform thread) (attempt agentFileApplicationError
      (.buildCreateFile id input)) world =
        ((world.readable.buildCreateFile id input).mapError agentFileApplicationError, world) := rfl
  cases built : world.readable.buildCreateFile id input with
  | error error =>
    rw [built] at builds
    exact alone_bind_error builds
  | ok file =>
    rw [built] at builds
    rw [alone_bind_ok builds]
    have resolves : alone (perform thread) (attempt
        agentFileApplicationError (.resolveAgentFile file input.communityConfigId .enabled))
          world = ((world.readable.resolve file input.communityConfigId .enabled).mapError
            agentFileApplicationError, world) := rfl
    dsimp only
    cases resolved : world.readable.resolve file input.communityConfigId .enabled with
    | error error =>
      rw [resolved] at resolves
      exact alone_bind_error resolves
    | ok config =>
      rw [resolved] at resolves
      rw [alone_bind_ok resolves, alone_pure]

theorem World.prepared_eq_ok :
    world.prepared id input = .ok agent ↔ ∃ file resolved,
        world.readable.buildCreateFile id input = .ok file ∧
          world.readable.resolve file input.communityConfigId .enabled = .ok resolved ∧
            resolved.spec = agent := by
  unfold prepared
  cases built : world.readable.buildCreateFile id input with
  | error error => simp
  | ok file =>
    cases resolves : world.readable.resolve file input.communityConfigId .enabled with
    | error error => simp [resolves]
    | ok resolved => simp [resolves]

theorem World.prepared_valid
    (prepared : world.prepared id input = .ok agent) : agent.validate = .ok () := by
  obtain ⟨file, resolved, -, resolves, rfl⟩ := prepared_eq_ok.mp prepared
  exact resolve_valid resolves

theorem World.prepared_id (prepared : world.prepared id input = .ok agent) : agent.id = id := by
  obtain ⟨file, resolved, built, resolves, rfl⟩ := prepared_eq_ok.mp prepared
  rw [(resolve_spec resolves).1, buildCreateFile_id built]

/-- The world once an agent id was drawn. -/
def World.drawing (world : World) (thread : Thread) : World :=
  { world with
    nextUuid := world.nextUuid + 1
    owners := world.owners.insert world.nextUuid thread }

section

variable {Result : Type} {rest : AgentSpec → Request Result}

theorem alone_prepareAgentCreate_drawing (world : World) (input : CreateAgentInput) :
    alone (perform thread) (prepareAgentCreate ⟨world.nextUuid⟩ input) (world.drawing thread) =
      (world.prepared ⟨world.nextUuid⟩ input, world.drawing thread) := by
  rw [alone_prepareAgentCreate]
  rfl

/-- A create whose input does not resolve only draws an id. -/
theorem alone_create_unprepared {error : ApplicationError}
    (prepared : world.prepared ⟨world.nextUuid⟩ input = .error error) :
    alone (perform thread) (do
          let id ← Request.always .newAgentId
          let agent ← prepareAgentCreate id input
          valid agent.validate
          rest agent) world = (.error error, world.drawing thread) := by
  have drawn : alone (perform thread) (Request.always .newAgentId :
      Request AgentId) world = (.ok ⟨world.nextUuid⟩, world.drawing thread) := rfl
  rw [alone_bind_ok drawn]
  refine alone_bind_error ?_
  rw [alone_prepareAgentCreate_drawing thread world input, prepared]

/-- A create goes on with the spec its input resolves to. -/
theorem alone_create_prepared (prepared : world.prepared ⟨world.nextUuid⟩ input = .ok agent) :
    alone (perform thread) (do
          let id ← Request.always .newAgentId
          let agent ← prepareAgentCreate id input
          valid agent.validate
          rest agent) world =
      alone (perform thread) (rest agent) (world.drawing thread) := by
  have drawn : alone (perform thread) (Request.always .newAgentId :
      Request AgentId) world = (.ok ⟨world.nextUuid⟩, world.drawing thread) := rfl
  have prepares := alone_prepareAgentCreate_drawing thread world input
  have valid : alone (perform thread) (valid agent.validate)
      (world.drawing thread) = (.ok (), world.drawing thread) := by
    rw [prepared_valid prepared]
    rfl
  rw [prepared] at prepares
  rw [alone_bind_ok drawn, alone_bind_ok prepares, alone_bind_ok valid]

end

/-- The agent has a file, or the file of the create can be built again and written. -/
def World.Persistable (world : World) (id : AgentId) (input : CreateAgentInput) : Prop :=
  id ∈ world.files.agents ∨
    ∃ file, world.readable.buildCreateFile id input = .ok file ∧ world.Writes file

theorem alone_persistAgentCreate_of_present (input : CreateAgentInput)
    (present : agent.id ∈ world.files.agents) :
    alone (perform thread) (persistAgentCreate agent input) world = (.ok (), world) := by
  show alone _ (if world.files.agentExists agent.id then _ else _) world = _
  rw [if_pos (by simpa [agentExists] using present)]
  rfl

theorem alone_persistAgentCreate_of_absent (input : CreateAgentInput)
    (absent : agent.id ∉ world.files.agents) :
    alone (perform thread) (persistAgentCreate agent input) world = alone (perform thread) (do
          let file ← Request.file (.buildCreateFile agent.id input)
          Request.file (.writeAgentFile file)) world := by
  show alone _ (if world.files.agentExists agent.id then _ else _) world = _
  rw [if_neg (by simpa [agentExists] using absent)]

/-- The files once the file of the create is there. -/
def World.persisted (world : World) (id : AgentId) (input : CreateAgentInput) : Files :=
  if id ∈ world.files.agents then world.files
  else match world.readable.buildCreateFile id input with
    | .error _ => world.files
    | .ok file => world.files.withAgent file

theorem alone_persistAgentCreate_ok (persistable : world.Persistable agent.id input) :
    alone (perform thread) (persistAgentCreate agent input) world =
      (.ok (), { world with files := world.persisted agent.id input }) := by
  unfold persisted
  by_cases present : agent.id ∈ world.files.agents
  · rw [alone_persistAgentCreate_of_present thread input present, if_pos present]
  · obtain ⟨file, built, writes⟩ := persistable.resolve_left present
    have builds : alone (perform thread) (Request.file (.buildCreateFile agent.id input))
        world = (.ok file, world) := by
      simp [Request.file, perform, built, Except.mapError]
    rw [alone_persistAgentCreate_of_absent thread input present, alone_bind_ok builds,
      if_neg present, built]
    unfold Request.file
    rw [alone_attempt, perform_writeAgentFile_ok thread writes]
    rfl

theorem World.persisted_eq (world : World) (id : AgentId) (input : CreateAgentInput) :
    world.persisted id input =
      { world.files with agents := (world.persisted id input).agents } := by
  unfold persisted
  split
  · rfl
  · split <;> rfl

/-- A create that was answered before spares the files exactly if its agent has one. -/
theorem World.persisted_spares_iff (persistable : world.Persistable id input) :
    (∀ other, (world.persisted id input).agents.lookup other = world.files.agents.lookup other) ↔
      id ∈ world.files.agents := by
  unfold persisted
  by_cases present : id ∈ world.files.agents
  · simp [present]
  · obtain ⟨file, built, -⟩ := persistable.resolve_left present
    rw [if_neg present, built]
    refine iff_of_false (fun spared => ?_) present
    have written := spared file.id
    rw [buildCreateFile_id built, AList.lookup_eq_none.mpr present, ← buildCreateFile_id built]
      at written
    exact absurd ((AList.lookup_insert _).symm.trans written) (by simp)

theorem alone_persistAgentCreate_eq_ok {after : World}
    (persisted : alone (perform thread) (persistAgentCreate agent input) world = (.ok (), after)) :
    world.Persistable agent.id input := by
  by_cases present : agent.id ∈ world.files.agents
  · exact .inl present
  rw [alone_persistAgentCreate_of_absent thread input present, alone_bind_eq_ok_at] at persisted
  obtain ⟨file, middle, building, writing⟩ := persisted
  have built := alone_attempt_eq_ok.mp building
  simp only [perform, Prod.mk.injEq] at built
  obtain ⟨built, rfl⟩ := built
  refine .inr ⟨file, built, ?_⟩
  by_contra refused
  obtain ⟨error, failed⟩ := perform_writeAgentFile_error thread refused
  cases (alone_attempt_eq_ok.mp writing).symm.trans failed

/-! ### Promoting a draft -/

theorem alone_getDraft_ok (id : DraftId) (available : world.faults.storeUnavailable = false) :
    alone (perform thread) (store (.getDraft id)) world =
      (.ok ((world.db.agentDrafts.lookup id).map DraftRow.document), world) := by
  simp [store, perform, query, available, Except.mapError]

theorem alone_getDraft_error (id : DraftId) (unavailable : world.faults.storeUnavailable = true) :
    alone (perform thread) (store (.getDraft id)) world = (.error .internal, world) := by
  simp [store, perform, query, unavailable, Except.mapError, ApplicationError.ofStorage]

/-- The draft can be read and is valid. -/
structure World.Drafted (world : World) (id : DraftId) (row : DraftRow) : Prop where
  available : world.faults.storeUnavailable = false
  stored : world.db.agentDrafts.lookup id = some row
  valid : row.document.agent.validate = .ok ()

section

variable {request : PromoteDraftRequest}

/-- A promotion goes on as a create of what the draft holds. -/
theorem alone_promoteDraft_drafted {row : DraftRow} (drafted : world.Drafted request.draftId row) :
    alone (perform thread) (promoteDraft actor request) world = alone (perform thread) (do
          let id ← Request.always .newAgentId
          let agent ← prepareAgentCreate id row.document.agent
          valid agent.validate
          let resource ← execute actor request.metadata (.promoteDraft request)
            (createPlan agent (some request.draftId))
          finishCreate agent row.document.agent resource) world := by
  have read := alone_getDraft_ok thread request.draftId drafted.available
  have valid : alone (perform thread) (valid row.document.agent.validate)
      world = (.ok (), world) := by
    rw [drafted.valid]
    rfl
  rw [drafted.stored] at read
  unfold promoteDraft
  rw [alone_bind_ok read, Option.map_some,
    alone_bind_ok (alone_found_some thread row.document), alone_bind_ok valid]

/-- A promotion of a draft that cannot be read or is not valid ends there. -/
theorem alone_promoteDraft_undrafted (actor : AuthenticatedPrincipal)
    (undrafted : ¬∃ row, world.Drafted request.draftId row) :
    ∃ error, alone (perform thread) (promoteDraft actor request) world =
        (.error error, world) ∧ ∀ message, error ≠ .conflict message := by
  unfold promoteDraft
  cases available : world.faults.storeUnavailable with
  | true =>
    rw [alone_bind_error (alone_getDraft_error thread _ available)]
    exact ⟨_, rfl, by simp⟩
  | false =>
    rw [alone_bind_ok (alone_getDraft_ok thread _ available)]
    cases stored : world.db.agentDrafts.lookup request.draftId with
    | none =>
      exact ⟨_, rfl, by simp⟩
    | some row =>
      rw [Option.map_some, alone_bind_ok (alone_found_some thread row.document)]
      cases checked : row.document.agent.validate with
      | ok value => exact absurd ⟨row, available, stored, checked⟩ undrafted
      | error error =>
        exact ⟨_, rfl, by simp⟩

end

end

end BuzzServer
