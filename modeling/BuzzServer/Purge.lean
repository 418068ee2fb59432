/-
This file is about what a purge destroys.

The worker destroys an agent's artifacts once the reconciliation of a purge
operation has succeeded. That an agent was reconciled says only that its process
was brought in line with the desired state the reconciler read, which is whatever
the row said by then: an enable that was accepted after the purge makes the same
purge start the agent, and then destroy it. A write back of an older spec and a
receipt that was not written have the same consequence. Without these three, a
purge destroys only what belongs to a deleted agent without a process.
-/

import BuzzServer.Tombstones

namespace BuzzServer

open Relational Concurrent

/-! ### Pending purges -/

/-- Some purge of the agent is not over. -/
def Database.PurgePending (database : Database) (id : AgentId) : Prop :=
  ∃ operationId operation, database.operations.lookup operationId = some operation ∧
    operation.kind = .purgeAgent ∧ operation.status.isTerminal = false ∧ operation.agentId = some id

/-- The command does not enable or disable an agent while a purge of it is pending, and is not a
purge while a thread holds a spec of the agent that is not deleted. -/
def AgentCommand.SparesPurges (command : AgentCommand) (world : World) : Prop :=
  ∀ id state deadline, command.mutation = .setState id state deadline →
    (state ≠ .deleted → ¬world.db.PurgePending id) ∧
    (command.operation.kind = .purgeAgent →
      ∀ spec ∈ world.held, spec.id = id → spec.desiredState = .deleted)

/-- Every receipt that is written reaches the disk, communities stay, and the commands that are
accepted spare the purges. -/
def UndisturbedPurges : Condition Thread Action World :=
  fun thread _ action world =>
    Terms.admits ⟨True, False⟩ thread action world ∧
    ∀ command, action.submits = some command → command.Acceptable world.db →
      command.SparesPurges world

/-- What a pending purge can rely on. -/
structure World.PurgeReady (world : World) : Prop where
  starting : world.starting = []
  buried : world.Buried
  rows : ∀ id agent, world.db.PurgePending id → world.db.agentSpecs.lookup id = some agent →
    agent.desiredState = .deleted
  held : ∀ spec ∈ world.held, world.db.PurgePending spec.id → spec.desiredState = .deleted
  reconciled : ∀ operationId operation spec, world.processing = some operationId →
    world.db.operations.lookup operationId = some operation → operation.kind = .purgeAgent →
      operation.status = .running → operation.agentId = some spec.id →
        world.reconciled = some spec → spec.desiredState = .deleted

section

variable {setting : Setting} {thread : Thread} {before after : World} {Response : Type}
variable {action : Action Response} {id : AgentId}

theorem World.Rewritten.purgePending (rewritten : before.Rewritten after)
    (pending : after.db.PurgePending id) : before.db.PurgePending id := by
  obtain ⟨operationId, operation, found, purge, unfinished, names⟩ := pending
  rcases rewritten.operations operationId operation found with
    ⟨earlier, present, advances⟩ | unnamed
  · exact ⟨operationId, earlier, present, advances.kind.symm.trans purge,
      advances.nonterminal unfinished, advances.agentId id names⟩
  · rw [unnamed] at names
    cases names

variable {command : AgentCommand}

/-- After a command a purge is pending because it was, or because it was just accepted. -/
theorem AgentCommand.purgePending_commit {database : Database}
    (pending : (command.commit database).PurgePending id) :
    database.PurgePending id ∨
      command.operation.kind = .purgeAgent ∧ command.operation.agentId = some id := by
  obtain ⟨operationId, operation, found, purge, unfinished, names⟩ := pending
  change (database.operations.insert command.operation.id command.operation).lookup _ = _ at found
  rw [Table.lookup_insert_eq] at found
  split at found
  · cases found
    exact .inr ⟨purge, names⟩
  · exact .inl ⟨operationId, operation, found, purge, unfinished, names⟩

/-- An accepted purge marks its agent as deleted. -/
theorem AgentCommand.Acceptable.purge {database : Database}
    (acceptable : command.Acceptable database) (purge : command.operation.kind = .purgeAgent) :
    ∃ id deadline, command.mutation = .setState id .deleted deadline ∧
      command.operation.agentId = some id := by
  have corresponds := acceptable.corresponds
  cases mutation : command.mutation with
  | create agent | update id changes =>
    rw [mutation] at corresponds
    rw [corresponds.1] at purge
    cases purge
  | setState id state deadline =>
    rw [mutation] at corresponds
    have expected := corresponds.1
    rw [purge] at expected
    cases expected
    exact ⟨id, deadline, rfl, corresponds.2⟩

theorem World.PurgeReady.rows_accept (sound : before.Sound)
    (acceptable : command.Acceptable before.db) (spares : command.SparesPurges before)
    (ready : before.PurgeReady) {agent : AgentSpec}
    (pending : (command.commit before.db).PurgePending id)
    (found : (command.commit before.db).agentSpecs.lookup id = some agent) :
    agent.desiredState = .deleted := by
  have owner := acceptable.corresponds.agentId
  change (command.mutation.agents before.db.agentSpecs).lookup id = _ at found
  rw [command.mutation.lookup_agents sound.consistent.agentKeyed] at found
  rcases command.purgePending_commit pending with earlier | ⟨purge, names⟩
  · split at found
    · next target =>
      cases mutation : command.mutation with
      | create created =>
        obtain ⟨operationId, operation, present, -, -, names⟩ := earlier
        have row := sound.consistent.agentReference _ _ _ present names
        have applicable := acceptable.applicable
        rw [mutation] at applicable target
        rw [target] at row
        exact absurd row applicable.2.1
      | update id changes =>
        rw [mutation] at found
        obtain ⟨previous, present, rfl⟩ := Option.map_eq_some_iff.mp found
        exact ready.rows _ previous earlier present
      | setState other state deadline =>
        rw [mutation] at found target
        obtain ⟨previous, present, rfl⟩ := Option.map_eq_some_iff.mp found
        by_contra changed
        subst target
        exact (spares _ state deadline mutation).1 changed earlier
    · exact ready.rows _ agent earlier found
  · obtain ⟨target, deadline, mutation, -⟩ := acceptable.purge purge
    rw [mutation] at owner found
    obtain rfl : id = target := Option.some.inj (names.symm.trans owner)
    rw [if_pos (show id = (AgentCommandMutation.setState id _ deadline).target from rfl)] at found
    obtain ⟨previous, present, rfl⟩ := Option.map_eq_some_iff.mp found
    rfl

theorem World.PurgeReady.held_accept
    (acceptable : command.Acceptable before.db) (spares : command.SparesPurges before)
    (ready : before.PurgeReady) {spec : AgentSpec} (held : spec ∈ before.held)
    (pending : (command.commit before.db).PurgePending spec.id) :
    spec.desiredState = .deleted := by
  rcases command.purgePending_commit pending with earlier | ⟨purge, names⟩
  · exact ready.held spec held earlier
  · obtain ⟨target, deadline, mutation, owner⟩ := acceptable.purge purge
    exact (spares target .deleted deadline mutation).2 purge spec held
      (Option.some.inj (names.symm.trans owner))

theorem unheldRemovals_of_starting (starting : before.starting = [])
    (admitted : Terms.admits ⟨True, False⟩ thread action before) :
    UnheldRemovals thread action before := by
  cases action with
  | completePurge agentId operationId now audit =>
    intro spec listed
    rw [starting] at listed
    cases listed
  | deleteCommunityWithDeletedAgents id now => exact (admitted : False).elim
  | _ => trivial

/-- Only the startup loop lists agents to be started. -/
theorem Effect.starting {terms : Terms} (effect : Effect thread before action after)
    (done : duty setting terms thread action before) (steady : ¬setting.restarts)
    (starting : before.starting = []) : after.starting = [] := by
  cases effect with
  | quiet same => exact same.starting.trans starting
  | putAgent known | dropAgent =>
    rw [starting, List.tail_nil, ite_self]
  | listStartupAgents main => exact absurd done.2.2 steady
  | leaveScope =>
    rw [starting, ite_self]
  | _ => exact starting

/-- The agent the reconciler read for a purge was deleted. -/
theorem World.PurgeReady.reconciled_act (sound : before.Sound)
    (done : duty setting ⟨True, False⟩ thread action before)
    (admitted : Terms.admits ⟨True, False⟩ thread action before)
    (effect : Effect thread before action after) (ready : before.PurgeReady)
    {operationId : OperationId} {operation : DurableOperation} {spec : AgentSpec}
    (processing : after.processing = some operationId)
    (found : after.db.operations.lookup operationId = some operation)
    (purge : operation.kind = .purgeAgent) (running : operation.status = .running)
    (names : operation.agentId = some spec.id) (read : after.reconciled = some spec) :
    spec.desiredState = .deleted := by
  cases effect with
  | quiet same =>
    rw [same.processing] at processing
    rw [same.tables.operations] at found
    rw [same.reconciled] at read
    exact ready.reconciled _ _ _ processing found purge running names read
  | readReconciled worker row =>
    cases read
    rw [← sound.consistent.agentKeyed _ _ row] at row
    refine ready.rows _ _ ⟨operationId, operation, found, purge, ?_, names⟩ row
    rw [running]
    rfl
  | removeCommunity checked removal => exact (admitted : False).elim
  | @acceptCommand command acceptable =>
    change (before.db.operations.insert command.operation.id command.operation).lookup _ = _
      at found
    rw [Table.lookup_insert_eq] at found
    split at found
    · cases found
      rw [(duty_conforms done rfl).2.pending] at running
      cases running
    · exact ready.reconciled _ _ _ processing found purge running names read
  | transition current permitted =>
    rw [Table.lookup_insert_eq] at found
    split at found
    · cases found
      rcases done.2.2.2.2 with ⟨-, none⟩ | failed | ⟨succeeded, -⟩
      · exact absurd (read.symm.trans none) (by simp)
      · rw [failed] at running
        cases running
      · rw [succeeded] at running
        cases running
    · exact ready.reconciled _ _ _ processing found purge running names read
  | completePurge current owner kind permitted present marked removal =>
    rcases removal.operation found with ⟨earlier, between, rfl⟩ | ⟨-, -, unnamed, -⟩
    · rw [Table.lookup_insert_eq] at between
      split at between
      · cases between
        cases running
      · exact ready.reconciled _ _ _ processing between purge running
          (DurableOperation.agentId_of_forget names).1 read
    · rw [unnamed] at names
      cases names
  | leaveScope =>
    dsimp only at read
    split at read
    · cases read
    · exact ready.reconciled _ _ _ processing found purge running names read
  | _ => exact ready.reconciled _ _ _ processing found purge running names read

theorem World.PurgeReady.act (steady : ¬setting.restarts) (sound : before.Sound)
    (done : duty setting ⟨True, False⟩ thread action before)
    (undisturbed : UndisturbedPurges thread action before)
    (effect : Effect thread before action after) (ready : before.PurgeReady) :
    after.PurgeReady where
  starting := effect.starting done steady ready.starting
  buried := ready.buried.act sound done
    (unheldRemovals_of_starting ready.starting undisturbed.1) effect
  rows := by
    intro id agent pending found
    rcases effect.sources done with ⟨command, submits, acceptable, rfl⟩ | rewritten
    · exact ready.rows_accept sound acceptable (undisturbed.2 command submits acceptable) pending
        found
    · have earlier := rewritten.purgePending pending
      rcases rewritten.rows id agent found with kept | ⟨spec, held, same, rfl⟩
      · exact ready.rows id agent earlier kept
      · rw [same.2.2]
        exact ready.held spec held (same.1 ▸ earlier)
  held := by
    intro spec held pending
    rcases effect.sources done with ⟨command, submits, acceptable, rfl⟩ | rewritten
    · exact ready.held_accept acceptable (undisturbed.2 command submits acceptable) held pending
    · have earlier := rewritten.purgePending pending
      rcases effect.held sound.consistent.agentKeyed held with kept | read
      · exact ready.held spec kept earlier
      · exact ready.rows spec.id spec earlier read
  reconciled := fun _ _ _ processing found purge running names read =>
    ready.reconciled_act sound done undisturbed.1 effect processing found purge running names read

theorem World.PurgeReady.congr (ready : before.PurgeReady)
    (tables : before.db.SameLifecycle after.db) (starting : after.starting = before.starting)
    (cached : after.cached = before.cached)
    (settled : after.processing = before.processing ∧ after.reconciled = before.reconciled ∨
      after.reconciled = none) : after.PurgeReady := by
  have held : after.held = before.held := by
    unfold World.held
    rw [cached, starting]
  have pending : ∀ id, after.db.PurgePending id → before.db.PurgePending id := by
    unfold Database.PurgePending
    rw [tables.operations]
    exact fun _ => id
  constructor
  · exact starting.trans ready.starting
  · exact ready.buried.congr tables.tombstones tables.agentSpecs fun _ member => held ▸ member
  · rw [tables.agentSpecs]
    exact fun id agent waits => ready.rows id agent (pending id waits)
  · rw [held]
    exact fun spec member waits => ready.held spec member (pending spec.id waits)
  · intro operationId operation spec processing found purge running names read
    rcases settled with ⟨sameItem, sameAgent⟩ | unread
    · rw [sameItem] at processing
      rw [sameAgent] at read
      rw [tables.operations] at found
      exact ready.reconciled _ _ _ processing found purge running names read
    · rw [unread] at read
      cases read

theorem purgeReady_persists (steady : ¬setting.restarts) :
    Persists setting ⟨True, False⟩ UndisturbedPurges World.PurgeReady where
  act := World.PurgeReady.act steady
  quiet := fun same ready => ready.congr same.tables same.starting same.cached
    (.inl ⟨same.processing, same.reconciled⟩)
  exit := fun _ ready => ready.congr (.refl _) rfl rfl (.inl ⟨rfl, rfl⟩)
  receive := fun _ _ resting ready => ready.congr (.refl _) rfl rfl (.inr (resting.2 rfl).2.1)
  reboot := fun restarts _ => absurd restarts steady

theorem World.Fresh.purgeReady {world : World} (fresh : world.Fresh) : world.PurgeReady where
  starting := fresh.starting
  buried := fresh.buried
  rows := fun _ _ _ found => by simp [fresh.agentSpecs] at found
  held := fun _ held => by simp [World.held, fresh.cached, fresh.starting] at held
  reconciled := fun _ _ _ processing => by simp [fresh.processing] at processing

end

/-! ### What a purge destroys -/

/-- The next action of the program takes something of the agent away for good. -/
def Destroying (program : Program Action Unit) (id : AgentId) : Prop :=
  match program with
  | .done _ => False
  | .step action _ => action.Destroys id

/-- The worker is processing a purge operation. -/
def World.ProcessesPurge (world : World) : Prop :=
  ∃ operationId operation, world.processing = some operationId ∧
    world.db.operations.lookup operationId = some operation ∧ operation.kind = .purgeAgent

/-- In a run with undisturbed purges, whatever the worker destroys for a purge belongs to an
agent that is deleted and has no process. -/
theorem purge_destroys_deleted (setting : Setting) (steady : ¬setting.restarts)
    {pool : Pool Thread Action World} (reachable : Reachable setting UndisturbedPurges pool)
    (processes : pool.world.ProcessesPurge) (id : AgentId)
    (destroying : Destroying (pool.threads .worker) id) :
    (∃ agent, pool.world.db.agentSpecs.lookup id = some agent ∧
      agent.desiredState = .deleted) ∧ ¬pool.world.Live id := by
  have ready : pool.world.PurgeReady :=
    (purgeReady_persists steady).reachable (fun _ => steady) (fun _ _ _ _ met => met.1)
      (fun _ fresh => fresh.purgeReady) reachable
  have holds : (conduct setting ⟨True, False⟩).Holds (daemon setting) _ pool :=
    reachable.holds (fun _ => steady) fun _ _ _ _ met => met.1
  cases running : pool.threads .worker with
  | done =>
    rw [running] at destroying
    exact destroying.elim
  | @step Response action next =>
    rw [running] at destroying
    have admitted : Terms.admits ⟨True, False⟩ .worker action pool.world := by
      cases action <;> first | exact destroying.elim | trivial
    obtain ⟨operationId, operation, processing, -, -⟩ := processes
    have done := (conduct_lawful fun _ => steady).duty holds running admitted
    obtain ⟨agentId, text, purging⟩ := done.1 id destroying rfl (by simp [processing])
    obtain rfl := AgentId.toText_injective text
    obtain ⟨current, active, ⟨row, found, purge, started, names⟩, agent, read, named, settled⟩ :=
      purging
    replace names : row.agentId = some agentId := names.resolve_right fun removed => removed.1
    have member := holds.1.consistent.agentReference _ _ _ found names
    obtain ⟨stored, present⟩ := Table.exists_lookup_of_mem member
    have marked : agent.desiredState = .deleted :=
      ready.reconciled _ _ _ active found purge started (names.trans (congrArg some named.symm))
        read
    refine ⟨⟨stored, present, ready.rows _ stored ⟨current, row, found, purge, ?_, names⟩
      present⟩, ?_⟩
    · rw [started]
      rfl
    · rcases settled (by rw [marked]; decide) trivial with removed | gone
      · exact absurd member (ready.buried _ removed).1
      · exact gone

/-! ### Both kinds of runs -/

instance {Response : Type} (action : Action Response) (id : AgentId) :
    Decidable (action.Destroys id) := by
  cases action <;> dsimp only [Action.Destroys] <;> infer_instance

instance (program : Program Action Unit) (id : AgentId) : Decidable (Destroying program id) :=
  match program with
  | .done _ => inferInstanceAs (Decidable False)
  | .step action _ => inferInstanceAs (Decidable (action.Destroys id))

/-- The kind of the operation the worker is processing. -/
def World.processingKind (world : World) : Option OperationKind :=
  (world.processing.bind fun id => world.db.operations.lookup id).map DurableOperation.kind

theorem World.processesPurge_of_kind {world : World}
    (kind : world.processingKind = some .purgeAgent) : world.ProcessesPurge := by
  obtain ⟨operation, found, purge⟩ := Option.map_eq_some_iff.mp kind
  obtain ⟨id, processing, stored⟩ := Option.bind_eq_some_iff.mp found
  exact ⟨id, operation, processing, stored, purge⟩

namespace Deployment

/-- An agent is purged, and enabled again before the worker gets to the purge. -/
def enabledAgain : List Move :=
  answer (create "k1") ++ work ++ answer (purge "k2" ⟨1⟩) ++
    answer (changeState "k3" ⟨1⟩ .enabled) ++ [.receive, .acts .worker 35]

/-- An agent is purged, and the worker gets to it. -/
def purged : List Move :=
  answer (create "k1") ++ work ++ answer (purge "k2" ⟨1⟩) ++ [.receive, .acts .worker 37]

/-- Whether receipts are written, communities stay, and commands come in while nothing is held
and no purge is pending. -/
def purgesAlone : Check Thread Action World :=
  fun _ _ action world =>
    match action with
    | .putReceipt _ => !world.faults.receiptWrite
    | .deleteCommunityWithDeletedAgents _ _ => false
    | .applyAgentCommand _ => world.held.isEmpty &&
        world.db.operations.rows.all fun operation =>
          !decide (operation.kind = .purgeAgent) || operation.status.isTerminal
    | _ => true

theorem purgesAlone_sound (thread : Thread) ⦃Response : Type⦄ (action : Action Response)
    (world : World) (passes : purgesAlone thread action world = true) :
    UndisturbedPurges thread action world := by
  constructor
  · cases action with
    | putReceipt receipt => exact fun _ => Bool.not_eq_true' _ ▸ passes
    | deleteCommunityWithDeletedAgents id now => cases passes
    | _ => trivial
  · intro command submits _ id state deadline _
    cases action with
    | applyAgentCommand submitted =>
      simp only [purgesAlone, Bool.and_eq_true, List.isEmpty_iff, List.all_eq_true,
        Bool.or_eq_true, Bool.not_eq_true', decide_eq_false_iff_not] at passes
      refine ⟨fun _ => ?_, fun _ spec held => ?_⟩
      · rintro ⟨operationId, operation, found, purge, unfinished, -⟩
        rcases passes.2 operation (Table.mem_rows.mpr ⟨operationId, found⟩) with other | ended
        · exact other purge
        · rw [unfinished] at ended
          cases ended
      · rw [passes.1] at held
        cases held
    | _ => cases submits

end Deployment

/-- The purge is about to destroy an agent that is enabled and runs. -/
theorem purge_destroys_enabled : Reachable ⟨2592000, False⟩ (unrestricted Thread Action World)
        (playAll ⟨2592000, False⟩ Deployment.host Deployment.enabledAgain) ∧
      (playAll ⟨2592000, False⟩ Deployment.host Deployment.enabledAgain).world.ProcessesPurge ∧
      Destroying ((playAll ⟨2592000, False⟩ Deployment.host
        Deployment.enabledAgain).threads .worker) ⟨1⟩ ∧
      ((playAll ⟨2592000, False⟩ Deployment.host
        Deployment.enabledAgain).world.db.agentSpecs.lookup ⟨1⟩).map AgentSpec.desiredState =
          some .enabled ∧
      (playAll ⟨2592000, False⟩ Deployment.host Deployment.enabledAgain).world.Live ⟨1⟩ := by
  refine ⟨reachable_playAll Deployment.host_fresh _ (by decide),
    World.processesPurge_of_kind ?_, ?_, ?_, 1, ?_⟩
  all_goals decide +kernel

theorem purge_destroys_purged : (∃ agent, (playAll ⟨2592000, False⟩ Deployment.host
        Deployment.purged).world.db.agentSpecs.lookup ⟨1⟩ = some agent ∧
      agent.desiredState = .deleted) ∧
      ¬(playAll ⟨2592000, False⟩ Deployment.host Deployment.purged).world.Live ⟨1⟩ := by
  refine purge_destroys_deleted ⟨2592000, False⟩ id ?_ (World.processesPurge_of_kind ?_) ⟨1⟩ ?_
  · exact reachable_of_passes Deployment.purgesAlone_sound Deployment.host_fresh _ (by decide)
      (by decide +kernel)
  all_goals decide +kernel

end BuzzServer
