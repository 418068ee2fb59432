/-
This file proves what holds of every run, whatever interleaves, fails or crashes.

No two accepted commands share a key, an operation or a new agent, and what a
command has left in the tables stays: its key, its operation, the mark on its
draft, and the tombstone of an agent it purged. These are the guarantees that
remain where a commanded state is overwritten or a removed agent comes back.
-/

import BuzzServer.Resubmission

namespace BuzzServer

open Relational Concurrent Deployment

variable {setting : Setting} {admits : Condition Thread Action World}
  {thread : Thread} {before after : World} {Response : Type} {action : Action Response}
  {pool last : Pool Thread Action World}

/-- A property that survives what actions do is kept by every run from a reachable pool. -/
theorem Reachable.keeps (property : World → Prop) (reachable : Reachable setting admits pool)
    (reaches : (daemon setting).Reaches admits pool last) (initially : property pool.world)
    (act : ∀ {thread : Thread} {Response : Type} {action : Action Response} {before after : World},
      before.Sound → duty setting .unconditional thread action before →
        Effect thread before action after → property before → property after)
    (keep : ∀ {before after : World}, before.db.SameLifecycle after.db →
      after.accepted = before.accepted → property before → property after) :
    property last.world := by
  have persists : Persists setting .unconditional admits property :=
    { act := fun sound done _ => act sound done
      quiet := fun same => keep same.tables same.accepted
      exit := fun _ => keep (.refl _) rfl
      receive := fun _ _ _ => keep (.refl _) rfl
      reboot := fun _ => keep (.refl _) rfl }
  have implies := fun thread ⦃Response : Type⦄ (action : Action Response) world
    (_ : admits thread action world) => Terms.unconditional_admits thread action world
  have crashFree : Terms.unconditional.durable → ¬setting.restarts := fun durable => durable.elim
  exact persists.reaches crashFree implies (reachable.holds crashFree implies) initially reaches

/-! ### Every world -/

/-- Every reference in the tables is to a row that exists, and every row lies under its id. -/
theorem references_hold (reachable : Reachable setting admits pool) :
    (∀ id agent, pool.world.db.agentSpecs.lookup id = some agent →
      agent.id = id ∧ agent.communityConfigId ∈ pool.world.db.communityConfigs) ∧
    (∀ id operation, pool.world.db.operations.lookup id = some operation → operation.id = id ∧
      ∀ agentId, operation.agentId = some agentId → agentId ∈ pool.world.db.agentSpecs) ∧
    ∀ id ∈ pool.world.db.agentRetention, id ∈ pool.world.db.agentSpecs := by
  obtain ⟨agents, operations, names, retained, communities⟩ := reachable.sound.consistent
  exact ⟨fun id agent found => ⟨agents id agent found, communities id agent found⟩,
    fun id operation found => ⟨operations id operation found,
      fun agentId => names id operation agentId found⟩, retained⟩

theorem references_hold_disabled : (⟨1⟩ : AgentId) ∈ disabled.world.db.agentSpecs :=
  ((references_hold disabled_reachable).2.1 ⟨3⟩ disableCommand.operation (by decide +kernel)).2 _
    rfl

/-- While nothing crashes and every receipt is written, an agent that was not removed has at most
one live process whenever the worker rests, the one its receipt names. -/
theorem one_process_per_agent {removals : Prop} (crashFree : ¬setting.restarts)
    (reachable : Reachable setting (Terms.admits ⟨True, removals⟩) pool)
    (rests : (pool.threads .worker).isDone = true) {id : AgentId} {pid : Nat}
    (kept : id ∉ pool.world.db.purgedAgentTombstones)
    (live : pool.world.processes.lookup pid = some id) :
    (∃ receipt, pool.world.storedReceipt id = some receipt ∧ receipt.pid = pid) ∧
      ∀ other, pool.world.processes.lookup other = some id → other = pid := by
  have worker := (reachable.holds (fun _ => crashFree) fun _ _ _ _ admitted => admitted).2 .worker
  have tracked : pool.world.Tracked := by
    revert rests worker
    cases pool.threads .worker with
    | done _ => exact fun _ resting => (resting.2 rfl).2.2 trivial
    | step action next => exact fun rests => by cases rests
  obtain ⟨receipt, stored, names⟩ := (tracked pid id live).resolve_left kept
  refine ⟨⟨receipt, stored, names⟩, fun other also => ?_⟩
  obtain ⟨again, found, alsoNames⟩ := (tracked other id also).resolve_left kept
  obtain rfl := Option.some.inj (stored.symm.trans found)
  exact alsoNames.symm.trans names

theorem admits_of_written (thread : Thread) ⦃Response : Type⦄ (action : Action Response)
    (world : World) (written : (!world.faults.receiptWrite) = true) :
    Terms.admits ⟨True, True⟩ thread action world := by
  cases action with
  | putReceipt receipt => exact fun _ => Bool.not_eq_true' _ ▸ written
  | _ => trivial

theorem one_process_per_agent_created : ∃ receipt, (playAll ⟨2592000, False⟩ host
    (answer (create "k1") ++ work)).world.storedReceipt ⟨1⟩ = some receipt ∧ receipt.pid = 1 :=
  (one_process_per_agent id (reachable_of_passes admits_of_written host_fresh _ (by decide)
    (by decide +kernel)) (by decide +kernel) (by decide +kernel) (by decide +kernel)).1

/-! ### Commands are distinct -/

/-- Two commands have different keys and operations and create different agents. -/
structure AgentCommand.Unlike (first second : AgentCommand) : Prop where
  keys : (first.idempotency.scope, first.idempotency.key) ≠
    (second.idempotency.scope, second.idempotency.key)
  operations : first.operation.id ≠ second.operation.id
  agents : ∀ one other, first.mutation = .create one → second.mutation = .create other →
    one.id ≠ other.id

theorem unlike_of_acceptable {command earlier : AgentCommand} (recorded : before.Recorded)
    (acceptable : command.Acceptable before.db) (conforms : command.Conforms thread before)
    (member : earlier ∈ before.accepted) : earlier.Unlike command := by
  refine ⟨fun same => ?_, fun same => ?_, fun one other creates again same => ?_⟩
  · have bound := recorded.keys earlier member
    rw [same, acceptable.keyUnused] at bound
    cases bound
  · obtain ⟨operation, found, -⟩ := recorded.operations earlier member
    exact acceptable.operationFresh (same ▸ Table.mem_of_lookup found)
  · exact (conforms.create other again).2.2 ⟨earlier, member, one, creates, same⟩

/-- No two accepted commands share an idempotency key, an operation or a new agent. -/
theorem accepted_commands_unlike (reachable : Reachable setting admits pool) :
    pool.world.accepted.Pairwise AgentCommand.Unlike := by
  obtain ⟨world, fresh, reaches⟩ := reachable
  refine (Reachable.keeps (fun world => world.Recorded ∧
    world.accepted.Pairwise AgentCommand.Unlike) ⟨world, fresh, .refl _⟩ reaches ?_ ?_ ?_).2
  · exact ⟨fresh.recorded, by simp [idlePool, fresh.accepted]⟩
  · rintro thread Response action before after - done effect ⟨recorded, unlike⟩
    refine ⟨recorded.act effect, ?_⟩
    rcases effect.keys with ⟨command, submits, acceptable, grown, -⟩ | ⟨same, -⟩
    · rw [grown, List.pairwise_append]
      refine ⟨unlike, List.pairwise_singleton _ _, fun earlier member later new => ?_⟩
      obtain rfl := List.mem_singleton.mp new
      exact unlike_of_acceptable recorded acceptable (duty_conforms done submits).2 member
    · exact same ▸ unlike
  · rintro before after tables accepted ⟨recorded, unlike⟩
    exact ⟨recorded.congr accepted tables.idempotencyKeys tables.operations tables.drafts,
      accepted ▸ unlike⟩

theorem accepted_commands_unlike_disabled :
    disabled.world.accepted.length = 2 ∧ disabled.world.accepted.Pairwise AgentCommand.Unlike :=
  ⟨by decide +kernel, accepted_commands_unlike disabled_reachable⟩

/-! ### Later worlds -/

/-- What a world leaves to every later one. -/
structure World.Precedes (before after : World) : Prop where
  accepted : before.accepted <+: after.accepted
  operations : ∀ id row, before.db.operations.lookup id = some row →
    ∃ later, after.db.operations.lookup id = some later ∧
      Relation.ReflTransGen DurableOperation.Advances row later

theorem World.Precedes.act {first : World} (precedes : first.Precedes before)
    (effect : Effect thread before action after) : first.Precedes after where
  accepted := by
    refine precedes.accepted.trans ?_
    rcases effect.keys with ⟨command, -, -, grown, -⟩ | ⟨same, -⟩
    · exact grown ▸ List.prefix_append _ _
    · exact same ▸ List.prefix_rfl
  operations := by
    intro id row found
    obtain ⟨between, present, advanced⟩ := precedes.operations id row found
    obtain ⟨later, stays, advances⟩ := effect.operation_stays present
    exact ⟨later, stays, advanced.tail advances⟩

theorem Reachable.precedes (reachable : Reachable setting admits pool)
    (reaches : (daemon setting).Reaches admits pool last) : pool.world.Precedes last.world := by
  refine reachable.keeps _ reaches ⟨List.prefix_rfl, fun _ row found => ⟨row, found, .refl⟩⟩
    (fun _ _ effect precedes => precedes.act effect) ?_
  rintro before after tables accepted ⟨grown, operations⟩
  exact ⟨accepted ▸ grown, tables.operations ▸ operations⟩

/-- An operation is never lost. Later it is of the same kind, has at most lost its agent, and once
it has ended it stays as it ended. -/
theorem operation_never_lost (reachable : Reachable setting admits pool)
    (reaches : (daemon setting).Reaches admits pool last) {id : OperationId}
    {row : DurableOperation} (found : pool.world.db.operations.lookup id = some row) :
    ∃ later, last.world.db.operations.lookup id = some later ∧ later.kind = row.kind ∧
      later.createdAt = row.createdAt ∧
      (∀ agentId, later.agentId = some agentId → row.agentId = some agentId) ∧
      (row.status.isTerminal = true → later.status = row.status) := by
  obtain ⟨later, present, advanced⟩ := (reachable.precedes reaches).operations id row found
  refine ⟨later, present, ?_⟩
  clear present
  induction advanced with
  | refl => exact ⟨rfl, rfl, fun _ named => named, fun _ => rfl⟩
  | tail _ advances inductionHypothesis =>
    obtain ⟨kind, createdAt, agent, settled⟩ := inductionHypothesis
    refine ⟨advances.kind.trans kind, advances.createdAt.trans createdAt,
      fun id named => agent id (advances.agentId id named), fun ended => ?_⟩
    rcases advances.status with same | moves
    · exact same.trans (settled ended)
    · have unfinished := OperationStatus.not_isTerminal_of_canTransitionTo moves
      rw [settled ended, ended] at unfinished
      cases unfinished

namespace Deployment

/-- An agent is created. -/
def created : Pool Thread Action World :=
  playAll ⟨2592000, False⟩ host (answer (create "k1") ++ work)

theorem created_reachable :
    Reachable ⟨2592000, False⟩ (unrestricted Thread Action World) created :=
  reachable_playAll host_fresh _ (by decide)

/-- After the agent was purged, another one is created. -/
def goneRecreated : Pool Thread Action World :=
  playAll ⟨2592000, False⟩ host
    (answer (create "k1") ++ work ++ answer (purge "k2" ⟨1⟩) ++ work ++
      (answer (create "k3") ++ work))

/-- The disable is carried out, and the agent deleted. -/
def disabledDeleted : Pool Thread Action World :=
  playAll ⟨2592000, False⟩ host
    (answer (create "k1") ++ work ++ answer (changeState "k2" ⟨1⟩ .disabled) ++
      (work ++ answer (delete "k3" ⟨1⟩) ++ work))

end Deployment

/-- The create that succeeded is still there, as such, after the agent was purged. -/
theorem operation_never_lost_gone : ∃ later, gone.world.db.operations.lookup ⟨2⟩ = some later ∧
    later.kind = .createAgent ∧ later.status = .succeeded := by
  obtain ⟨row, found, kind, succeeded⟩ : ∃ row, created.world.db.operations.lookup ⟨2⟩ = some row ∧
      row.kind = .createAgent ∧ row.status = .succeeded :=
    ⟨_, Option.eq_some_of_isSome (by decide +kernel), by decide +kernel⟩
  have reaches :
      (daemon ⟨2592000, False⟩).Reaches (unrestricted Thread Action World) created gone :=
    reaches_playAll_append host _ (answer (Deployment.purge "k2" ⟨1⟩) ++ work) (by decide)
  obtain ⟨later, present, sameKind, -, -, settled⟩ :=
    operation_never_lost created_reachable reaches found
  refine ⟨later, present, sameKind.trans kind, (settled ?_).trans succeeded⟩
  rw [succeeded]
  rfl

/-- The tombstone of a removed agent stays, and its id is not given to another agent. -/
theorem tombstone_never_lifted (reachable : Reachable setting admits pool)
    (reaches : (daemon setting).Reaches admits pool last) {id : AgentId}
    (removed : id ∈ pool.world.db.purgedAgentTombstones) :
    id ∈ last.world.db.purgedAgentTombstones ∧
      ∀ command ∈ last.world.accepted, command ∈ pool.world.accepted ∨
        ∀ agent, command.mutation = .create agent → agent.id ≠ id := by
  refine reachable.keeps (fun world => id ∈ world.db.purgedAgentTombstones ∧
    ∀ command ∈ world.accepted, command ∈ pool.world.accepted ∨
      ∀ agent, command.mutation = .create agent → agent.id ≠ id) reaches
    ⟨removed, fun _ => .inl⟩ ?_ ?_
  · rintro thread Response action before after sound done effect ⟨member, others⟩
    refine ⟨effect.tombstones id member, ?_⟩
    rcases effect.keys with ⟨command, submits, -, grown, -⟩ | ⟨same, -⟩
    · rw [grown]
      rintro other listed
      rcases List.mem_append.mp listed with earlier | new
      · exact others other earlier
      · rw [List.mem_singleton.mp new]
        refine .inr fun agent creates same => ?_
        have unused := ((duty_conforms done submits).2.create agent creates).2.2
        exact unused (same ▸ sound.tombstoneCreated id member)
    · exact same ▸ others
  · intro before after tables accepted kept
    rwa [tables.tombstones, accepted]

/-- The purged agent stays removed, and the agent that is created then has another id. -/
theorem tombstone_never_lifted_gone :
    (⟨1⟩ : AgentId) ∈ goneRecreated.world.db.purgedAgentTombstones ∧
      goneRecreated.world.accepted.length = gone.world.accepted.length + 1 ∧
      ∀ command ∈ goneRecreated.world.accepted, command ∈ gone.world.accepted ∨
        ∀ agent, command.mutation = .create agent → agent.id ≠ ⟨1⟩ := by
  have reaches : (daemon ⟨2592000, False⟩).Reaches (unrestricted Thread Action World) gone
      goneRecreated := reaches_playAll_append host _ (answer (create "k3") ++ work) (by decide)
  obtain ⟨stays, others⟩ := tombstone_never_lifted gone_reachable reaches
    (show ⟨1⟩ ∈ gone.world.db.purgedAgentTombstones by decide +kernel)
  exact ⟨stays, by decide +kernel, others⟩

/-- An accepted command stays recorded: its key stays bound to its operation, and the draft it
promoted stays marked. -/
theorem accepted_command_stays (reachable : Reachable setting admits pool)
    (reaches : (daemon setting).Reaches admits pool last) {command : AgentCommand}
    (accepted : command ∈ pool.world.accepted) :
    last.world.db.idempotencyKeys.lookup (command.idempotency.scope, command.idempotency.key) =
        some command.keyRow ∧
      (∃ operation, last.world.db.operations.lookup command.operation.id = some operation ∧
        operation.kind = command.operation.kind) ∧
      ∀ id, command.promotedDraftId = some id → ∃ row,
        last.world.db.agentDrafts.lookup id = some row ∧
          row.promotedOperationId = some command.operation.id := by
  have member := (reachable.precedes reaches).accepted.subset accepted
  obtain ⟨world, fresh, first⟩ := reachable
  have recorded := Reachable.recorded ⟨world, fresh, first.trans reaches⟩
  exact ⟨recorded.keys _ member, recorded.operations _ member, recorded.promotions _ member⟩

/-- The disable stays recorded while it is carried out and the agent is deleted. -/
theorem accepted_command_stays_disabled : disabledDeleted.world.db.idempotencyKeys.lookup
      (disableCommand.idempotency.scope, disableCommand.idempotency.key) =
        some disableCommand.keyRow ∧
    ∃ operation, disabledDeleted.world.db.operations.lookup ⟨3⟩ = some operation ∧
      operation.kind = .disableAgent := by
  have reaches : (daemon ⟨2592000, False⟩).Reaches (unrestricted Thread Action World) disabled
      disabledDeleted :=
    reaches_playAll_append host _ (work ++ answer (delete "k3" ⟨1⟩) ++ work) (by decide)
  obtain ⟨key, operation, -⟩ := accepted_command_stays disabled_reachable reaches
    (show disableCommand ∈ disabled.world.accepted by decide +kernel)
  exact ⟨key, operation⟩

end BuzzServer
