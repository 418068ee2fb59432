/-
This file is about agents that were removed for good.

Both removals, the completion of a purge and the removal of a community, leave
a tombstone for the agent's id. Nothing that writes an agent row looks at the
tombstones, so a removed agent comes back if some thread read it before the
removal and writes it back afterwards. The worker holds no spec when it
completes a purge; the startup loop may, since the worker is already at work
while the loop goes through its list.
-/

import BuzzServer.Daemon.Provenance
import BuzzServer.Daemon.Schedule

namespace BuzzServer

open Relational Concurrent

/-! ### Removals of agents that nobody holds -/

/-- No purge is completed for an agent the startup loop has listed and not yet written, and no
community is removed while a thread holds a spec of one of its agents. -/
def UnheldRemovals : Condition Thread Action World :=
  fun _ _ action world =>
    match action with
    | .completePurge agentId _ _ _ => ∀ spec ∈ world.starting, spec.id ≠ agentId
    | .deleteCommunityWithDeletedAgents id _ =>
        ∀ agent ∈ SqliteStore.listAgents (some id) world.db, ∀ spec ∈ world.held, spec.id ≠ agent.id
    | _ => True

/-- A removed agent has no row, and nobody holds a spec of it. -/
def World.Buried (world : World) : Prop :=
  ∀ id ∈ world.db.purgedAgentTombstones,
    id ∉ world.db.agentSpecs ∧ ∀ spec ∈ world.held, spec.id ≠ id

section

variable {setting : Setting} {terms : Terms} {thread : Thread} {before after : World}
variable {Response : Type} {action : Action Response}

/-- An agent that was removed stays removed. -/
theorem World.Buried.stays (sound : before.Sound) (done : duty setting terms thread action before)
    (effect : Effect thread before action after) (buried : before.Buried) {id : AgentId}
    (removed : id ∈ before.db.purgedAgentTombstones) :
    id ∉ after.db.agentSpecs ∧ ∀ spec ∈ after.held, spec.id ≠ id := by
  obtain ⟨absent, unheld⟩ := buried id removed
  constructor
  · intro present
    obtain ⟨agent, found⟩ := Table.exists_lookup_of_mem present
    rcases effect.sources done with ⟨command, submits, acceptable, rfl⟩ | rewritten
    · change (command.mutation.agents before.db.agentSpecs).lookup id = _ at found
      rw [command.mutation.lookup_agents sound.consistent.agentKeyed,
        AList.lookup_eq_none.mpr absent] at found
      split at found
      · next target =>
        cases mutation : command.mutation with
        | create created =>
          rw [mutation] at target
          have known := sound.tombstoneCreated id removed
          rw [target] at known
          exact ((duty_conforms done submits).2.create created mutation).2.2 known
        | update target changes | setState target state deadline =>
          rw [mutation] at found
          cases found
      · cases found
    · rcases rewritten.rows id agent found with kept | ⟨spec, held, same, rfl⟩
      · exact absent (Table.mem_of_lookup kept)
      · exact unheld spec held same.1.symm
  · intro spec held same
    rcases effect.held sound.consistent.agentKeyed held with kept | read
    · exact unheld spec kept same
    · rw [same] at read
      exact absent (Table.mem_of_lookup read)

theorem World.Buried.act (sound : before.Sound) (done : duty setting terms thread action before)
    (unheld : UnheldRemovals thread action before)
    (effect : Effect thread before action after) (buried : before.Buried) : after.Buried := by
  intro id removed
  by_cases earlier : id ∈ before.db.purgedAgentTombstones
  · exact buried.stays sound done effect earlier
  · cases effect with
    | quiet same =>
      rw [same.tables.tombstones] at removed
      exact absurd removed earlier
    | removeCommunity checked removal =>
      have gone := ((removal.tombstones id).mp removed).resolve_left earlier
      refine ⟨?_, fun spec held => ?_⟩
      · exact AList.lookup_eq_none.mp ((removal.agents id).trans (if_pos gone))
      · rw [(SqliteStore.checkDeletedAgents_ok checked).1, List.mem_map] at gone
        obtain ⟨agent, member, rfl⟩ := gone
        exact unheld agent member spec held
    | @completePurge agentId _ _ _ _ _ _ _ _ _ _ _ _ removal =>
      have gone := ((removal.tombstones id).mp removed).resolve_left earlier
      obtain rfl := List.mem_singleton.mp gone
      refine ⟨?_, fun spec held => ?_⟩
      · exact AList.lookup_eq_none.mp ((removal.agents id).trans (if_pos gone))
      · rcases World.mem_held.mp held with cached | listed
        · rw [show before.cached = none from done.2.2.2.1] at cached
          cases cached
        · exact unheld spec listed
    | _ => exact absurd removed earlier

theorem World.Buried.congr (buried : before.Buried)
    (tombstones : after.db.purgedAgentTombstones = before.db.purgedAgentTombstones)
    (rows : after.db.agentSpecs = before.db.agentSpecs)
    (held : ∀ spec ∈ after.held, spec ∈ before.held) : after.Buried := by
  unfold World.Buried
  rw [tombstones, rows]
  exact fun id removed =>
    ⟨(buried id removed).1, fun spec member => (buried id removed).2 spec (held spec member)⟩

theorem buried_persists : Persists setting terms UnheldRemovals World.Buried where
  act := World.Buried.act
  quiet := fun same buried => buried.congr same.tables.tombstones same.tables.agentSpecs
    fun _ member => same.held ▸ member
  exit := fun _ buried => buried.congr rfl rfl fun _ => id
  receive := fun _ _ _ buried => buried.congr rfl rfl fun _ => id
  reboot := fun _ buried => buried.congr rfl rfl fun _ member => by cases member

theorem World.Fresh.buried {world : World} (fresh : world.Fresh) : world.Buried :=
  fun _ removed => by simp [fresh.tombstones] at removed

end

/-- In a run whose removals are of agents that nobody holds, no agent id is both in the
tombstones and in the agents. -/
theorem tombstone_not_mem_agentSpecs (setting : Setting) {pool : Pool Thread Action World}
    (reachable : Reachable setting UnheldRemovals pool) (id : AgentId)
    (removed : id ∈ pool.world.db.purgedAgentTombstones) :
    id ∉ pool.world.db.agentSpecs := by
  have buried : pool.world.Buried :=
    (buried_persists : Persists setting .unconditional _ _).reachable (fun durable => durable.elim)
      (fun _ _ action world _ => Terms.unconditional_admits _ action world)
      (fun _ fresh => fresh.buried) reachable
  exact (buried id removed).1

/-! ### Both kinds of runs -/

namespace Deployment

/-- A purge that was pending when the daemon restarted is completed while the startup loop
holds the agent. -/
def resurrecting : List Move :=
  answer (create "k1") ++ work ++ answer (purge "k2" ⟨1⟩) ++
    [.restart, .acts .main 6] ++ work ++ [.acts .main 20]

/-- A purge after the startup loop is over. -/
def purgingLater : List Move :=
  answer (create "k1") ++ work ++ [.restart, .acts .main 20] ++ work ++
    answer (purge "k2" ⟨1⟩) ++ work

/-- Whether no spec is held when an agent is removed. -/
def removalsUnheld : Check Thread Action World :=
  fun _ _ action world =>
    match action with
    | .completePurge _ _ _ _ => world.starting.isEmpty
    | .deleteCommunityWithDeletedAgents _ _ => world.held.isEmpty
    | _ => true

theorem removalsUnheld_sound (thread : Thread) ⦃Response : Type⦄ (action : Action Response)
    (world : World) (passes : removalsUnheld thread action world = true) :
    UnheldRemovals thread action world := by
  cases action with
  | completePurge agentId operationId now audit =>
    intro spec listed
    rw [List.isEmpty_iff.mp passes] at listed
    cases listed
  | deleteCommunityWithDeletedAgents id now =>
    intro agent _ spec held
    rw [List.isEmpty_iff.mp passes] at held
    cases held
  | _ => trivial

end Deployment

/-- The purge is complete, and the agent is back. -/
theorem tombstone_resurrected : Reachable ⟨2592000, True⟩ (unrestricted Thread Action World)
        (playAll ⟨2592000, True⟩ Deployment.host Deployment.resurrecting) ∧
      (⟨1⟩ : AgentId) ∈ (playAll ⟨2592000, True⟩ Deployment.host
        Deployment.resurrecting).world.db.purgedAgentTombstones ∧
      (⟨1⟩ : AgentId) ∈ (playAll ⟨2592000, True⟩ Deployment.host
        Deployment.resurrecting).world.db.agentSpecs := by
  refine ⟨reachable_playAll Deployment.host_fresh _ fun _ => trivial, ?_, ?_⟩
  all_goals decide +kernel

theorem tombstone_purgedLater : (⟨1⟩ : AgentId) ∈ (playAll ⟨2592000, True⟩ Deployment.host
        Deployment.purgingLater).world.db.purgedAgentTombstones ∧
      (⟨1⟩ : AgentId) ∉ (playAll ⟨2592000, True⟩ Deployment.host
        Deployment.purgingLater).world.db.agentSpecs := by
  have removed : (⟨1⟩ : AgentId) ∈ (playAll ⟨2592000, True⟩ Deployment.host
      Deployment.purgingLater).world.db.purgedAgentTombstones := by decide +kernel
  refine ⟨removed, tombstone_not_mem_agentSpecs ⟨2592000, True⟩ ?_ ⟨1⟩ removed⟩
  exact reachable_of_passes Deployment.removalsUnheld_sound Deployment.host_fresh _
    (fun _ => trivial) (by decide +kernel)

end BuzzServer
