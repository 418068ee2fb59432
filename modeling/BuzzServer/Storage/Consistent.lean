/-
This file states what the tables always satisfy, whatever is called in whatever
order: rows lie under their own ids, and every reference points at a row that
exists. Each effect of a store method keeps it.
-/

import BuzzServer.Storage.Effects

namespace BuzzServer

open Relational Table

structure Database.Consistent (database : Database) : Prop where
  agentKeyed : KeyedById database.agentSpecs
  operationKeyed : ∀ id operation, database.operations.lookup id = some operation →
    operation.id = id
  agentReference : ∀ id operation agentId, database.operations.lookup id = some operation →
    operation.agentId = some agentId → agentId ∈ database.agentSpecs
  retained : ∀ id ∈ database.agentRetention, id ∈ database.agentSpecs
  community : ∀ id agent, database.agentSpecs.lookup id = some agent →
    agent.communityConfigId ∈ database.communityConfigs

namespace Database.Consistent

variable {database after : Database} (consistent : database.Consistent)

include consistent

theorem of_sameLifecycle (same : database.SameLifecycle after) : after.Consistent where
  agentKeyed := by
    rw [same.agentSpecs]
    exact consistent.agentKeyed
  operationKeyed := by
    rw [same.operations]
    exact consistent.operationKeyed
  agentReference := by
    rw [same.operations, same.agentSpecs]
    exact consistent.agentReference
  retained := by
    rw [same.agentRetention, same.agentSpecs]
    exact consistent.retained
  community := by
    rw [same.agentSpecs]
    exact fun id agent found => same.communities _ (consistent.community id agent found)

theorem putAgent {spec : AgentSpec} (known : spec.communityConfigId ∈ database.communityConfigs) :
    { database with
      agentSpecs := database.agentSpecs.insert spec.id spec : Database }.Consistent where
  agentKeyed := by
    intro id agent found
    rw [lookup_insert_eq] at found
    split at found
    · next same =>
      cases found
      exact same.symm
    · exact consistent.agentKeyed id agent found
  operationKeyed := consistent.operationKeyed
  agentReference := fun id operation agentId found names =>
    (AList.mem_insert _).mpr (.inr (consistent.agentReference id operation agentId found names))
  retained := fun id member =>
    (AList.mem_insert _).mpr (.inr (consistent.retained id member))
  community := by
    intro id agent found
    rw [lookup_insert_eq] at found
    split at found
    · cases found
      exact known
    · exact consistent.community id agent found

theorem commit {command : AgentCommand} (acceptable : command.Acceptable database) :
    (command.commit database).Consistent where
  agentKeyed := command.mutation.keyedById_agents consistent.agentKeyed
  operationKeyed := by
    intro id operation found
    change (database.operations.insert _ _).lookup id = _ at found
    rw [lookup_insert_eq] at found
    split at found
    · next same =>
      cases found
      exact same.symm
    · exact consistent.operationKeyed id operation found
  agentReference := by
    intro id operation agentId found names
    change (database.operations.insert _ _).lookup id = _ at found
    rw [lookup_insert_eq] at found
    split at found
    · cases found
      rw [acceptable.corresponds.agentId] at names
      cases names
      exact AgentCommandMutation.target_mem_agents acceptable.applicable
    · exact command.mutation.mem_agents (consistent.agentReference id operation agentId found names)
  retained := by
    intro id member
    rcases command.mutation.mem_retention member with rfl | earlier
    · exact AgentCommandMutation.target_mem_agents acceptable.applicable
    · exact command.mutation.mem_agents (consistent.retained id earlier)
  community := by
    intro id agent found
    change (command.mutation.agents database.agentSpecs).lookup id = _ at found
    rw [command.mutation.lookup_agents consistent.agentKeyed] at found
    split at found
    · next same =>
      have applicable := acceptable.applicable
      revert found applicable
      cases command.mutation with
      | create created =>
        intro found applicable
        cases found
        exact applicable.2.2
      | update target changes | setState target desiredState retentionDeadline =>
        intro found applicable
        obtain ⟨earlier, present, rfl⟩ := Option.map_eq_some_iff.mp found
        exact consistent.community id earlier present
    · exact consistent.community id agent found

/-- An operation may change, as long as it keeps its id and the agent it names. -/
theorem updateOperation {id : OperationId} {operation changed : DurableOperation}
    {audits : List NewAuditRecord} (found : database.operations.lookup id = some operation)
    (sameId : changed.id = operation.id) (sameAgent : changed.agentId = operation.agentId) :
    { database with
      operations := database.operations.insert id changed
      auditRecords := audits : Database }.Consistent :=
  { consistent with
    operationKeyed := by
      intro other row lookup
      rw [lookup_insert_eq] at lookup
      split at lookup
      · next same =>
        cases lookup
        rw [sameId, same]
        exact consistent.operationKeyed id operation found
      · exact consistent.operationKeyed other row lookup
    agentReference := by
      intro other row agentId lookup names
      rw [lookup_insert_eq] at lookup
      split at lookup
      · cases lookup
        rw [sameAgent] at names
        exact consistent.agentReference id operation agentId found names
      · exact consistent.agentReference other row agentId lookup names }

theorem removal {bound : Nat} {ids : List AgentId}
    (removal : Database.Removal bound ids database after) : after.Consistent where
  agentKeyed := by
    intro id agent found
    rw [removal.agents] at found
    split at found
    · cases found
    · exact consistent.agentKeyed id agent found
  operationKeyed := by
    intro id operation found
    rcases removal.operation found with ⟨earlier, present, rfl⟩ | ⟨-, same, -⟩
    · exact consistent.operationKeyed id earlier present
    · exact same
  agentReference := by
    intro id operation agentId found names
    rcases removal.operation found with ⟨earlier, present, rfl⟩ | ⟨-, -, nobody, -⟩
    · obtain ⟨named, kept⟩ := DurableOperation.agentId_of_forget names
      obtain ⟨agent, row⟩ := exists_lookup_of_mem
        (consistent.agentReference id earlier agentId present named)
      exact mem_of_lookup ((removal.agents agentId).trans ((if_neg kept).trans row))
    · rw [nobody] at names
      cases names
  retained := by
    intro id member
    obtain ⟨retention, row⟩ := exists_lookup_of_mem member
    rw [removal.retention] at row
    split at row
    · cases row
    · next kept =>
      obtain ⟨agent, present⟩ :=
        exists_lookup_of_mem (consistent.retained id (mem_of_lookup row))
      exact mem_of_lookup ((removal.agents id).trans ((if_neg kept).trans present))
  community := by
    intro id agent found
    rw [removal.agents] at found
    rw [removal.communities]
    split at found
    · cases found
    · exact consistent.community id agent found

/-- The agents a removed community leaves behind are none of its own. -/
theorem removeCommunity {id : CommunityConfigId} {bound : Nat} {ids : List AgentId}
    {removed : Database} {outbox : List RelayPublication}
    (checked : SqliteStore.checkDeletedAgents id database
      (SqliteStore.listAgents (some id) database) = .ok ids)
    (removal : Database.Removal bound ids database removed) :
    { removed with
      relayPublicationOutbox := outbox
      communityConfigs := removed.communityConfigs.erase id : Database }.Consistent := by
  have kept := consistent.removal removal
  refine { kept with community := fun agentId agent found => ?_ }
  refine AList.mem_erase.mpr ⟨?_, kept.community agentId agent found⟩
  rintro rfl
  rw [removal.agents] at found
  split at found
  · cases found
  · next spared =>
    apply spared
    rw [(SqliteStore.checkDeletedAgents_ok checked).1, List.mem_map]
    refine ⟨agent, mem_query.mpr ⟨by simp, agentId, found⟩, ?_⟩
    exact consistent.agentKeyed agentId agent found

omit consistent

end Database.Consistent

end BuzzServer
