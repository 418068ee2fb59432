/-
This file inverts the other methods of the store: each either fails and leaves
every table alone, or has one effect.

The two methods that remove agents share their effect. `Database.Removal` says
what it is: the agents and their retention rows are gone, a tombstone stands for
each, and the operations that named one of them name nobody now. It composes, so
the removal of a whole community is the removal of its agents one after another.
-/

import BuzzServer.Storage.Community
import BuzzServer.Storage.Command

namespace BuzzServer

open Relational AList Database DurableOperation Table Transaction

/-! ### Removing agents -/

/-- An operation after some agents were removed. -/
def DurableOperation.forget (ids : List AgentId) (operation : DurableOperation) :
    DurableOperation :=
  { operation with agentId := operation.agentId.filter fun id => decide (id ∉ ids) }

@[simp] theorem DurableOperation.forget_nil (operation : DurableOperation) :
    operation.forget [] = operation := by
  obtain ⟨_, _, _, agentId, _, _, _, _⟩ := operation
  cases agentId <;> simp [forget]

theorem DurableOperation.forget_append (first second : List AgentId)
    (operation : DurableOperation) :
    operation.forget (first ++ second) = (operation.forget first).forget second := by
  simp only [forget, Option.filter_filter, List.mem_append, not_or, Bool.decide_and]

variable {id : AgentId} {community : CommunityConfigId} {now : Int} {ids : List AgentId}

theorem DurableOperation.agentId_of_forget {operation : DurableOperation}
    (names : (operation.forget ids).agentId = some id) :
    operation.agentId = some id ∧ id ∉ ids := by
  simpa [forget, Option.filter_eq_some_iff] using names

/-- The agents with these ids were removed for good. Operations that were added in the course
of it have identifiers below the bound and name nobody. -/
structure Database.Removal (bound : Nat) (ids : List AgentId) (before after : Database) :
    Prop where
  agents : ∀ id, after.agentSpecs.lookup id = if id ∈ ids then none else before.agentSpecs.lookup id
  retention : ∀ id, after.agentRetention.lookup id =
    if id ∈ ids then none else before.agentRetention.lookup id
  kept : ∀ id row, before.operations.lookup id = some row →
    after.operations.lookup id = some (row.forget ids)
  added : ∀ id row, after.operations.lookup id = some row → before.operations.lookup id = none →
      row.id = id ∧ row.agentId = none ∧ id.uuid < bound
  keys : after.idempotencyKeys = before.idempotencyKeys
  drafts : after.agentDrafts = before.agentDrafts
  tombstones : ∀ id, id ∈ after.purgedAgentTombstones ↔ id ∈ before.purgedAgentTombstones ∨ id ∈ ids
  communities : after.communityConfigs = before.communityConfigs

namespace Database.Removal

variable {bound limit : Nat} {ids more : List AgentId} {before middle after : Database}

theorem refl (bound : Nat) (database : Database) : Removal bound [] database database where
  agents := by simp
  retention := by simp
  kept := by
    intro id row found
    rw [forget_nil, found]
  added := by
    intro id row found missing
    rw [missing] at found
    cases found
  keys := rfl
  drafts := rfl
  tombstones := by simp
  communities := rfl

/-- A removal that adds no operations keeps the status of each. -/
theorem status_eq (removal : Removal 0 ids before after) (id : OperationId) :
    (after.operations.lookup id).map status = (before.operations.lookup id).map status := by
  cases found : before.operations.lookup id with
  | some row =>
    rw [removal.kept id row found]
    rfl
  | none =>
    cases added : after.operations.lookup id with
    | none => rfl
    | some row => exact absurd (removal.added id row added found).2.2 (Nat.not_lt_zero _)

theorem mono (removal : Removal bound ids before after) (within : bound ≤ limit) :
    Removal limit ids before after :=
  { removal with
    added := fun id row found missing =>
      have ⟨same, nobody, below⟩ := removal.added id row found missing
      ⟨same, nobody, Nat.lt_of_lt_of_le below within⟩ }

theorem trans (first : Removal bound ids before middle) (second : Removal bound more middle after) :
    Removal bound (ids ++ more) before after where
  agents := by
    intro id
    rw [second.agents, first.agents]
    by_cases earlier : id ∈ ids <;> by_cases later : id ∈ more <;> simp [later]
  retention := by
    intro id
    rw [second.retention, first.retention]
    by_cases earlier : id ∈ ids <;> by_cases later : id ∈ more <;> simp [later]
  kept := by
    intro id row found
    rw [second.kept id _ (first.kept id row found), forget_append]
  added := by
    intro id row found missing
    cases between : middle.operations.lookup id with
    | none => exact second.added id row found between
    | some earlier =>
      obtain ⟨same, nobody, below⟩ := first.added id earlier between missing
      have kept := second.kept id earlier between
      rw [found, Option.some.injEq] at kept
      subst kept
      exact ⟨same, by simp [forget, nobody], below⟩
  keys := second.keys.trans first.keys
  drafts := second.drafts.trans first.drafts
  tombstones := by
    intro id
    rw [second.tombstones, first.tombstones, List.mem_append, or_assoc]
  communities := second.communities.trans first.communities

/-- Where an operation comes from that is there after a removal. -/
theorem operation (removal : Removal bound ids before after) {id : OperationId}
    {row : DurableOperation} (found : after.operations.lookup id = some row) :
    (∃ earlier, before.operations.lookup id = some earlier ∧ row = earlier.forget ids) ∨
      (before.operations.lookup id = none ∧ row.id = id ∧ row.agentId = none ∧
        id.uuid < bound) := by
  cases earlier : before.operations.lookup id with
  | none => exact .inr ⟨rfl, removal.added id row found earlier⟩
  | some existing =>
    have kept := removal.kept id existing earlier
    rw [found, Option.some.injEq] at kept
    exact .inl ⟨existing, rfl, kept⟩

end Database.Removal

variable (database : Database)

theorem Database.removal_deleteAgentSpec (id : AgentId) (tombstone : PurgedAgentTombstone) :
    Database.Removal 0 [id] database
      ((database.insertTombstone id tombstone).deleteAgentSpec id) := by
  have rows : (database.insertTombstone id tombstone).agentSpecs = database.agentSpecs ∧
      (database.insertTombstone id tombstone).agentRetention = database.agentRetention ∧
      (database.insertTombstone id tombstone).operations = database.operations ∧
      (database.insertTombstone id tombstone).idempotencyKeys = database.idempotencyKeys ∧
      (database.insertTombstone id tombstone).agentDrafts = database.agentDrafts ∧
      (database.insertTombstone id tombstone).communityConfigs = database.communityConfigs := by
    unfold insertTombstone
    split <;> exact ⟨rfl, rfl, rfl, rfl, rfl, rfl⟩
  obtain ⟨agents, retention, operations, keys, drafts, communities⟩ := rows
  have forgets : (fun operation : DurableOperation =>
      if operation.agentId = some id then { operation with agentId := none } else operation) =
        forget [id] := by
    funext operation
    obtain ⟨_, _, _, agentId, _, _, _, _⟩ := operation
    cases agentId with
    | none => simp [forget]
    | some named =>
      by_cases same : named = id <;> simp [forget, Option.filter, same]
  have tombstones : ∀ other, other ∈ (database.insertTombstone id tombstone).purgedAgentTombstones ↔
        other ∈ database.purgedAgentTombstones ∨ other = id := by
    intro other
    unfold insertTombstone
    split
    · next present =>
      refine ⟨.inl, ?_⟩
      rintro (member | rfl)
      · exact member
      · exact present
    · rw [mem_insert, or_comm]
  constructor
  · intro other
    simp only [deleteAgentSpec, agents, lookup_erase_eq, List.mem_singleton]
  · intro other
    simp only [deleteAgentSpec, retention, lookup_erase_eq, List.mem_singleton]
  · intro other row found
    simp only [deleteAgentSpec, operations, forgets, lookup_mapRows, found, Option.map_some]
  · intro other row found missing
    simp only [deleteAgentSpec, operations, lookup_mapRows, missing] at found
    cases found
  · exact keys
  · exact drafts
  · intro other
    rw [List.mem_singleton]
    exact tombstones other
  · exact communities

theorem Database.deleteAgentSpec_audits (id : AgentId) (tombstone : PurgedAgentTombstone) :
    ((database.insertTombstone id tombstone).deleteAgentSpec id).auditRecords =
      database.auditRecords := by
  unfold deleteAgentSpec insertTombstone
  split <;> rfl

/-! ### Methods that leave the lifecycle alone -/

/-- The tables of the lifecycle are the same; communities and drafts may have been added. -/
structure Database.SameLifecycle (before after : Database) : Prop where
  agentSpecs : after.agentSpecs = before.agentSpecs
  agentRetention : after.agentRetention = before.agentRetention
  operations : after.operations = before.operations
  idempotencyKeys : after.idempotencyKeys = before.idempotencyKeys
  tombstones : after.purgedAgentTombstones = before.purgedAgentTombstones
  communities : ∀ id ∈ before.communityConfigs, id ∈ after.communityConfigs
  drafts : ∀ id row, before.agentDrafts.lookup id = some row →
    after.agentDrafts.lookup id = some row

theorem Database.SameLifecycle.refl : database.SameLifecycle database :=
  ⟨rfl, rfl, rfl, rfl, rfl, fun _ => id, fun _ _ => id⟩

/-- What a method does besides the lifecycle: it writes a community, or adds an audit record,
a draft, a projection or a publication. -/
inductive Database.Aside (before : Database) :
    Option CommunityConfig → Option NewAuditRecord → Database → Prop
  | nothing {written : Option CommunityConfig} {audited : Option NewAuditRecord} :
      Aside before written audited before
  | community (config : CommunityConfig) : Aside before (some config) none
      { before with communityConfigs := before.communityConfigs.insert config.id config }
  | audit (record : NewAuditRecord) : Aside before none (some record)
      { before with auditRecords := before.auditRecords ++ [record] }
  | draft {draft : DraftResource} (fresh : draft.id ∉ before.agentDrafts)
      (keys : Table (String × String) DraftIdempotencyRow) (record : NewAuditRecord) :
      Aside before none (some record) { before with
          agentDrafts := before.agentDrafts.insert draft.id ⟨draft, none⟩
          draftIdempotency := keys
          auditRecords := before.auditRecords ++ [record] }
  | projections (rows : Table (CommunityConfigId × RelayProjectionKind × String)
      RelayProjectionRow) : Aside before none none { before with relayProjectionState := rows }
  | publications (outbox : List RelayPublication) : Aside before none none
      { before with relayPublicationOutbox := outbox }

variable {written : Option CommunityConfig} {audited : Option NewAuditRecord}

theorem Database.Aside.sameLifecycle {before after : Database}
    (aside : before.Aside written audited after) : before.SameLifecycle after := by
  cases aside with
  | community config =>
    exact { SameLifecycle.refl before with
      communities := fun id member => (mem_insert _).mpr (.inr member) }
  | draft fresh =>
    refine { SameLifecycle.refl before with drafts := fun id row found => ?_ }
    refine (lookup_insert_ne ?_).trans found
    rintro rfl
    exact fresh (mem_of_lookup found)
  | _ => exact { SameLifecycle.refl before with }

namespace SqliteStore

variable (faults : WriteFaults) (database : Database)

theorem enqueuePublication_eq (publication : RelayPublication) :
    ∃ outbox, database.enqueuePublication publication =
      { database with relayPublicationOutbox := outbox } := by
  unfold enqueuePublication
  split
  · exact ⟨database.relayPublicationOutbox, rfl⟩
  · exact ⟨_, rfl⟩

/-- A transaction does besides the lifecycle what its body does. -/
theorem atomically_aside {Result : Type} {commitFault : Option StorageError}
    {body : StoreTransaction Result} {database : Database}
    (aside : ∀ result after, body database = .ok (result, after) →
      database.Aside written audited after) :
    database.Aside written audited (atomically commitFault body database).2 := by
  rcases atomically_cases commitFault body database with
    ⟨error, failed⟩ | ⟨result, after, succeeded, done⟩
  · rw [failed]
    exact .nothing
  · rw [done]
    exact aside result after succeeded

theorem putCommunity_aside (config : CommunityConfig) :
    database.Aside (some config) none (putCommunity faults config database).2 := by
  refine atomically_aside fun result after succeeded => ?_
  simp only [Transaction.bind_eq_ok, validateTransaction_eq_ok,
    Transaction.writeAlways_eq_ok] at succeeded
  obtain ⟨_, _, ⟨-, rfl⟩, -, rfl⟩ := succeeded
  exact .community config

theorem appendAudit_cases (record : NewAuditRecord) :
    (∃ error, appendAudit faults record database = (.error error, database)) ∨
      appendAudit faults record database =
        (.ok (), { database with auditRecords := database.auditRecords ++ [record] }) := by
  unfold appendAudit autocommit
  rcases atomically_cases none _ database with failed | ⟨result, after, body, done⟩
  · exact .inl failed
  · simp only [insertAudit, Transaction.bind_eq_ok, ensure_eq_ok,
      Transaction.writeAlways_eq_ok] at body
    obtain ⟨_, _, ⟨-, rfl⟩, -, rfl⟩ := body
    exact .inr done

theorem appendAudit_aside (record : NewAuditRecord) :
    database.Aside none (some record) (appendAudit faults record database).2 := by
  rcases appendAudit_cases faults database record with ⟨error, failed⟩ | done
  · rw [failed]
    exact .nothing
  · rw [done]
    exact .audit record

theorem applyDraftCommand_aside (draft : DraftResource) (scope key : String)
    (hash : RequestHash) (audit : NewAuditRecord) :
    database.Aside none (some audit)
      (applyDraftCommand faults draft scope key hash audit database).2 := by
  unfold applyDraftCommand transaction
  split
  · split
    · exact .nothing
    · split <;> exact .nothing
  · refine atomically_aside fun result after succeeded => ?_
    simp only [insertAudit, Transaction.bind_eq_ok, ensure_eq_ok,
      Transaction.write_eq_ok, Transaction.writeAlways_eq_ok,
      decide_eq_true_eq] at succeeded
    obtain ⟨_, _, ⟨-, fresh, rfl⟩, _, _, ⟨-, rfl⟩, _, _, ⟨_, _, ⟨-, rfl⟩, -, rfl⟩, -, rfl⟩ :=
      succeeded
    exact .draft fresh _ audit

theorem recordRelayProjection_aside (kind : RelayProjectionKind) (subjectId : String)
    (scope : RelayProjectionScope) :
    database.Aside none none (recordRelayProjection faults kind subjectId scope database).2 := by
  refine atomically_aside fun result after succeeded => ?_
  simp only [Transaction.writeAlways_eq_ok] at succeeded
  obtain ⟨-, rfl⟩ := succeeded
  exact .projections _

theorem enqueueRelayPublication_aside (publication : RelayPublication) :
    database.Aside none none (enqueueRelayPublication faults publication database).2 := by
  refine atomically_aside fun result after succeeded => ?_
  simp only [Transaction.writeAlways_eq_ok] at succeeded
  obtain ⟨-, rfl⟩ := succeeded
  obtain ⟨outbox, same⟩ := enqueuePublication_eq database publication
  rw [same]
  exact .publications outbox

/-! ### Methods of the lifecycle -/

theorem putAgent_cases (spec : AgentSpec) :
    (∃ error, putAgent faults spec database = (.error error, database)) ∨
      (spec.communityConfigId ∈ database.communityConfigs ∧ putAgent faults spec database =
          (.ok (), { database with agentSpecs := database.agentSpecs.insert spec.id spec })) := by
  unfold putAgent autocommit
  rcases atomically_cases none _ database with failed | ⟨result, after, body, done⟩
  · exact .inl failed
  · simp only [Transaction.bind_eq_ok, validateTransaction_eq_ok, Transaction.write_eq_ok,
      decide_eq_true_eq] at body
    obtain ⟨_, _, ⟨-, rfl⟩, -, known, rfl⟩ := body
    exact .inr ⟨known, done⟩

theorem transitionOperation_cases (id : OperationId) (next : OperationStatus)
    (errorCode : Option ErrorCode) (now : Int) :
    (∃ error, transitionOperation faults id next errorCode now database =
        (.error error, database)) ∨
      ∃ operation, database.operations.lookup id = some operation ∧
        operation.status.canTransitionTo next = true ∧
        transitionOperation faults id next errorCode now database = (.ok (), { database with
            operations := database.operations.insert id
              { operation with status := next, errorCode := errorCode, updatedAt := now } }) := by
  unfold transitionOperation
  cases found : database.operations.lookup id with
  | none => exact .inl ⟨_, rfl⟩
  | some operation =>
    by_cases allowed : operation.status.canTransitionTo next = true
    · simp only [allowed]
      rcases atomically_cases (faults.at .commit) _ database with
        failed | ⟨result, after, body, done⟩
      · exact .inl failed
      · simp only [Transaction.writeAlways_eq_ok] at body
        obtain ⟨-, rfl⟩ := body
        exact .inr ⟨operation, rfl, allowed, done⟩
    · simp only [allowed]
      exact .inl ⟨_, rfl⟩

theorem completePurge_cases (agentId : AgentId) (id : OperationId) (now : Int)
    (audit : NewAuditRecord) :
    (∃ error, completePurge faults agentId id now audit database = (.error error, database)) ∨
      ∃ operation agent after, database.operations.lookup id = some operation ∧
        operation.agentId = some agentId ∧ operation.kind = .purgeAgent ∧
        operation.status.canTransitionTo .succeeded = true ∧
        database.agentSpecs.lookup agentId = some agent ∧ agent.desiredState = .deleted ∧
        Database.Removal 0 [agentId] { database with
            operations := database.operations.insert id
              { operation with status := .succeeded, errorCode := none, updatedAt := now }
            auditRecords := database.auditRecords ++ [audit] } after ∧
        after.auditRecords = database.auditRecords ++ [audit] ∧
        completePurge faults agentId id now audit database = (.ok (), after) := by
  unfold completePurge
  cases found : database.operations.lookup id with
  | none => exact .inl ⟨_, rfl⟩
  | some operation =>
    by_cases other : operation.agentId ≠ some agentId ∨ operation.kind ≠ .purgeAgent
    · simp only [other]
      exact .inl ⟨_, rfl⟩
    · simp only [other]
      simp only [not_or, not_not] at other
      by_cases allowed : operation.status.canTransitionTo .succeeded = false
      · simp only [allowed]
        exact .inl ⟨_, rfl⟩
      · simp only [allowed]
        cases row : database.agentSpecs.lookup agentId with
        | none => exact .inl ⟨_, rfl⟩
        | some agent =>
          by_cases active : agent.desiredState = .deleted
          · simp only [active]
            rcases atomically_cases (faults.at .commit) _ database with
              failed | ⟨result, after, body, done⟩
            · exact .inl failed
            · simp only [insertAudit, Transaction.bind_eq_ok, ensure_eq_ok,
                Transaction.writeAlways_eq_ok] at body
              obtain ⟨_, _, ⟨-, rfl⟩, _, _, ⟨_, _, ⟨-, rfl⟩, -, rfl⟩, _, _, ⟨-, rfl⟩, -, rfl⟩ :=
                body
              refine .inr ⟨operation, agent, _, rfl, other.1, other.2,
                Bool.of_not_eq_false allowed, rfl, active,
                removal_deleteAgentSpec _ agentId ⟨now, id⟩,
                deleteAgentSpec_audits _ agentId ⟨now, id⟩, done⟩
          · simp only [active, ne_eq]
            exact .inl ⟨_, rfl⟩

/-! ### Removing a community -/

variable {faults database} {after : Database} {result : Unit}

theorem enqueueAgentRemoval_ok
    (succeeded : enqueueAgentRemoval faults community id now database = .ok (result, after)) :
    ∃ outbox, after = { database with relayPublicationOutbox := outbox } := by
  unfold enqueueAgentRemoval at succeeded
  split at succeeded
  · cases succeeded
    exact ⟨database.relayPublicationOutbox, rfl⟩
  · simp only [Transaction.bind_eq_ok, Transaction.writeAlways_eq_ok] at succeeded
    obtain ⟨_, _, ⟨-, rfl⟩, -, rfl⟩ := succeeded
    obtain ⟨first, once⟩ :=
      enqueuePublication_eq database ⟨.tombstoneManagedAgent, _, id.toText, now⟩
    rw [once]
    exact enqueuePublication_eq _ _

theorem enqueuePersonaRemovals_ok {rows : List RelayProjectionRow}
    (succeeded : enqueuePersonaRemovals faults now rows database = .ok (result, after)) :
    ∃ outbox, after = { database with relayPublicationOutbox := outbox } := by
  induction rows generalizing database with
  | nil =>
    cases succeeded
    exact ⟨_, rfl⟩
  | cons row rest inductionHypothesis =>
    simp only [enqueuePersonaRemovals, Transaction.bind_eq_ok,
      Transaction.writeAlways_eq_ok] at succeeded
    obtain ⟨_, _, ⟨-, rfl⟩, later⟩ := succeeded
    obtain ⟨first, once⟩ :=
      enqueuePublication_eq database ⟨.tombstonePersona, row.scope, row.subjectId, now⟩
    rw [once] at later
    obtain ⟨outbox, rfl⟩ := inductionHypothesis later
    exact ⟨outbox, rfl⟩

theorem removeDeletedAgent_ok {purgeOperation : OperationId}
    (succeeded : removeDeletedAgent faults community now id purgeOperation database =
      .ok (result, after)) :
    Database.Removal (purgeOperation.uuid + 1) [id] database after ∧
      after.auditRecords = database.auditRecords := by
  simp only [removeDeletedAgent, insertOperation, Transaction.bind_eq_ok,
    Transaction.write_eq_ok, Transaction.writeAlways_eq_ok, Bool.and_eq_true,
    decide_eq_true_eq] at succeeded
  obtain ⟨_, _, enqueued, _, _, ⟨-, ⟨fresh, -⟩, rfl⟩, _, _, ⟨-, rfl⟩, -, rfl⟩ := succeeded
  obtain ⟨outbox, rfl⟩ := enqueueAgentRemoval_ok enqueued
  have removal := (removal_deleteAgentSpec { database with
      relayPublicationOutbox := outbox
      operations := database.operations.insert purgeOperation
        ⟨purgeOperation, .purgeAgent, .succeeded, some id, none, now, now,
          "community-delete:" ++ community.toText⟩ } id ⟨now, purgeOperation⟩).mono
    (Nat.zero_le (purgeOperation.uuid + 1))
  refine ⟨⟨removal.agents, removal.retention, ?_, ?_, removal.keys, removal.drafts,
    removal.tombstones, removal.communities⟩, deleteAgentSpec_audits ..⟩
  · intro other row found
    have differs : other ≠ purgeOperation := by
      rintro rfl
      exact fresh (mem_of_lookup found)
    exact removal.kept other row (by rw [lookup_insert_ne differs, found])
  · intro other row found missing
    by_cases same : other = purgeOperation
    · subst same
      have kept := removal.kept other _ (lookup_insert _)
      rw [found, Option.some.injEq] at kept
      subst kept
      exact ⟨rfl, by simp [forget], Nat.lt_succ_self _⟩
    · exact removal.added other row found (by rw [lookup_insert_ne same, missing])

theorem removeDeletedAgent_statuses {purgeOperation : OperationId}
    (succeeded : removeDeletedAgent faults community now id purgeOperation database =
      .ok (result, after)) (current : OperationId) :
    (after.operations.lookup current).map status =
      if current = purgeOperation then some .succeeded
      else (database.operations.lookup current).map status := by
  simp only [removeDeletedAgent, insertOperation, Transaction.bind_eq_ok,
    Transaction.write_eq_ok, Transaction.writeAlways_eq_ok] at succeeded
  obtain ⟨_, _, enqueued, _, _, ⟨-, -, rfl⟩, _, _, ⟨-, rfl⟩, -, rfl⟩ := succeeded
  obtain ⟨outbox, rfl⟩ := enqueueAgentRemoval_ok enqueued
  have kept (row : DurableOperation) :
      (if row.agentId = some id then { row with agentId := none } else row).status =
        row.status := by
    split <;> rfl
  have untouched (database : Database) :
      (database.insertTombstone id ⟨now, purgeOperation⟩).operations = database.operations := by
    unfold insertTombstone
    split <;> rfl
  simp only [deleteAgentSpec, untouched, lookup_mapRows, Option.map_map, Function.comp_def, kept,
    lookup_insert_eq]
  split <;> rfl

theorem removeDeletedAgents_ok {fresh : Nat}
    (succeeded : removeDeletedAgents faults community now ids fresh database =
      .ok (result, after)) :
    Database.Removal (fresh + ids.length) ids database after ∧
      after.auditRecords = database.auditRecords := by
  induction ids generalizing database fresh with
  | nil =>
    cases succeeded
    exact ⟨Database.Removal.refl _ _, rfl⟩
  | cons id rest inductionHypothesis =>
    simp only [removeDeletedAgents, Transaction.bind_eq_ok] at succeeded
    obtain ⟨_, middle, first, later⟩ := succeeded
    obtain ⟨one, kept⟩ := removeDeletedAgent_ok first
    obtain ⟨others, stillKept⟩ := inductionHypothesis later
    refine ⟨(one.mono (Nat.add_le_add_left ?_ fresh)).trans (others.mono ?_), stillKept.trans kept⟩
    · simp
    · simp only [List.length_cons]
      omega

/-- The purges that a removal records have succeeded, and every other operation keeps its
status. -/
theorem removeDeletedAgents_statuses {fresh : Nat}
    (succeeded : removeDeletedAgents faults community now ids fresh database =
      .ok (result, after)) (current : OperationId) :
    (after.operations.lookup current).map status =
      if fresh ≤ current.uuid ∧ current.uuid < fresh + ids.length then some .succeeded
      else (database.operations.lookup current).map status := by
  induction ids generalizing database fresh with
  | nil =>
    cases succeeded
    rw [if_neg (by simp only [List.length_nil]; omega)]
  | cons id rest inductionHypothesis =>
    simp only [removeDeletedAgents, Transaction.bind_eq_ok] at succeeded
    obtain ⟨_, middle, first, later⟩ := succeeded
    rw [inductionHypothesis later, removeDeletedAgent_statuses first]
    have drawn : current = ⟨fresh⟩ ↔ current.uuid = fresh := by cases current; simp
    simp only [List.length_cons, drawn]
    split_ifs <;> first | rfl | omega

/-- What the check on the agents of a community establishes. -/
theorem checkDeletedAgents_ok {agents : List AgentSpec}
    (passed : checkDeletedAgents community database agents = .ok ids) :
    ids = agents.map AgentSpec.id ∧ ∀ agent ∈ agents, agent.desiredState = .deleted ∧
      (lastDeletion agent.id database).map status = some .succeeded := by
  induction agents generalizing ids with
  | nil =>
    cases passed
    exact ⟨rfl, by simp⟩
  | cons agent rest inductionHypothesis =>
    unfold checkDeletedAgents at passed
    split at passed
    · cases passed
    · next marked =>
      split at passed
      · cases passed
      · next finished =>
        cases later : checkDeletedAgents community database rest with
        | error error =>
          rw [later] at passed
          cases passed
        | ok others =>
          rw [later] at passed
          cases passed
          obtain ⟨rfl, checked⟩ := inductionHypothesis later
          refine ⟨rfl, fun other member => ?_⟩
          rcases List.mem_cons.mp member with rfl | earlier
          · exact ⟨not_not.mp marked, not_not.mp finished⟩
          · exact checked other earlier

theorem deleteCommunityWithDeletedAgents_cases (faults : WriteFaults) (database : Database)
    (id : CommunityConfigId) (now : Int) (fresh : Nat) :
    (∃ error, deleteCommunityWithDeletedAgents faults id now fresh database =
        (.error error, database)) ∨
      ∃ ids removed outbox, id ∈ database.communityConfigs ∧
        checkDeletedAgents id database (listAgents (some id) database) = .ok ids ∧
        Database.Removal (fresh + ids.length) ids database removed ∧
        removed.auditRecords = database.auditRecords ∧
        deleteCommunityWithDeletedAgents faults id now fresh database = (.ok ids, { removed with
            relayPublicationOutbox := outbox
            communityConfigs := removed.communityConfigs.erase id }) := by
  unfold deleteCommunityWithDeletedAgents
  split
  · exact .inl ⟨_, rfl⟩
  · next stored =>
    split
    · exact .inl ⟨_, rfl⟩
    · next ids checked =>
      rcases atomically_cases (faults.at .commit) _ database with
        failed | ⟨answer, after, body, done⟩
      · exact .inl failed
      · simp only [Transaction.bind_eq_ok, Transaction.writeAlways_eq_ok] at body
        obtain ⟨_, removed, removals, _, _, personas, _, _, ⟨-, rfl⟩, rfl, rfl⟩ := body
        obtain ⟨outbox, rfl⟩ := enqueuePersonaRemovals_ok personas
        obtain ⟨removal, audits⟩ := removeDeletedAgents_ok removals
        exact .inr ⟨_, removed, outbox, not_not.mp stored, checked, removal, audits, done⟩

/-- The removal of a community records a purge that has succeeded for each of its agents. -/
theorem deleteCommunityWithDeletedAgents_statuses {faults : WriteFaults} {database : Database}
    {community : CommunityConfigId} {now : Int} {fresh : Nat}
    (done : deleteCommunityWithDeletedAgents faults community now fresh database = (.ok ids, after))
    (current : OperationId) : (after.operations.lookup current).map status =
      if fresh ≤ current.uuid ∧
          current.uuid < fresh + (listAgents (some community) database).length then some .succeeded
      else (database.operations.lookup current).map status := by
  unfold deleteCommunityWithDeletedAgents at done
  split at done
  · cases done
  · split at done
    · cases done
    · next passed =>
      rcases atomically_cases (faults.at .commit) _ database with
        ⟨error, failed⟩ | ⟨answer, last, body, committed⟩
      · cases failed.symm.trans done
      · cases committed.symm.trans done
        simp only [Transaction.bind_eq_ok, Transaction.writeAlways_eq_ok] at body
        obtain ⟨_, removed, removals, _, _, personas, _, _, ⟨-, rfl⟩, -, rfl⟩ := body
        obtain ⟨outbox, rfl⟩ := enqueuePersonaRemovals_ok personas
        have counted := congrArg List.length (checkDeletedAgents_ok passed).1
        rw [List.length_map] at counted
        rw [← counted]
        exact removeDeletedAgents_statuses removals current

theorem mem_of_listPurgedAgentIds
    (listed : id ∈ listPurgedAgentIds database) : id ∈ database.purgedAgentTombstones := by
  obtain ⟨⟨key, row⟩, member, rfl⟩ := List.mem_map.mp listed
  rw [List.mem_insertionSort] at member
  exact mem_keys.mpr (List.mem_keys_of_mem member)

end SqliteStore

end BuzzServer
