/-
This file is about the audit records of operations that have ended.

A purge that succeeds writes its status and its audit record in one transaction.
Every other completion writes them in two, and the removal of a community writes
purge operations that have succeeded and no audit record at all. So an operation
that has ended may be missing from the audit trail: between the two writes, for
good if the second fails or the daemon crashes before it, and for good after a
removal of a community with agents.

A ledger follows a run and lists the audits that are due: an entry is made when
a status is committed without its record, and struck out when the record is
committed. Nobody reads it. In every reachable state, whatever has failed or
crashed, it lists exactly the operations whose record is missing.
-/

import BuzzServer.Concurrent.Auxiliary
import BuzzServer.Daemon.Lawful
import BuzzServer.Daemon.Schedule
import BuzzServer.OperationHistory

namespace BuzzServer

open Relational Concurrent

/-! ### Completions in the audit trail -/

/-- The outcome that the audit record of an operation gives, if it ends with the status. -/
def OperationStatus.outcome? : OperationStatus → Option String
  | .succeeded => some "succeeded"
  | .failed => some "failed"
  | _ => none

/-- The completion of an operation is in the audit trail. -/
def Database.Audited (database : Database) (id : OperationId) (outcome : String) : Prop :=
  ∃ record ∈ database.auditRecords, record.Completes id outcome

/-- The operation has ended with the status, and no audit record says so. -/
def World.MissesAudit (world : World) (id : OperationId) (status : OperationStatus) : Prop :=
  ∃ outcome, status.outcome? = some outcome ∧ world.operationStatus id = some status ∧
    ¬world.db.Audited id outcome

/-- The records of completions are the same. -/
def Database.SameCompletions (before after : Database) : Prop :=
  ∀ record : NewAuditRecord, record.action = "operation.complete" →
    (record ∈ after.auditRecords ↔ record ∈ before.auditRecords)

variable {setting : Setting} {thread : Thread} {world before after : World}
  {Response : Type} {action : Action Response}
  {id current : OperationId} {status : OperationStatus} {outcome : String}

theorem OperationStatus.isTerminal_of_outcome (ended : status.outcome? = some outcome) :
    status.isTerminal = true := by
  cases status <;> first | rfl | cases ended

section

variable {first second : Database}

theorem Database.SameCompletions.of_eq (same : second.auditRecords = first.auditRecords) :
    first.SameCompletions second :=
  fun record _ => by rw [same]

/-- A record of something else adds no completion. -/
theorem Database.SameCompletions.append {record : NewAuditRecord}
    (other : record.action ≠ "operation.complete")
    (added : second.auditRecords = first.auditRecords ++ [record]) :
    first.SameCompletions second := by
  intro completion completes
  rw [added, List.mem_append, List.mem_singleton, or_iff_left]
  rintro rfl
  exact other completes

theorem Database.SameCompletions.audited (same : first.SameCompletions second) :
    second.Audited id outcome ↔ first.Audited id outcome :=
  exists_congr fun record => and_congr_left fun completes => same record completes.2.1

theorem Database.audited_append {record : NewAuditRecord}
    (added : second.auditRecords = first.auditRecords ++ [record]) :
    second.Audited id outcome ↔ first.Audited id outcome ∨ record.Completes id outcome := by
  unfold Audited
  simp only [added, List.mem_append, List.mem_singleton, or_and_right, exists_or, exists_eq_left]

theorem Database.Aside.sameCompletions {written : Option CommunityConfig}
    {audited : Option NewAuditRecord} (aside : first.Aside written audited second)
    (other : ∀ record, audited = some record → record.action ≠ "operation.complete") :
    first.SameCompletions second := by
  cases aside with
  | audit record | draft fresh keys record => exact .append (other record rfl) rfl
  | _ => exact .of_eq rfl

end

/-! ### What the actions do to it -/

/-- The actions that end operations or record completions. -/
def Action.completes {Response : Type} : Action Response → Bool
  | .transitionOperation _ _ _ _ | .completePurge _ _ _ _ | .deleteCommunityWithDeletedAgents _ _
  | .appendAudit _ => true
  | _ => false

/-- Every other action records no completion. -/
theorem sameCompletions_of_duty (done : duty setting .unconditional thread action world)
    (other : action.completes = false) :
    world.db.SameCompletions (perform thread action world).2.db := by
  cases action with
  | putAgent spec =>
    simp only [perform]
    rcases World.method_cases_of (SqliteStore.putAgent_cases world.faults.writes world.db spec)
      with ⟨error, failed⟩ | ⟨same, -, stored⟩
    · rw [failed]
      exact .of_eq rfl
    · rw [same, stored]
      exact .of_eq rfl
  | applyAgentCommand command =>
    simp only [perform]
    rcases World.method_cases_of (SqliteStore.applyAgentCommand_cases world.faults.writes command
        world.db) with ⟨error, failed⟩ | ⟨same, ⟨_, _, -, -, -, replayed⟩ | ⟨-, accepted⟩⟩
    · rw [failed]
      exact .of_eq rfl
    · rw [same, replayed]
      exact .of_eq rfl
    · rw [same, accepted]
      exact .append done.2.2.audit rfl
  | putCommunity config =>
    exact (World.method_aside fun database =>
      SqliteStore.putCommunity_aside _ database config).sameCompletions (by simp)
  | applyDraftCommand draft scope key hash audit =>
    refine (World.method_aside fun database => SqliteStore.applyDraftCommand_aside _ database draft
      scope key hash audit).sameCompletions ?_
    rintro record ⟨⟩
    exact done.2
  | recordRelayProjection kind subjectId scope =>
    exact (World.method_aside fun database => SqliteStore.recordRelayProjection_aside _ database
      kind subjectId scope).sameCompletions (by simp)
  | enqueueRelayPublication publication =>
    exact (World.method_aside fun database => SqliteStore.enqueueRelayPublication_aside _ database
      publication).sameCompletions (by simp)
  | transitionOperation | completePurge | deleteCommunityWithDeletedAgents | appendAudit =>
    cases other
  | _ => exact .of_eq rfl

/-- Every other action ends no operation. -/
theorem Effect.ended_iff (effect : Effect thread before action after)
    (pending : ∀ command, action.submits = some command → command.operation.status = .pending)
    (other : action.completes = false) (ended : status.outcome? = some outcome) :
    after.operationStatus id = some status ↔ before.operationStatus id = some status := by
  cases effect with
  | quiet same => rw [World.operationStatus_congr same.tables.operations]
  | @acceptCommand command acceptable =>
    show ((before.db.operations.insert _ _).lookup id).map _ = some status ↔ _
    rw [Table.lookup_insert_eq]
    split
    · next same =>
      have unknown : before.operationStatus id = none := by
        rw [same, World.operationStatus_eq_none]
        exact AList.lookup_eq_none.mpr acceptable.operationFresh
      rw [Option.map_some, pending command rfl, unknown]
      refine iff_of_false ?_ nofun
      rintro ⟨⟩
      cases ended
    · rfl
  | removeCommunity | transition | completePurge => cases other
  | _ => exact Iff.rfl

theorem World.not_terminal {operation : DurableOperation} {next : OperationStatus}
    (found : world.db.operations.lookup id = some operation)
    (permitted : operation.status.canTransitionTo next = true) : ¬world.Terminal id := by
  rintro ⟨row, stored, ended⟩
  obtain rfl := Option.some.inj (found.symm.trans stored)
  rw [OperationStatus.not_isTerminal_of_canTransitionTo permitted] at ended
  cases ended

/-- A transition that commits moves one operation that has not ended. -/
theorem transition_statuses (thread : Thread) (world : World) (id : OperationId)
    (next : OperationStatus) (errorCode : Option ErrorCode) (now : Int) :
    let done := perform thread (.transitionOperation id next errorCode now) world
    (∃ error, done.1 = .error error ∧ done.2.db = world.db) ∨
    done.1 = .ok () ∧ done.2.db.auditRecords = world.db.auditRecords ∧ ¬world.Terminal id ∧
      ∀ current, done.2.operationStatus current =
        if current = id then some next else world.operationStatus current := by
  simp only [perform]
  rcases World.method_cases_of (SqliteStore.transitionOperation_cases world.faults.writes
      world.db id next errorCode now) with
    ⟨error, failed⟩ | ⟨same, operation, found, permitted, moved⟩
  · exact .inl ⟨error, by rw [failed], by rw [failed]⟩
  · refine .inr ⟨by rw [same, moved], by rw [same, moved], World.not_terminal found permitted,
      fun current => ?_⟩
    rw [same, moved]
    show ((world.db.operations.insert _ _).lookup current).map _ = _
    rw [Table.lookup_insert_eq]
    split <;> rfl

/-- The completion of a purge does nothing, or it ends its operation and records that. -/
theorem completePurge_statuses (thread : Thread) (world : World) (agentId : AgentId)
    (id : OperationId) (now : Int) (audit : NewAuditRecord) :
    let done := perform thread (.completePurge agentId id now audit) world
    done.2.db = world.db ∨
    done.2.db.auditRecords = world.db.auditRecords ++ [audit] ∧ ¬world.Terminal id ∧
      ∀ current, done.2.operationStatus current =
        if current = id then some .succeeded else world.operationStatus current := by
  simp only [perform]
  rcases World.method_cases_of (SqliteStore.completePurge_cases world.faults.writes world.db
      agentId id now audit) with
    ⟨error, failed⟩ |
    ⟨same, operation, _, after, found, -, -, permitted, -, -, removal, recorded, done⟩
  · rw [failed]
    exact .inl rfl
  · refine .inr ⟨by rw [same, done, recorded], World.not_terminal found permitted,
      fun current => ?_⟩
    rw [same, done]
    have status := removal.status_eq current
    rw [Table.lookup_insert_eq] at status
    refine status.trans ?_
    split <;> rfl

/-- A removal that commits records purges that have succeeded, under the ids it draws. -/
theorem removal_statuses (thread : Thread) (world : World) (community : CommunityConfigId)
    (now : Int) :
    let done := perform thread (.deleteCommunityWithDeletedAgents community now) world
    (∃ error, done.1 = .error error ∧ done.2.db = world.db) ∨
    (∃ ids, done.1 = .ok ids) ∧ done.2.db.auditRecords = world.db.auditRecords ∧
      ∀ current, done.2.operationStatus current =
        if world.nextUuid ≤ current.uuid ∧ current.uuid < world.nextUuid +
            (SqliteStore.listAgents (some community) world.db).length then some .succeeded
        else world.operationStatus current := by
  simp only [perform]
  rcases World.method_cases_of (SqliteStore.deleteCommunityWithDeletedAgents_cases
      world.faults.writes world.db community now world.nextUuid) with
    ⟨error, failed⟩ | ⟨same, ids, removed, outbox, -, -, -, audits, done⟩
  · exact .inl ⟨error, by rw [failed], by rw [failed]⟩
  · refine .inr ⟨⟨ids, by rw [same, done]⟩, by rw [same, done, ← audits], fun current => ?_⟩
    unfold World.operationStatus
    rw [same, ← SqliteStore.deleteCommunityWithDeletedAgents_statuses done current, done]

theorem appendAudit_records (thread : Thread) (world : World) (record : NewAuditRecord) :
    let done := perform thread (.appendAudit record) world
    (∃ error, done.1 = .error error ∧ done.2.db = world.db) ∨
    done.1 = .ok () ∧
      done.2.db = { world.db with auditRecords := world.db.auditRecords ++ [record] } := by
  simp only [perform]
  rcases World.method_cases_of (SqliteStore.appendAudit_cases world.faults.writes world.db record)
    with ⟨error, failed⟩ | ⟨same, done⟩
  · exact .inl ⟨error, by rw [failed], by rw [failed]⟩
  · exact .inr ⟨by rw [same, done], by rw [same, done]⟩

/-! ### The ledger -/

/-- The operations that have ended and whose audit is due. -/
abbrev DueAudits : Type := List (OperationId × OperationStatus)

/-- The record is the audit that is due for the entry. -/
def NewAuditRecord.settles (record : NewAuditRecord) (entry : OperationId × OperationStatus) :
    Bool :=
  decide (record.operationId = some entry.1 ∧ record.action = "operation.complete" ∧
    entry.2.outcome? = some record.outcome)

/-- Entries are made with the statuses that are committed without a record, and struck out with
the records that are committed. -/
def noteEnded (thread : Thread) ⦃Response : Type⦄ (action : Action Response) (world : World)
    (due : DueAudits) : DueAudits :=
  match action with
  | .transitionOperation id next errorCode now =>
      if next.outcome?.isSome &&
          (perform thread (.transitionOperation id next errorCode now) world).1.toBool then
        due ++ [(id, next)]
      else due
  | .deleteCommunityWithDeletedAgents community now =>
      if (perform thread (.deleteCommunityWithDeletedAgents community now) world).1.toBool then
        due ++ (List.range (SqliteStore.listAgents (some community) world.db).length).map
          fun drawn => (⟨world.nextUuid + drawn⟩, .succeeded)
      else due
  | .appendAudit record =>
      if (perform thread (.appendAudit record) world).1.toBool then
        due.filter fun entry => !record.settles entry
      else due
  | _ => due

/-- A restart settles nothing. -/
def dueNotes : Auxiliary Thread Action World DueAudits where
  act := noteEnded
  restart := fun due => due

abbrev AuditState : Type := World × DueAudits

/-- The daemon with the ledger. -/
def auditedDaemon (setting : Setting) : System Thread Action AuditState :=
  (daemon setting).annotated dueNotes

/-- The pools the daemon reaches from a fresh world in which no completion is recorded. -/
def AuditReachable (setting : Setting) (pool : Pool Thread Action AuditState) : Prop :=
  ∃ world : World, world.Fresh ∧
    (∀ record ∈ world.db.auditRecords, record.action ≠ "operation.complete") ∧
    (auditedDaemon setting).Reaches (unrestricted Thread Action AuditState)
      ((idlePool world).withNote []) pool

/-- The ledger lists what is missing, and completions are recorded of ended operations only. -/
structure Ledger (state : AuditState) : Prop where
  due : ∀ id status, (id, status) ∈ state.2 ↔ state.1.MissesAudit id status
  follows : ∀ record ∈ state.1.db.auditRecords, record.Follows state.1

namespace Ledger

variable {due : DueAudits}

theorem not_audited (ledger : Ledger (world, due)) (running : ¬world.Terminal id) :
    ¬world.db.Audited id outcome := by
  rintro ⟨record, member, named, completes, -⟩
  obtain ⟨other, names, ended⟩ := ledger.follows record member completes
  cases named.symm.trans names
  exact running ended

/-- An operation that is listed has ended. -/
theorem not_mem (ledger : Ledger (world, due)) (running : ¬world.Terminal id) :
    (id, status) ∉ due := by
  intro listed
  obtain ⟨outcome, ended, stored, -⟩ := (ledger.due id status).mp listed
  obtain ⟨row, found, rfl⟩ := World.operationStatus_eq_some.mp stored
  exact running ⟨row, found, OperationStatus.isTerminal_of_outcome ended⟩

theorem follows_of_same (ledger : Ledger (before, due))
    (same : before.db.SameCompletions after.db)
    (terminal : ∀ id, before.Terminal id → after.Terminal id) :
    ∀ record ∈ after.db.auditRecords, record.Follows after := by
  intro record member completes
  obtain ⟨id, named, ended⟩ := ledger.follows record ((same record completes).mp member) completes
  exact ⟨id, named, terminal id ended⟩

/-- The ledger is right as long as the operations that have ended and the records of completions
stay the same. -/
theorem congr (ledger : Ledger (before, due)) (same : before.db.SameCompletions after.db)
    (terminal : ∀ id, before.Terminal id → after.Terminal id)
    (statuses : ∀ id status outcome, status.outcome? = some outcome →
      (after.operationStatus id = some status ↔ before.operationStatus id = some status)) :
    Ledger (after, due) where
  due := by
    intro id status
    rw [ledger.due id status]
    refine exists_congr fun outcome => and_congr_right fun ended => ?_
    rw [statuses id status outcome ended, same.audited]
  follows := ledger.follows_of_same same terminal

theorem of_db (ledger : Ledger (before, due)) (same : after.db = before.db) :
    Ledger (after, due) := by
  refine ledger.congr (.of_eq (by rw [same])) ?_ fun id status outcome _ => ?_
  · rintro id ⟨row, found, ended⟩
    exact ⟨row, by rw [same, found], ended⟩
  · rw [World.operationStatus_congr (congrArg Database.operations same)]

end Ledger

/-- An operation that has ended stays so. -/
theorem Effect.terminal (effect : Effect thread before action after) (ended : before.Terminal id) :
    after.Terminal id := by
  obtain ⟨row, found, terminal⟩ := ended
  obtain ⟨later, stays, advances⟩ := effect.operation_stays found
  refine ⟨later, stays, ?_⟩
  rcases advances.status with same | moves
  · rw [same, terminal]
  · rw [OperationStatus.not_isTerminal_of_canTransitionTo moves] at terminal
    cases terminal

/-! ### Every action keeps the ledger -/

theorem NewAuditRecord.settles_iff {record : NewAuditRecord} :
    record.settles (id, status) = true ↔
      ∃ outcome, status.outcome? = some outcome ∧ record.Completes id outcome := by
  simp only [settles, decide_eq_true_eq, Completes]
  constructor
  · rintro ⟨named, completes, ended⟩
    exact ⟨_, ended, named, completes, rfl⟩
  · rintro ⟨outcome, ended, named, completes, rfl⟩
    exact ⟨named, completes, ended⟩

section

variable {due : DueAudits} (ledger : Ledger (world, due))

include ledger

theorem Ledger.transition (id : OperationId) (next : OperationStatus)
    (errorCode : Option ErrorCode) (now : Int) :
    Ledger ((perform thread (.transitionOperation id next errorCode now) world).2,
      noteEnded thread (.transitionOperation id next errorCode now) world due) := by
  rcases transition_statuses thread world id next errorCode now with
    ⟨error, failed, same⟩ | ⟨committed, audits, running, statuses⟩
  · rw [noteEnded, failed, if_neg (by simp [Except.toBool])]
    exact ledger.of_db same
  have sameCompletions := Database.SameCompletions.of_eq audits
  refine ⟨fun current status => ?_, ledger.follows_of_same sameCompletions
    fun _ => (perform_effect thread world _).terminal⟩
  have listed : (current, status) ∈ noteEnded thread (.transitionOperation id next errorCode now)
      world due ↔ (current, status) ∈ due ∨
        next.outcome?.isSome = true ∧ current = id ∧ status = next := by
    rw [noteEnded, committed]
    cases next.outcome? <;> simp [Except.toBool]
  rw [listed, World.MissesAudit]
  simp only [statuses, sameCompletions.audited]
  by_cases same : current = id
  · subst same
    simp only [if_pos, Option.some.injEq, ledger.not_audited running, not_false_iff, and_true,
      true_and, or_iff_right (ledger.not_mem running)]
    rw [Option.isSome_iff_exists]
    grind
  · simp only [same, false_and, and_false, or_false]
    exact ledger.due current status

theorem Ledger.completePurge (agentId : AgentId) (id : OperationId) (now : Int)
    {audit : NewAuditRecord} (completes : audit.Completes id "succeeded") :
    Ledger ((perform thread (.completePurge agentId id now audit) world).2, due) := by
  rcases completePurge_statuses thread world agentId id now audit with
    same | ⟨audits, running, statuses⟩
  · exact ledger.of_db same
  refine ⟨fun current status => ?_, fun record member completed => ?_⟩
  · rw [World.MissesAudit]
    simp only [statuses, Database.audited_append audits]
    by_cases same : current = id
    · subst same
      refine iff_of_false (ledger.not_mem running) ?_
      rintro ⟨outcome, ended, stored, missing⟩
      rw [if_pos rfl, Option.some.injEq] at stored
      subst stored
      cases ended
      exact missing (.inr completes)
    · have others (outcome : String) : ¬audit.Completes current outcome := fun other =>
        same (Option.some.inj (other.1.symm.trans completes.1))
      simp only [if_neg same, others, or_false]
      exact ledger.due current status
  · rw [audits, List.mem_append, List.mem_singleton] at member
    rcases member with earlier | rfl
    · obtain ⟨ended, named, stored⟩ := ledger.follows record earlier completed
      exact ⟨ended, named, (perform_effect thread world _).terminal stored⟩
    · obtain ⟨row, found, succeeded⟩ :=
        World.operationStatus_eq_some.mp ((statuses id).trans (if_pos rfl))
      exact ⟨id, completes.1, row, found, by rw [succeeded]; rfl⟩

theorem Ledger.removal (sound : world.Sound) (community : CommunityConfigId) (now : Int) :
    Ledger ((perform thread (.deleteCommunityWithDeletedAgents community now) world).2,
      noteEnded thread (.deleteCommunityWithDeletedAgents community now) world due) := by
  rcases removal_statuses thread world community now with
    ⟨error, failed, same⟩ | ⟨⟨ids, committed⟩, audits, statuses⟩
  · rw [noteEnded, failed, if_neg (by simp [Except.toBool])]
    exact ledger.of_db same
  have sameCompletions := Database.SameCompletions.of_eq audits
  refine ⟨fun current status => ?_, ledger.follows_of_same sameCompletions
    fun _ => (perform_effect thread world _).terminal⟩
  have listed : (current, status) ∈ noteEnded thread
      (.deleteCommunityWithDeletedAgents community now) world due ↔ (current, status) ∈ due ∨
        (world.nextUuid ≤ current.uuid ∧ current.uuid < world.nextUuid +
          (SqliteStore.listAgents (some community) world.db).length) ∧ status = .succeeded := by
    rw [noteEnded, committed, if_pos (by rfl), List.mem_append, List.mem_map]
    refine or_congr_right ⟨?_, ?_⟩
    · rintro ⟨drawn, below, ⟨⟩⟩
      exact ⟨⟨Nat.le_add_right _ _, Nat.add_lt_add_left (List.mem_range.mp below) _⟩, rfl⟩
    · rintro ⟨⟨above, below⟩, rfl⟩
      refine ⟨current.uuid - world.nextUuid, List.mem_range.mpr (by omega), ?_⟩
      rw [Nat.add_sub_of_le above]
  rw [listed, World.MissesAudit]
  simp only [statuses, sameCompletions.audited]
  by_cases drawn : world.nextUuid ≤ current.uuid ∧ current.uuid < world.nextUuid +
      (SqliteStore.listAgents (some community) world.db).length
  · have running : ¬world.Terminal current := by
      rintro ⟨row, found, -⟩
      exact absurd (sound.operationDrawn current (Table.mem_of_lookup found))
        (Nat.not_lt.mpr drawn.1)
    simp only [if_pos drawn, and_iff_right drawn, Option.some.injEq, not_false_iff, and_true,
      ledger.not_audited running, or_iff_right (ledger.not_mem running)]
    constructor
    · rintro rfl
      exact ⟨_, rfl, rfl⟩
    · rintro ⟨-, -, rfl⟩
      rfl
  · simp only [drawn, false_and, or_false]
    exact ledger.due current status

theorem Ledger.append {record : NewAuditRecord} (follows : record.Follows world) :
    Ledger ((perform thread (.appendAudit record) world).2,
      noteEnded thread (.appendAudit record) world due) := by
  rcases appendAudit_records thread world record with ⟨error, failed, same⟩ | ⟨committed, same⟩
  · rw [noteEnded, failed, if_neg (by simp [Except.toBool])]
    exact ledger.of_db same
  have added := congrArg Database.auditRecords same
  refine ⟨fun current status => ?_, fun other member completes => ?_⟩
  · have status_eq : (perform thread (.appendAudit record) world).2.operationStatus current =
        world.operationStatus current := World.operationStatus_congr (by rw [same])
    rw [noteEnded, committed, if_pos (by rfl), List.mem_filter, ledger.due current status,
      Bool.not_eq_true', ← Bool.not_eq_true, NewAuditRecord.settles_iff]
    simp only [World.MissesAudit, Database.audited_append added, status_eq]
    grind
  · rw [same, List.mem_append, List.mem_singleton] at member
    have earlier : ∃ id, other.operationId = some id ∧ world.Terminal id := by
      rcases member with earlier | rfl
      · exact ledger.follows other earlier completes
      · exact follows completes
    obtain ⟨ended, named, stored⟩ := earlier
    exact ⟨ended, named, (perform_effect thread world _).terminal stored⟩

/-- Every action that does its duty keeps the ledger. -/
theorem Ledger.act (sound : world.Sound) (done : duty setting .unconditional thread action world) :
    Ledger ((perform thread action world).2, noteEnded thread action world due) := by
  have quiet (other : action.completes = false) : Ledger ((perform thread action world).2, due) :=
    ledger.congr (sameCompletions_of_duty done other)
      (fun _ => (perform_effect thread world action).terminal) fun _ _ _ ended =>
        (perform_effect thread world action).ended_iff
          (fun command submits => (duty_conforms done submits).2.pending) other ended
  cases action with
  | transitionOperation id next errorCode now => exact ledger.transition id next errorCode now
  | completePurge agentId id now audit => exact ledger.completePurge agentId id now done.2.2.2.2
  | deleteCommunityWithDeletedAgents community now => exact ledger.removal sound community now
  | appendAudit record => exact ledger.append done.2
  | _ => exact quiet rfl

end

/-! ### Runs -/

/-- In every reachable state the ledger lists exactly what is missing. -/
theorem AuditReachable.ledger {pool : Pool Thread Action AuditState}
    (reachable : AuditReachable setting pool) : Ledger pool.world := by
  obtain ⟨world, fresh, unrecorded, reaches⟩ := reachable
  have lawful : (conduct setting .unconditional).Lawful (daemon setting) _ :=
    conduct_lawful fun durable => durable.elim
  obtain ⟨-, dutiful⟩ := lawful.annotated
    (fun _ _ action state _ => Terms.unconditional_admits _ action state.1) reaches fresh.holds
  refine dutiful.invariant (fun pool => Ledger pool.world) ?_ ?_
  · refine ⟨fun id status => iff_of_false (by simp [Pool.withNote]) ?_, fun record member =>
      fun completes => absurd completes (unrecorded record member)⟩
    rintro ⟨outcome, -, stored, -⟩
    simp [World.operationStatus, Pool.withNote, idlePool, fresh.operations] at stored
  · rintro before after - step ledger
    cases step with
    | act running admitted => exact ledger.act admitted.2.1 admitted.2.2
    | @start thread program state finished begins =>
      obtain ⟨world, due⟩ := state
      obtain ⟨starts, rfl⟩ := begins
      cases starts <;> exact ledger.of_db rfl
    | @environment state changes =>
      obtain ⟨world, due⟩ := state
      obtain ⟨changes, rfl⟩ := changes
      cases changes with
      | publications => exact ledger.congr (.of_eq rfl) (fun _ => id) fun _ _ _ _ => Iff.rfl
      | _ => exact ledger.of_db rfl
    | @restart state threads restarts =>
      obtain ⟨world, due⟩ := state
      obtain ⟨⟨-, rfl, -⟩, rfl⟩ := restarts
      exact ledger.of_db rfl

namespace Deployment

/-- A schedule on the host, with the ledger. -/
def audited (moves : List Move) : Pool Thread Action AuditState :=
  moves.foldl (playNoted dueNotes ⟨2592000, False⟩) ((idlePool host).withNote [])

end Deployment

end BuzzServer
