/-
This file says once what an agent command can do to the tables.

The transaction of `applyAgentCommand` is a sequence of statements on a working
copy, with errors after some of the writes. Seen from outside it either leaves
every table alone or commits one effect, and the effect is a plain function of
the tables: `AgentCommand.commit`. `AgentCommand.Acceptable` is what the tables
have to satisfy for the effect to happen. `applyAgentCommand_cases` is the
inversion every later argument about commands starts from.
-/

import BuzzServer.Storage.Store

namespace BuzzServer

open Relational AList AgentCommand AgentCommandMutation Transaction

/-! ### The effect of a command -/

/-- The agent a mutation is about. -/
def AgentCommandMutation.target : AgentCommandMutation → AgentId
  | .create agent => agent.id
  | .update id _ => id
  | .setState id _ _ => id

variable (operation : DurableOperation)

/-- The operations a mutation may be recorded under. -/
def AgentCommandMutation.Matches : AgentCommandMutation → Prop
  | .create agent => operation.kind = .createAgent ∧ operation.agentId = some agent.id
  | .update id _ => operation.kind = .updateAgent ∧ operation.agentId = some id
  | .setState id desiredState _ =>
      operation.kind.expectedState = some desiredState ∧ operation.agentId = some id

/-- The agents after a mutation. -/
def AgentCommandMutation.agents (agents : Table AgentId AgentSpec) :
    AgentCommandMutation → Table AgentId AgentSpec
  | .create agent => agents.insert agent.id agent
  | .update id changes =>
      match agents.lookup id with
      | some agent => agents.insert agent.id (changes.applyTo agent)
      | none => agents
  | .setState id desiredState _ =>
      match agents.lookup id with
      | some agent => agents.insert agent.id { agent with desiredState := desiredState }
      | none => agents

/-- The retention rows after a mutation recorded under an operation. -/
def AgentCommandMutation.retention (operation : DurableOperation)
    (retention : Table AgentId AgentRetention) :
    AgentCommandMutation → Table AgentId AgentRetention
  | .create _ => retention
  | .update _ _ => retention
  | .setState id _ retentionDeadline =>
      match operation.kind, retentionDeadline with
      | .deleteAgent, some purgeAfter =>
          retention.insert id ⟨operation.createdAt, purgeAfter⟩
      | .enableAgent, _ => retention.erase id
      | _, _ => retention

/-- What the tables have to satisfy for a mutation to go through. -/
def AgentCommandMutation.Applicable (database : Database) : AgentCommandMutation → Prop
  | .create agent =>
      agent.validate = .ok () ∧ agent.id ∉ database.agentSpecs ∧
        agent.communityConfigId ∈ database.communityConfigs
  | .update id changes =>
      ∃ agent, database.agentSpecs.lookup id = some agent ∧
        (changes.applyTo agent).validate = .ok () ∧ agent.id ∈ database.agentSpecs
  | .setState id _ retentionDeadline =>
      (∃ agent, database.agentSpecs.lookup id = some agent ∧ agent.id ∈ database.agentSpecs) ∧
        (operation.kind = .deleteAgent → retentionDeadline.isSome = true)

/-- The statements that write a mutation. -/
def AgentCommandMutation.statements : AgentCommandMutation → List WriteStatement
  | .create _ => [.insertAgentSpec]
  | .update _ _ => [.updateAgentSpec]
  | .setState _ _ _ =>
      .updateAgentSpec :: match operation.kind with
        | .deleteAgent => [.upsertRetention]
        | .enableAgent => [.deleteRetention]
        | _ => []

/-- The drafts after a promotion. -/
def promotedDrafts (drafts : Table DraftId DraftRow) (operationId : OperationId) :
    Option DraftId → Table DraftId DraftRow
  | none => drafts
  | some id =>
      match drafts.lookup id with
      | some row => drafts.insert id { row with promotedOperationId := some operationId }
      | none => drafts

namespace AgentCommand

variable (command : AgentCommand)

/-- The idempotency row a command leaves. -/
def keyRow : IdempotencyRecord :=
  { command.idempotency with operationId := command.operation.id }

/-- The tables after a command, as a function of the tables before it. -/
def commit (database : Database) : Database :=
  { database with
    agentSpecs := command.mutation.agents database.agentSpecs
    agentRetention := command.mutation.retention command.operation database.agentRetention
    operations := database.operations.insert command.operation.id command.operation
    idempotencyKeys := database.idempotencyKeys.insert
      (command.idempotency.scope, command.idempotency.key) command.keyRow
    agentDrafts :=
      promotedDrafts database.agentDrafts command.operation.id command.promotedDraftId
    auditRecords := database.auditRecords ++ [command.audit] }

/-- The statements that record a command after its mutation. -/
def recordStatements : List WriteStatement :=
  [.insertOperation, .insertIdempotencyKey, .insertAudit] ++
    if command.promotedDraftId.isSome then [.promoteDraft] else []

/-- The statements that write a command. -/
def statements : List WriteStatement :=
  .commit :: (command.mutation.statements command.operation ++ command.recordStatements)

/-- What the tables have to satisfy for a command with a new key to be accepted. -/
structure Acceptable (command : AgentCommand) (database : Database) : Prop where
  keyUnused : database.idempotencyKeys.lookup
    (command.idempotency.scope, command.idempotency.key) = none
  corresponds : command.mutation.Matches command.operation
  applicable : command.mutation.Applicable command.operation database
  operationFresh : command.operation.id ∉ database.operations
  promotable : ∀ id, command.promotedDraftId = some id → database.draftPromotable id = true
  redacted : command.audit.redactedDetail.any containsSecretMarker = false

end AgentCommand

/-! ### The transaction has that effect or none -/

variable {mutation : AgentCommandMutation} {id : AgentId} {agents : Table AgentId AgentSpec}
  {result : Unit} {operation : DurableOperation} {database after : Database} {faults : WriteFaults}

section

theorem applyRetention_eq_ok {retentionDeadline : Option Int} (desiredState : DesiredAgentState) :
    applyRetention faults operation id retentionDeadline database = .ok (result, after) ↔
      (operation.kind = .deleteAgent → retentionDeadline.isSome = true) ∧
        (∀ statement ∈ (AgentCommandMutation.setState id desiredState
          retentionDeadline).statements operation,
          statement = .updateAgentSpec ∨ faults statement = false) ∧
        after = { database with
          agentRetention := (AgentCommandMutation.setState id desiredState
            retentionDeadline).retention operation database.agentRetention } := by
  unfold applyRetention
  cases kind : operation.kind <;> cases retentionDeadline <;>
    simp_all [AgentCommandMutation.retention, AgentCommandMutation.statements]

theorem applyMutation_eq_ok :
    applyMutation faults operation mutation database = .ok (result, after) ↔
      mutation.Matches operation ∧ mutation.Applicable operation database ∧
        (∀ statement ∈ mutation.statements operation, faults statement = false) ∧
        after = { database with
          agentSpecs := mutation.agents database.agentSpecs
          agentRetention := mutation.retention operation database.agentRetention } := by
  cases mutation with
  | create agent =>
    simp only [applyMutation, insertAgentSpec, Transaction.bind_eq_ok, ensure_eq_ok,
      validateTransaction_eq_ok, Transaction.write_eq_ok, WriteFaults.at_eq_none,
      Bool.and_eq_true, decide_eq_true_eq]
    constructor
    · rintro ⟨_, _, ⟨corresponds, rfl⟩, _, _, ⟨valid, rfl⟩, quiet, ⟨fresh, known⟩, rfl⟩
      exact ⟨corresponds, ⟨valid, fresh, known⟩, by simpa [AgentCommandMutation.statements], rfl⟩
    · rintro ⟨corresponds, ⟨valid, fresh, known⟩, quiet, rfl⟩
      exact ⟨(), database, ⟨corresponds, rfl⟩, (), database, ⟨valid, rfl⟩,
        quiet _ (List.mem_singleton_self _), ⟨fresh, known⟩, rfl⟩
  | update id changes =>
    simp only [applyMutation, loadAgentTransaction, updateAgentTransaction,
      Transaction.bind_eq_ok, ensure_eq_ok, select_eq_ok,
      validateTransaction_eq_ok, Transaction.write_eq_ok, WriteFaults.at_eq_none,
      Bool.and_eq_true, decide_eq_true_eq]
    constructor
    · rintro ⟨_, _, ⟨corresponds, rfl⟩, agent, _, ⟨found, rfl⟩, _, _, ⟨valid, rfl⟩, quiet,
        present, rfl⟩
      refine ⟨corresponds, ⟨agent, found, valid, present⟩,
        by simpa [AgentCommandMutation.statements], ?_⟩
      simp only [AgentCommandMutation.agents, found]
      rfl
    · rintro ⟨corresponds, ⟨agent, found, valid, present⟩, quiet, rfl⟩
      refine ⟨(), database, ⟨corresponds, rfl⟩, agent, database, ⟨found, rfl⟩, (), database,
        ⟨valid, rfl⟩, quiet _ (List.mem_singleton_self _), present, ?_⟩
      simp only [AgentCommandMutation.agents, found]
      rfl
  | setState id desiredState retentionDeadline =>
    simp only [applyMutation, loadAgentTransaction, updateAgentTransaction,
      Transaction.bind_eq_ok, ensure_eq_ok, select_eq_ok, Transaction.write_eq_ok,
      WriteFaults.at_eq_none, Bool.and_eq_true, decide_eq_true_eq,
      applyRetention_eq_ok desiredState]
    constructor
    · rintro ⟨_, _, ⟨corresponds, rfl⟩, agent, _, ⟨found, rfl⟩, _, _, ⟨quiet, present, rfl⟩,
        deadline, retains, rfl⟩
      refine ⟨corresponds, ⟨⟨agent, found, present⟩, deadline⟩, fun statement member => ?_, ?_⟩
      · rcases retains statement member with rfl | unfailing
        · exact quiet
        · exact unfailing
      · simp only [AgentCommandMutation.agents, found]
    · rintro ⟨corresponds, ⟨⟨agent, found, present⟩, deadline⟩, quiet, rfl⟩
      refine ⟨(), database, ⟨corresponds, rfl⟩, agent, database, ⟨found, rfl⟩, (), _,
        ⟨quiet _ (List.mem_cons_self ..), present, rfl⟩, deadline,
        fun statement member => .inr (quiet statement member), ?_⟩
      simp only [AgentCommandMutation.agents, found]

theorem recordCommand_eq_ok {command : AgentCommand} :
    recordCommand faults command database = .ok (result, after) ↔
      command.operation.id ∉ database.operations ∧
        database.agentReferenceHolds command.operation.agentId = true ∧
        (command.idempotency.scope, command.idempotency.key) ∉ database.idempotencyKeys ∧
        (∀ id, command.promotedDraftId = some id → database.draftPromotable id = true) ∧
        command.audit.redactedDetail.any containsSecretMarker = false ∧
        (∀ statement ∈ command.recordStatements, faults statement = false) ∧
        after = { database with
          operations := database.operations.insert command.operation.id command.operation
          idempotencyKeys := database.idempotencyKeys.insert
            (command.idempotency.scope, command.idempotency.key) command.keyRow
          agentDrafts :=
            promotedDrafts database.agentDrafts command.operation.id command.promotedDraftId
          auditRecords := database.auditRecords ++ [command.audit] } := by
  unfold recordCommand
  cases promotion : command.promotedDraftId with
  | none =>
    simp only [insertOperation, insertIdempotencyKey, insertAudit, Transaction.bind_eq_ok,
      ensure_eq_ok, Transaction.write_eq_ok, writeAlways_eq_ok, WriteFaults.at_eq_none,
      Bool.and_eq_true, decide_eq_true_eq, Bool.not_eq_true']
    constructor
    · rintro ⟨_, _, ⟨inserts, ⟨fresh, owner⟩, rfl⟩, _, _, ⟨binds, ⟨unused, -⟩, rfl⟩, _, _,
        ⟨redacted, rfl⟩, audits, rfl⟩
      exact ⟨fresh, owner, unused, by simp, redacted,
        by simp [recordStatements, promotion, inserts, binds, audits], rfl⟩
    · rintro ⟨fresh, owner, unused, -, redacted, quiet, rfl⟩
      exact ⟨(), _, ⟨quiet _ (by simp [recordStatements]), ⟨fresh, owner⟩, rfl⟩, (), _,
        ⟨quiet _ (by simp [recordStatements]), ⟨unused, (AList.mem_insert _).mpr (.inl rfl)⟩, rfl⟩,
        (), _, ⟨redacted, rfl⟩, quiet _ (by simp [recordStatements]), rfl⟩
  | some draftId =>
    simp only [insertOperation, insertIdempotencyKey, insertAudit, markDraftPromoted,
      Transaction.bind_eq_ok, ensure_eq_ok, Transaction.write_eq_ok, writeAlways_eq_ok,
      WriteFaults.at_eq_none, Bool.and_eq_true, decide_eq_true_eq, Bool.not_eq_true']
    constructor
    · rintro ⟨_, _, ⟨inserts, ⟨fresh, owner⟩, rfl⟩, _, _, ⟨binds, ⟨unused, -⟩, rfl⟩, _, _,
        ⟨promotes, promotable, rfl⟩, _, _, ⟨redacted, rfl⟩, audits, rfl⟩
      refine ⟨fresh, owner, unused, ?_, redacted,
        by simp [recordStatements, inserts, binds, promotes, audits], rfl⟩
      rintro id ⟨rfl⟩
      exact promotable
    · rintro ⟨fresh, owner, unused, promotable, redacted, quiet, rfl⟩
      exact ⟨(), _, ⟨quiet _ (by simp [recordStatements]), ⟨fresh, owner⟩, rfl⟩, (), _,
        ⟨quiet _ (by simp [recordStatements]), ⟨unused, (AList.mem_insert _).mpr (.inl rfl)⟩, rfl⟩,
        (), _, ⟨quiet _ (by simp [recordStatements, promotion]), promotable draftId rfl, rfl⟩,
        (), _, ⟨redacted, rfl⟩, quiet _ (by simp [recordStatements]), rfl⟩

end

/-- A mutation that goes through leaves its target in the table. -/
theorem AgentCommandMutation.target_mem_agents
    (applicable : mutation.Applicable operation database) :
    mutation.target ∈ mutation.agents database.agentSpecs := by
  cases mutation with
  | create agent => exact (AList.mem_insert _).mpr (.inl rfl)
  | update id changes =>
    obtain ⟨agent, found, -, -⟩ := applicable
    simp only [AgentCommandMutation.agents, found]
    exact (AList.mem_insert _).mpr (.inr (Table.mem_of_lookup found))
  | setState id desiredState retentionDeadline =>
    obtain ⟨⟨agent, found, -⟩, -⟩ := applicable
    simp only [AgentCommandMutation.agents, found]
    exact (AList.mem_insert _).mpr (.inr (Table.mem_of_lookup found))

theorem AgentCommandMutation.Matches.agentId
    (corresponds : mutation.Matches operation) : operation.agentId = some mutation.target := by
  cases mutation <;> exact corresponds.2

/-! ### The effect, one row at a time -/

/-- Every agent is stored under its own id. -/
def KeyedById (agents : Table AgentId AgentSpec) : Prop :=
  ∀ id agent, agents.lookup id = some agent → agent.id = id

/-- The row of the target after a mutation. -/
def AgentCommandMutation.apply (current : Option AgentSpec) :
    AgentCommandMutation → Option AgentSpec
  | .create agent => some agent
  | .update _ changes => current.map changes.applyTo
  | .setState _ desiredState _ =>
      current.map fun agent => { agent with desiredState := desiredState }

theorem KeyedById.lookup_rewritten (keyed : KeyedById agents) (rewrite : AgentSpec → AgentSpec)
    (target id : AgentId) :
    lookup id (match agents.lookup target with
          | some agent => agents.insert agent.id (rewrite agent)
          | none => agents) =
      if id = target then (agents.lookup id).map rewrite else agents.lookup id := by
  cases found : agents.lookup target with
  | none =>
    by_cases same : id = target
    · subst same
      simp [found]
    · simp [same]
  | some agent =>
    simp only [keyed target agent found]
    by_cases same : id = target
    · subst same
      simp [found]
    · simp [same]

theorem AgentCommandMutation.lookup_agents (keyed : KeyedById agents)
    (mutation : AgentCommandMutation) (id : AgentId) :
    (mutation.agents agents).lookup id =
      if id = mutation.target then mutation.apply (agents.lookup id) else agents.lookup id := by
  cases mutation with
  | create agent => exact Table.lookup_insert_eq agents agent.id id agent
  | update target changes => exact keyed.lookup_rewritten changes.applyTo target id
  | setState target desiredState retentionDeadline =>
    exact keyed.lookup_rewritten
      (fun agent => { agent with desiredState := desiredState }) target id

theorem AgentCommandMutation.keyedById_agents (keyed : KeyedById agents)
    (mutation : AgentCommandMutation) : KeyedById (mutation.agents agents) := by
  intro id agent found
  rw [mutation.lookup_agents keyed] at found
  split at found
  · next same =>
    subst same
    cases mutation with
    | create created =>
      cases found
      rfl
    | update target changes | setState target desiredState retentionDeadline =>
      obtain ⟨earlier, present, rfl⟩ := Option.map_eq_some_iff.mp found
      exact keyed _ earlier present
  · exact keyed id agent found

variable (mutation : AgentCommandMutation)

/-- A mutation keeps every agent that is there. -/
theorem AgentCommandMutation.mem_agents (member : id ∈ agents) : id ∈ mutation.agents agents := by
  cases mutation with
  | create agent => exact (AList.mem_insert _).mpr (.inr member)
  | update target changes | setState target desiredState retentionDeadline =>
    simp only [AgentCommandMutation.agents]
    split
    · exact (AList.mem_insert _).mpr (.inr member)
    · exact member

variable {retention : Table AgentId AgentRetention}

/-- A mutation adds a retention row for its target at most. -/
theorem AgentCommandMutation.mem_retention (member : id ∈ mutation.retention operation retention) :
    id = mutation.target ∨ id ∈ retention := by
  cases mutation with
  | create agent => exact .inr member
  | update target changes => exact .inr member
  | setState target desiredState retentionDeadline =>
    simp only [AgentCommandMutation.retention] at member
    split at member
    · exact (AList.mem_insert _).mp member
    · exact .inr (mem_erase.mp member).2
    · exact .inr member

/-- A mutation leaves the retention rows of the other agents. -/
theorem AgentCommandMutation.mem_retention_of_ne (other : id ≠ mutation.target)
    (member : id ∈ retention) :
    id ∈ mutation.retention operation retention := by
  cases mutation with
  | create agent => exact member
  | update target changes => exact member
  | setState target desiredState retentionDeadline =>
    simp only [AgentCommandMutation.retention]
    split
    · exact (AList.mem_insert _).mpr (.inr member)
    · exact mem_erase.mpr ⟨other, member⟩
    · exact member

namespace SqliteStore

variable {command : AgentCommand}

theorem applyAgentCommand_reused {row : IdempotencyRecord} (bound : database.idempotencyKeys.lookup
      (command.idempotency.scope, command.idempotency.key) = some row)
    (differs : row.requestHash ≠ command.idempotency.requestHash) :
    applyAgentCommand faults command database = (.error keyReused, database) := by
  simp only [applyAgentCommand, bound, ne_eq, differs, not_false_eq_true, if_true]

theorem applyAgentCommand_replayed {row : IdempotencyRecord} {existing : DurableOperation}
    (bound : database.idempotencyKeys.lookup
      (command.idempotency.scope, command.idempotency.key) = some row)
    (same : row.requestHash = command.idempotency.requestHash)
    (recorded : database.operations.lookup row.operationId = some existing) :
    applyAgentCommand faults command database = (.ok (existing, true), database) := by
  simp only [applyAgentCommand, bound, same, ne_eq, not_true_eq_false, if_false, recorded]

/-- A command is accepted exactly if the tables allow it and no statement of it fails, and then
it has its effect. -/
theorem applyAgentCommand_eq_new :
    applyAgentCommand faults command database = (.ok (operation, false), after) ↔
      command.Acceptable database ∧ (∀ statement ∈ command.statements, faults statement = false) ∧
        operation = command.operation ∧ after = command.commit database := by
  constructor
  · intro accepted
    unfold applyAgentCommand at accepted
    split at accepted
    · split at accepted
      · cases accepted
      · split at accepted <;> cases accepted
    case h_2 keyUnused =>
      simp only [transaction, Transaction.atomically_eq_ok, Transaction.bind_eq_ok,
        Transaction.pure_eq_ok, WriteFaults.at_eq_none] at accepted
      obtain ⟨⟨_, _, mutated, _, _, recorded, same, rfl⟩, commits⟩ := accepted
      obtain ⟨corresponds, applicable, mutates, rfl⟩ := applyMutation_eq_ok.mp mutated
      obtain ⟨fresh, -, -, promotable, redacted, records, rfl⟩ := recordCommand_eq_ok.mp recorded
      refine ⟨⟨keyUnused, corresponds, applicable, fresh, promotable, redacted⟩, ?_,
        (Prod.mk.inj same).1, rfl⟩
      intro statement member
      simp only [AgentCommand.statements, List.mem_cons, List.mem_append] at member
      rcases member with rfl | member | member
      · exact commits
      · exact mutates statement member
      · exact records statement member
  · rintro ⟨acceptable, quiet, rfl, rfl⟩
    simp only [AgentCommand.statements, List.mem_cons, List.mem_append] at quiet
    simp only [applyAgentCommand, acceptable.keyUnused, transaction, Transaction.atomically_eq_ok,
      WriteFaults.at_eq_none, Transaction.bind_eq_ok, Transaction.pure_eq_ok]
    refine ⟨⟨(), _, applyMutation_eq_ok.mpr ⟨acceptable.corresponds, acceptable.applicable,
      fun statement member => quiet statement (.inr (.inl member)), rfl⟩, (), _,
      recordCommand_eq_ok.mpr ⟨acceptable.operationFresh, ?_,
        lookup_eq_none.mp acceptable.keyUnused, acceptable.promotable, acceptable.redacted,
        fun statement member => quiet statement (.inr (.inr member)), rfl⟩, trivial, rfl⟩,
      quiet _ (.inl rfl)⟩
    rw [acceptable.corresponds.agentId]
    exact decide_eq_true (target_mem_agents acceptable.applicable)

/-- The inversion of a command: it fails, replays or is accepted, and only an acceptance
changes the tables. -/
theorem applyAgentCommand_cases (faults : WriteFaults) (command : AgentCommand)
    (database : Database) :
    (∃ error, applyAgentCommand faults command database = (.error error, database)) ∨
      (∃ row existing, database.idempotencyKeys.lookup
          (command.idempotency.scope, command.idempotency.key) = some row ∧
        row.requestHash = command.idempotency.requestHash ∧
        database.operations.lookup row.operationId = some existing ∧
        applyAgentCommand faults command database = (.ok (existing, true), database)) ∨
      (command.Acceptable database ∧ applyAgentCommand faults command database =
          (.ok (command.operation, false), command.commit database)) := by
  cases bound : database.idempotencyKeys.lookup
      (command.idempotency.scope, command.idempotency.key) with
  | some row =>
    by_cases same : row.requestHash = command.idempotency.requestHash
    · cases recorded : database.operations.lookup row.operationId with
      | some existing =>
        exact .inr (.inl ⟨row, existing, rfl, same, recorded,
          applyAgentCommand_replayed bound same recorded⟩)
      | none =>
        refine .inl ⟨.database, ?_⟩
        simp only [applyAgentCommand, bound, same, ne_eq, not_true_eq_false, if_false, recorded]
    · exact .inl ⟨keyReused, applyAgentCommand_reused bound same⟩
  | none =>
    rcases outcome : applyAgentCommand faults command database with ⟨result, after⟩
    have unfolded := outcome
    simp only [applyAgentCommand, bound, transaction] at unfolded
    cases result with
    | error error =>
      obtain rfl := atomically_error unfolded
      exact .inl ⟨error, rfl⟩
    | ok answer =>
      obtain ⟨operation, replayed⟩ := answer
      simp only [Transaction.atomically_eq_ok, Transaction.bind_eq_ok,
        Transaction.pure_eq_ok] at unfolded
      obtain ⟨⟨_, _, -, _, _, -, same, -⟩, -⟩ := unfolded
      obtain ⟨rfl, rfl⟩ := Prod.mk.inj same
      obtain ⟨acceptable, -, -, rfl⟩ := applyAgentCommand_eq_new.mp outcome
      exact .inr (.inr ⟨acceptable, rfl⟩)

end SqliteStore

end BuzzServer
