/-
This file proves that a command is accepted exactly once for each idempotency
key it is submitted under.

The abstract view is a ledger: the list of commands that were accepted, in
order, no two of them under the same scope and key. The tables are at all times
the initial tables with the commands of the ledger committed one after another,
however often each was submitted, whatever failed in between and wherever in
its transaction it failed.
-/

import BuzzServer.Storage.Command

namespace BuzzServer

open Relational SqliteStore

/-! ### Histories of calls -/

/-- One call of `apply_agent_command`: arbitrary arguments, whether the lock, the beginning of the
transaction or the lookup of the key fails, and the statements that fail after that. -/
structure CommandCall where
  unreachable : Bool
  faults : WriteFaults
  arguments : AgentCommand

/-- The arguments with the audit record as `execute` builds it: it names the operation and
says that it was accepted. -/
def CommandCall.command (call : CommandCall) : AgentCommand :=
  { call.arguments with
    audit := { call.arguments.audit with
      operationId := some call.arguments.operation.id, outcome := "accepted" } }

/-- The scope and key a command is submitted under. -/
def AgentCommand.binding (command : AgentCommand) : String × String :=
  (command.idempotency.scope, command.idempotency.key)

def submit (database : Database) (call : CommandCall) :
    Except StorageError (DurableOperation × Bool) × Database :=
  if call.unreachable then (.error .database, database)
  else applyAgentCommand call.faults call.command database

/-- The tables after a history of calls. -/
def submitAll : Database → List CommandCall → Database
  | database, [] => database
  | database, call :: rest => submitAll (submit database call).2 rest

/-- The ledger of a history: the commands it got accepted, in order. -/
def acceptedCommands : Database → List CommandCall → List AgentCommand
  | _, [] => []
  | database, call :: rest =>
      match submit database call with
      | (.ok (_, false), changed) => call.command :: acceptedCommands changed rest
      | (_, changed) => acceptedCommands changed rest

/-- A store that has accepted nothing yet, with whatever communities, agents and drafts. -/
def unusedStore (base : Database) : Database :=
  { base with operations := ∅, idempotencyKeys := ∅, auditRecords := [] }

/-- The audit rows that record the acceptance of an operation. -/
def Database.acceptanceRecords (database : Database) (id : OperationId) : List NewAuditRecord :=
  database.auditRecords.filter fun record =>
    decide (record.operationId = some id) && decide (record.outcome = "accepted")

/-! ### The ledger is the whole state -/

theorem submit_cases (database : Database) (call : CommandCall) :
    ((submit database call).2 = database ∧ acceptedCommands database [call] = []) ∨
      (call.command.Acceptable database ∧ submit database call =
          (.ok (call.command.operation, false), call.command.commit database)) := by
  by_cases unreachable : call.unreachable = true
  · simp [acceptedCommands, submit, unreachable]
  have reaches : submit database call = applyAgentCommand call.faults call.command database :=
    if_neg unreachable
  simp only [acceptedCommands, reaches]
  rcases applyAgentCommand_cases call.faults call.command database with
    ⟨error, failed⟩ | ⟨row, existing, -, -, -, replayed⟩ | accepted
  · exact .inl ⟨congrArg Prod.snd failed, by rw [failed]⟩
  · exact .inl ⟨congrArg Prod.snd replayed, by rw [replayed]⟩
  · exact .inr accepted

theorem acceptedCommands_cons (database : Database) (call : CommandCall) (rest : List CommandCall) :
    acceptedCommands database (call :: rest) =
      acceptedCommands database [call] ++ acceptedCommands (submit database call).2 rest := by
  simp only [acceptedCommands]
  split
  · next accepted => rw [accepted, List.singleton_append]
  · next _ other => rw [other, List.nil_append]

/-- The tables are the initial ones with the ledger committed once, in order. -/
theorem submitAll_eq_foldl (database : Database) (calls : List CommandCall) :
    submitAll database calls =
      (acceptedCommands database calls).foldl (fun tables command => command.commit tables)
        database := by
  induction calls generalizing database with
  | nil => rfl
  | cons call rest inductionHypothesis =>
    rw [acceptedCommands_cons, List.foldl_append, submitAll, inductionHypothesis]
    rcases submit_cases database call with ⟨unchanged, none⟩ | ⟨-, accepted⟩
    · rw [none, List.foldl_nil, unchanged]
    · have ledger : acceptedCommands database [call] = [call.command] := by
        simp only [acceptedCommands, accepted]
      rw [ledger, accepted, List.foldl_cons, List.foldl_nil]

/-! ### What the tables hold for each command of the ledger -/

/-- The tables bind every command of the ledger to one key row, one operation and one audit
row, and no key twice. -/
structure Bound (ledger : List AgentCommand) (database : Database) : Prop where
  distinct : (ledger.map AgentCommand.binding).Nodup
  keyRow : ∀ command ∈ ledger, database.idempotencyKeys.lookup command.binding = some command.keyRow
  operation : ∀ command ∈ ledger,
    database.operations.lookup command.operation.id = some command.operation
  audited : ∀ command ∈ ledger, (database.acceptanceRecords command.operation.id).length = 1
  recorded : ∀ record ∈ database.auditRecords, ∀ id, record.operationId = some id →
    id ∈ database.operations

theorem bound_unusedStore (base : Database) : Bound [] (unusedStore base) where
  distinct := List.nodup_nil
  keyRow := by simp
  operation := by simp
  audited := by simp
  recorded := by simp [unusedStore]

variable {ledger : List AgentCommand}

/-- The step: committing an acceptable command extends the ledger by it. -/
theorem Bound.commit {database : Database} {call : CommandCall}
    (bound : Bound ledger database) (acceptable : call.command.Acceptable database) :
    Bound (ledger ++ [call.command]) (call.command.commit database) := by
  have newKey : ∀ command ∈ ledger, command.binding ≠ call.command.binding := by
    intro command member same
    have taken := bound.keyRow command member
    rw [same] at taken
    exact Option.some_ne_none _ (taken.symm.trans acceptable.keyUnused)
  have newOperation : ∀ command ∈ ledger, command.operation.id ≠ call.command.operation.id := by
    intro command member same
    have taken := Table.mem_of_lookup (bound.operation command member)
    rw [same] at taken
    exact acceptable.operationFresh taken
  have unrecorded : database.acceptanceRecords call.command.operation.id = [] := by
    refine List.filter_eq_nil_iff.mpr fun record member holds => ?_
    simp only [Bool.and_eq_true, decide_eq_true_eq] at holds
    exact acceptable.operationFresh (bound.recorded record member _ holds.1)
  constructor
  · rw [List.map_append, List.nodup_append]
    refine ⟨bound.distinct, List.nodup_singleton _, ?_⟩
    rintro key member _ (new : _ ∈ [_]) rfl
    obtain ⟨command, present, rfl⟩ := List.mem_map.mp member
    exact newKey command present (List.mem_singleton.mp new)
  · intro command member
    rw [List.mem_append, List.mem_singleton] at member
    rcases member with earlier | rfl
    · show (database.idempotencyKeys.insert call.command.binding _).lookup _ = _
      rw [AList.lookup_insert_ne (newKey command earlier)]
      exact bound.keyRow command earlier
    · exact AList.lookup_insert _
  · intro command member
    rw [List.mem_append, List.mem_singleton] at member
    rcases member with earlier | rfl
    · show (database.operations.insert call.command.operation.id _).lookup _ = _
      rw [AList.lookup_insert_ne (newOperation command earlier)]
      exact bound.operation command earlier
    · exact AList.lookup_insert _
  · intro command member
    rw [List.mem_append, List.mem_singleton] at member
    have grows : (call.command.commit database).acceptanceRecords command.operation.id =
        database.acceptanceRecords command.operation.id ++ [call.command.audit].filter fun record =>
            decide (record.operationId = some command.operation.id) &&
              decide (record.outcome = "accepted") := List.filter_append ..
    rcases member with earlier | rfl
    · have other : ¬some call.command.operation.id = some command.operation.id :=
        fun same => newOperation command earlier (Option.some.inj same).symm
      rw [grows, List.length_append, bound.audited command earlier]
      simp [CommandCall.command] at other ⊢
      exact other
    · rw [grows, unrecorded]
      simp [CommandCall.command]
  · intro record member id names
    show id ∈ database.operations.insert call.command.operation.id _
    rw [AList.mem_insert]
    rcases List.mem_append.mp member with earlier | new
    · exact .inr (bound.recorded record earlier id names)
    · rw [List.mem_singleton.mp new] at names
      exact .inl (Option.some.inj names).symm

/-- The run: a whole history keeps the binding, for the ledger it grows. -/
theorem Bound.submitAll {database : Database}
    (bound : Bound ledger database) (calls : List CommandCall) :
    Bound (ledger ++ acceptedCommands database calls) (submitAll database calls) := by
  induction calls generalizing ledger database with
  | nil => simpa [acceptedCommands, BuzzServer.submitAll] using bound
  | cons call rest inductionHypothesis =>
    rw [acceptedCommands_cons, ← List.append_assoc, BuzzServer.submitAll]
    rcases submit_cases database call with ⟨unchanged, none⟩ | ⟨acceptable, accepted⟩
    · rw [none, unchanged, List.append_nil]
      exact inductionHypothesis bound
    · have ledger' : acceptedCommands database [call] = [call.command] := by
        simp only [acceptedCommands, accepted]
      rw [ledger', accepted]
      exact inductionHypothesis (bound.commit acceptable)

/-! ### Exactly once -/

/-- For every history of calls from a store that had accepted nothing: the tables are the
initial ones with the accepted commands committed once each, in order; no two accepted
commands share a scope and key; each of them is bound to one key row, one operation and one
audit row; a call that fails or replays changes no table; and a key that is reused answers,
where the store can be reached, with the recorded operation if the request is the same and with
a conflict if it is not. -/
theorem applyAgentCommand_exactlyOnce (base : Database) (calls : List CommandCall) :
    submitAll (unusedStore base) calls = (acceptedCommands (unusedStore base) calls).foldl
          (fun tables command => command.commit tables) (unusedStore base) ∧
      ((acceptedCommands (unusedStore base) calls).map AgentCommand.binding).Nodup ∧
      (∀ command ∈ acceptedCommands (unusedStore base) calls,
        (submitAll (unusedStore base) calls).idempotencyKeys.lookup command.binding =
            some command.keyRow ∧
          (submitAll (unusedStore base) calls).operations.lookup command.operation.id =
            some command.operation ∧
          ((submitAll (unusedStore base) calls).acceptanceRecords
            command.operation.id).length = 1) ∧
      (∀ call : CommandCall,
        (∃ error, (submit (submitAll (unusedStore base) calls) call).1 = .error error) ∨
            (∃ operation,
              (submit (submitAll (unusedStore base) calls) call).1 = .ok (operation, true)) →
          (submit (submitAll (unusedStore base) calls) call).2 =
            submitAll (unusedStore base) calls) ∧
      ∀ command ∈ acceptedCommands (unusedStore base) calls, ∀ call : CommandCall,
        call.command.binding = command.binding → submit (submitAll (unusedStore base) calls) call =
            if call.unreachable then (.error .database, submitAll (unusedStore base) calls)
            else if call.command.idempotency.requestHash = command.idempotency.requestHash then
              (.ok (command.operation, true), submitAll (unusedStore base) calls)
            else (.error keyReused, submitAll (unusedStore base) calls) := by
  have bound := (bound_unusedStore base).submitAll calls
  refine ⟨submitAll_eq_foldl _ calls, bound.distinct, ?_, ?_, ?_⟩
  · intro command member
    exact ⟨bound.keyRow command member, bound.operation command member,
      bound.audited command member⟩
  · intro call unsuccessful
    rcases submit_cases (submitAll (unusedStore base) calls) call with
      ⟨unchanged, -⟩ | ⟨-, accepted⟩
    · exact unchanged
    · rw [accepted] at unsuccessful
      simp at unsuccessful
  · intro command member call same
    have row : (submitAll (unusedStore base) calls).idempotencyKeys.lookup
        (call.command.idempotency.scope, call.command.idempotency.key) = some command.keyRow := by
      show AList.lookup call.command.binding _ = _
      rw [same]
      exact bound.keyRow command member
    unfold submit
    split_ifs with unreachable equal
    · rfl
    · exact applyAgentCommand_replayed row equal.symm (bound.operation command member)
    · exact applyAgentCommand_reused row (fun same => equal same.symm)

end BuzzServer
