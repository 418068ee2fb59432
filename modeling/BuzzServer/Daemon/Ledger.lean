/-
This file ties the history of accepted commands to the tables.

The history has no column in the database. What the database keeps of it is the
idempotency row of each command, its operation, and the mark on the draft it
promoted. None of these is ever taken back: operations lose their agent at most,
and their status moves forward only. So at any later time the tables still say
that the command was accepted, and as which operation.
-/

import BuzzServer.Daemon.Provenance

namespace BuzzServer

open Relational Concurrent

/-- The tables still know every command that was accepted, and no other key is bound. -/
structure World.Recorded (world : World) : Prop where
  keys : ∀ command ∈ world.accepted, world.db.idempotencyKeys.lookup
    (command.idempotency.scope, command.idempotency.key) = some command.keyRow
  bound : ∀ key row, world.db.idempotencyKeys.lookup key = some row → ∃ command ∈ world.accepted,
      key = (command.idempotency.scope, command.idempotency.key) ∧ row = command.keyRow
  operations : ∀ command ∈ world.accepted, ∃ operation,
    world.db.operations.lookup command.operation.id = some operation ∧
      operation.kind = command.operation.kind
  promotions : ∀ command ∈ world.accepted, ∀ id, command.promotedDraftId = some id →
    ∃ row, world.db.agentDrafts.lookup id = some row ∧
      row.promotedOperationId = some command.operation.id

section

variable {setting : Setting} {terms : Terms} {admits : Condition Thread Action World}
variable {thread : Thread} {before after : World} {Response : Type} {action : Action Response}
variable (effect : Effect thread before action after)

include effect

/-- An operation stays, and moves forward. -/
theorem Effect.operation_stays {id : OperationId} {row : DurableOperation}
    (found : before.db.operations.lookup id = some row) :
    ∃ later, after.db.operations.lookup id = some later ∧ row.Advances later := by
  have transitioned : ∀ {current : OperationId} {operation : DurableOperation}
      {next : OperationStatus} {errorCode : Option ErrorCode} {now : Int},
      before.db.operations.lookup current = some operation →
      operation.status.canTransitionTo next = true →
      ∃ later, (before.db.operations.insert current { operation with
        status := next, errorCode := errorCode, updatedAt := now }).lookup id = some later ∧
          row.Advances later := by
    intro current operation next errorCode now present permitted
    rw [Table.lookup_insert_eq]
    split
    · next same =>
      subst same
      obtain rfl := Option.some.inj (found.symm.trans present)
      exact ⟨_, rfl, rfl, rfl, rfl, fun _ holds => holds, .inr permitted⟩
    · exact ⟨row, found, .refl row⟩
  cases effect with
  | quiet same =>
    rw [same.tables.operations]
    exact ⟨row, found, .refl row⟩
  | removeCommunity checked removal =>
    exact ⟨_, removal.kept id row found, DurableOperation.advances_forget _ row⟩
  | @acceptCommand command acceptable =>
    have other : id ≠ command.operation.id := by
      rintro rfl
      exact acceptable.operationFresh (Table.mem_of_lookup found)
    refine ⟨row, ?_, .refl row⟩
    show (before.db.operations.insert _ _).lookup id = some row
    rw [AList.lookup_insert_ne other]
    exact found
  | transition present permitted => exact transitioned present permitted
  | completePurge present names kind permitted stored marked removal =>
    obtain ⟨later, between, advances⟩ := transitioned present permitted
    exact ⟨_, removal.kept id later between,
      advances.trans (DurableOperation.advances_forget _ later) rfl⟩
  | _ => exact ⟨row, found, .refl row⟩

/-- A draft that was promoted stays so. -/
theorem Effect.promotion_stays {id : DraftId} {row : DraftRow} {operationId : OperationId}
    (found : before.db.agentDrafts.lookup id = some row)
    (promoted : row.promotedOperationId = some operationId) :
    after.db.agentDrafts.lookup id = some row := by
  cases effect with
  | quiet same => exact same.tables.drafts id row found
  | removeCommunity checked removal
  | completePurge present names kind permitted stored marked removal =>
    rw [removal.drafts]
    exact found
  | @acceptCommand command acceptable =>
    show (promotedDrafts before.db.agentDrafts _ command.promotedDraftId).lookup id = some row
    cases promotion : command.promotedDraftId with
    | none => exact found
    | some draftId =>
      have other : id ≠ draftId := by
        rintro rfl
        have promotable := acceptable.promotable id promotion
        simp [Database.draftPromotable, found, promoted] at promotable
      simp only [promotedDrafts]
      split
      · rw [AList.lookup_insert_ne other]
        exact found
      · exact found
  | _ => exact found

/-- Keys are bound by commands that are accepted, and by nothing else. -/
theorem Effect.keys : (∃ command, action.submits = some command ∧ command.Acceptable before.db ∧
      after.accepted = before.accepted ++ [command] ∧ after.db = command.commit before.db) ∨
    (after.accepted = before.accepted ∧ after.db.idempotencyKeys = before.db.idempotencyKeys) := by
  cases effect with
  | quiet same => exact .inr ⟨same.accepted, same.tables.idempotencyKeys⟩
  | removeCommunity checked removal
  | completePurge present names kind permitted stored marked removal =>
    exact .inr ⟨rfl, removal.keys⟩
  | acceptCommand acceptable => exact .inl ⟨_, rfl, acceptable, rfl, rfl⟩
  | _ => exact .inr ⟨rfl, rfl⟩

omit effect

theorem AgentCommand.promotion_committed {command : AgentCommand} {database : Database}
    (acceptable : command.Acceptable database) {id : DraftId}
    (promotion : command.promotedDraftId = some id) :
    ∃ row, (command.commit database).agentDrafts.lookup id = some row ∧
      row.promotedOperationId = some command.operation.id := by
  have promotable := acceptable.promotable id promotion
  unfold Database.draftPromotable at promotable
  split at promotable
  · next row found =>
    refine ⟨{ row with promotedOperationId := some command.operation.id }, ?_, rfl⟩
    show (promotedDrafts database.agentDrafts _ command.promotedDraftId).lookup id = _
    rw [promotion]
    simp only [promotedDrafts, found]
    exact AList.lookup_insert _
  · cases promotable

theorem World.Recorded.act (effect : Effect thread before action after)
    (recorded : before.Recorded) : after.Recorded := by
  have kept : ∀ command ∈ before.accepted, (∃ operation,
      after.db.operations.lookup command.operation.id = some operation ∧
        operation.kind = command.operation.kind) := by
    intro command member
    obtain ⟨operation, found, kind⟩ := recorded.operations command member
    obtain ⟨later, present, advances⟩ := effect.operation_stays found
    exact ⟨later, present, advances.kind.trans kind⟩
  have marked : ∀ command ∈ before.accepted, ∀ id, command.promotedDraftId = some id →
      ∃ row, after.db.agentDrafts.lookup id = some row ∧
        row.promotedOperationId = some command.operation.id := by
    intro command member id promotion
    obtain ⟨row, found, promoted⟩ := recorded.promotions command member id promotion
    exact ⟨row, effect.promotion_stays found promoted, promoted⟩
  rcases effect.keys with ⟨command, -, acceptable, grown, committed⟩ | ⟨same, keys⟩
  · have inserted : after.db.idempotencyKeys = before.db.idempotencyKeys.insert
        (command.idempotency.scope, command.idempotency.key) command.keyRow := by
      rw [committed]
      rfl
    refine ⟨?_, ?_, ?_, ?_⟩
    · intro earlier member
      rw [inserted, Table.lookup_insert_eq]
      rw [grown, List.mem_append, List.mem_singleton] at member
      rcases member with member | rfl
      · have bound := recorded.keys earlier member
        rw [if_neg]
        · exact bound
        · intro same
          rw [same, acceptable.keyUnused] at bound
          cases bound
      · exact if_pos rfl
    · intro key row found
      rw [inserted, Table.lookup_insert_eq] at found
      rw [grown]
      split at found
      · next same =>
        cases found
        exact ⟨command, List.mem_append_right _ (List.mem_singleton_self _), same, rfl⟩
      · obtain ⟨earlier, member, rest⟩ := recorded.bound key row found
        exact ⟨earlier, List.mem_append_left _ member, rest⟩
    · intro earlier member
      rw [grown, List.mem_append, List.mem_singleton] at member
      rcases member with member | rfl
      · exact kept earlier member
      · refine ⟨earlier.operation, ?_, rfl⟩
        rw [committed]
        exact AList.lookup_insert _
    · intro earlier member id promotion
      rw [grown, List.mem_append, List.mem_singleton] at member
      rcases member with member | rfl
      · exact marked earlier member id promotion
      · rw [committed]
        exact AgentCommand.promotion_committed acceptable promotion
  · refine ⟨?_, ?_, ?_, ?_⟩
    · rw [same, keys]
      exact recorded.keys
    · rw [same, keys]
      exact recorded.bound
    · rw [same]
      exact kept
    · rw [same]
      exact marked

theorem World.Recorded.congr (recorded : before.Recorded)
    (accepted : after.accepted = before.accepted)
    (keys : after.db.idempotencyKeys = before.db.idempotencyKeys)
    (operations : after.db.operations = before.db.operations)
    (drafts : ∀ id row, before.db.agentDrafts.lookup id = some row →
      after.db.agentDrafts.lookup id = some row) : after.Recorded where
  keys := by
    rw [accepted, keys]
    exact recorded.keys
  bound := by
    rw [accepted, keys]
    exact recorded.bound
  operations := by
    rw [accepted, operations]
    exact recorded.operations
  promotions := by
    rw [accepted]
    intro command member id promotion
    obtain ⟨row, found, promoted⟩ := recorded.promotions command member id promotion
    exact ⟨row, drafts id row found, promoted⟩

theorem recorded_persists : Persists setting terms admits World.Recorded where
  act := fun _ _ _ effect recorded => recorded.act effect
  quiet := fun same recorded => recorded.congr same.accepted same.tables.idempotencyKeys
    same.tables.operations same.tables.drafts
  exit := fun _ recorded => recorded.congr rfl rfl rfl fun _ _ => id
  receive := fun _ _ _ recorded => recorded.congr rfl rfl rfl fun _ _ => id
  reboot := fun _ recorded => recorded.congr rfl rfl rfl fun _ _ => id

theorem World.Fresh.recorded {world : World} (fresh : world.Fresh) : world.Recorded where
  keys := fun _ member => by simp [fresh.accepted] at member
  bound := fun _ _ found => by simp [fresh.idempotencyKeys] at found
  operations := fun _ member => by simp [fresh.accepted] at member
  promotions := fun _ member => by simp [fresh.accepted] at member

/-- In every world a run reaches, the tables know what was accepted. -/
theorem Reachable.recorded {pool : Pool Thread Action World}
    (reachable : Reachable setting admits pool) : pool.world.Recorded :=
  (recorded_persists : Persists setting .unconditional admits _).reachable
    (fun durable => durable.elim)
    (fun _ _ action world _ => Terms.unconditional_admits _ action world)
    (fun _ fresh => fresh.recorded) reachable

end

end BuzzServer
