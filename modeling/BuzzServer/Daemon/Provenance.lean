/-
This file says where the agents of a world come from.

An agent row is new because a command was accepted, or because a thread wrote
back a spec it had read before. The specs that were read and are still to be
written back are the ones in the worker's local variable and in the startup
loop's list. Every property of what the rows say rests on these two sources.
-/

import BuzzServer.Daemon.Lawful

namespace BuzzServer

open Relational Concurrent DurableOperation Table World

/-- The specs that threads have read and may still write back. -/
def World.held (world : World) : List AgentSpec := world.cached.toList ++ world.starting

variable {spec : AgentSpec}

theorem World.mem_held {world : World} :
    spec ∈ world.held ↔ world.cached = some spec ∨ spec ∈ world.starting := by
  simp [World.held]

theorem World.Sound.heldCreated {world : World} (sound : world.Sound)
    (held : spec ∈ world.held) : world.Created spec.id := by
  rcases mem_held.mp held with cached | starting
  · exact sound.cachedCreated spec cached
  · exact sound.startingCreated spec starting

theorem World.SameCore.held {before after : World} (same : before.SameCore after) :
    after.held = before.held := by
  unfold World.held
  rw [same.cached, same.starting]

/-- The command an action submits to the store. -/
def Action.submits {Response : Type} : Action Response → Option AgentCommand
  | .applyAgentCommand command => some command
  | _ => none

section

variable {setting : Setting} {terms : Terms} {thread : Thread} {before after : World}
variable {Response : Type} {action : Action Response}

theorem held_of_dropped (cached : after.cached = none ∨ after.cached = before.cached)
    (starting : ∀ listed ∈ after.starting, listed ∈ before.starting)
    (held : spec ∈ after.held) : spec ∈ before.held := by
  rw [mem_held] at held ⊢
  rcases held with read | listed
  · rcases cached with dropped | same
    · rw [dropped] at read
      cases read
    · exact .inl (same.symm.trans read)
  · exact .inr (starting spec listed)

/-- A thread that writes back drops what it held. -/
theorem held_of_putAgent {db : Database} (held : spec ∈ { before with
      db := db
      cached := if thread = .worker then none else before.cached
      starting := if thread = .main then before.starting.tail else before.starting :
        World }.held) : spec ∈ before.held := by
  refine held_of_dropped ?_ ?_ held
  · by_cases worker : thread = .worker
    · exact .inl (if_pos worker)
    · exact .inr (if_neg worker)
  · intro listed member
    dsimp only at member
    split at member
    · exact List.mem_of_mem_tail member
    · exact member

/-- A spec is held because it was held before or because its row was read. -/
theorem Effect.held (effect : Effect thread before action after)
    (keyed : KeyedById before.db.agentSpecs) (held : spec ∈ after.held) :
    spec ∈ before.held ∨ before.db.agentSpecs.lookup spec.id = some spec := by
  cases effect with
  | quiet same =>
    rw [same.held] at held
    exact .inl held
  | readCached worker found =>
    rcases mem_held.mp held with read | listed
    · cases read
      rw [keyed _ _ found]
      exact .inr found
    · exact .inl (mem_held.mpr (.inr listed))
  | putAgent known | dropAgent => exact .inl (held_of_putAgent held)
  | listStartupAgents main =>
    rcases mem_held.mp held with read | listed
    · exact .inl (mem_held.mpr (.inl read))
    · obtain ⟨-, key, found⟩ := mem_query.mp listed
      rw [keyed key spec found]
      exact .inr found
  | leaveScope =>
    refine .inl (held_of_dropped ?_ ?_ held)
    · by_cases worker : thread = .worker
      · exact .inl (if_pos worker)
      · exact .inr (if_neg worker)
    · intro listed member
      split at member
      · cases member
      · exact member
  | _ => exact .inl held

theorem duty_conforms {command : AgentCommand} (done : duty setting terms thread action before)
    (submits : action.submits = some command) :
    thread ≠ .worker ∧ command.Conforms thread before := by
  cases action with
  | applyAgentCommand submitted =>
    cases submits
    exact done.2
  | _ => cases submits

/-- What a thread writes back, it held. -/
theorem duty_putAgent (done : duty setting terms thread (.putAgent spec) before) :
    ∃ agent ∈ before.held, spec.SameAgent agent := by
  rcases done.2 with ⟨-, -, agent, cached, same⟩ | ⟨-, agent, rest, starting, same⟩
  · exact ⟨agent, mem_held.mpr (.inl cached), same⟩
  · refine ⟨agent, mem_held.mpr (.inr ?_), same⟩
    rw [starting]
    exact List.mem_cons_self

/-- An operation at a later time: it may have lost its agent, and its status moved only along
the allowed transitions. -/
structure DurableOperation.Advances (earlier later : DurableOperation) : Prop where
  id : later.id = earlier.id
  kind : later.kind = earlier.kind
  createdAt : later.createdAt = earlier.createdAt
  agentId : ∀ id, later.agentId = some id → earlier.agentId = some id
  status : later.status = earlier.status ∨ earlier.status.canTransitionTo later.status = true

theorem DurableOperation.Advances.refl (operation : DurableOperation) :
    operation.Advances operation :=
  ⟨rfl, rfl, rfl, fun _ holds => holds, .inl rfl⟩

theorem DurableOperation.advances_forget (ids : List AgentId) (operation : DurableOperation) :
    operation.Advances (operation.forget ids) :=
  ⟨rfl, rfl, rfl, fun _ names => (agentId_of_forget names).1, .inl rfl⟩

theorem DurableOperation.Advances.trans {first second third : DurableOperation}
    (earlier : first.Advances second) (later : second.Advances third)
    (settled : third.status = second.status) : first.Advances third where
  id := later.id.trans earlier.id
  kind := later.kind.trans earlier.kind
  createdAt := later.createdAt.trans earlier.createdAt
  agentId := fun id names => earlier.agentId id (later.agentId id names)
  status := by
    rw [settled]
    exact earlier.status

/-- What is not over was not over before. -/
theorem DurableOperation.Advances.nonterminal {earlier later : DurableOperation}
    (advances : earlier.Advances later) (unfinished : later.status.isTerminal = false) :
    earlier.status.isTerminal = false := by
  rcases advances.status with same | permitted
  · rw [← same]
    exact unfinished
  · exact OperationStatus.not_isTerminal_of_canTransitionTo permitted

theorem Table.lookup_transition {operations : Table OperationId DurableOperation}
    {id other : OperationId} {operation row : DurableOperation} {next : OperationStatus}
    {errorCode : Option ErrorCode} {now : Int}
    (current : operations.lookup id = some operation)
    (permitted : operation.status.canTransitionTo next = true)
    (found : (operations.insert id { operation with
      status := next, errorCode := errorCode, updatedAt := now }).lookup other = some row) :
    ∃ earlier, operations.lookup other = some earlier ∧ earlier.Advances row := by
  rw [lookup_insert_eq] at found
  split at found
  · next same =>
    cases found
    subst same
    exact ⟨operation, current, rfl, rfl, rfl, fun _ => id, .inr permitted⟩
  · exact ⟨row, found, .refl row⟩

/-- A step without a command: each row was there before or was written back, and each operation
was there before, or is the record of a removal and names no agent. -/
structure World.Rewritten (before after : World) : Prop where
  accepted : after.accepted = before.accepted
  rows : ∀ id agent, after.db.agentSpecs.lookup id = some agent →
    before.db.agentSpecs.lookup id = some agent ∨
      ∃ spec ∈ before.held, agent.SameAgent spec ∧ agent.id = id
  operations : ∀ id row, after.db.operations.lookup id = some row →
    (∃ earlier, before.db.operations.lookup id = some earlier ∧ earlier.Advances row) ∨
      row.agentId = none

theorem rewritten_of_same (accepted : after.accepted = before.accepted)
    (rows : after.db.agentSpecs = before.db.agentSpecs)
    (operations : after.db.operations = before.db.operations) : before.Rewritten after where
  accepted := accepted
  rows := by
    rw [rows]
    exact fun _ _ found => .inl found
  operations := by
    rw [operations]
    exact fun _ row found => .inl ⟨row, found, .refl row⟩

theorem rows_of_removal {bound : Nat} {ids : List AgentId} {earlier later : Database}
    (removal : Database.Removal bound ids earlier later) {id : AgentId} {agent : AgentSpec}
    (found : later.agentSpecs.lookup id = some agent) :
    earlier.agentSpecs.lookup id = some agent := by
  rw [removal.agents] at found
  split at found
  · cases found
  · exact found

/-- A command was accepted, or no row is new. -/
theorem Effect.sources (effect : Effect thread before action after)
    (done : duty setting terms thread action before) :
    (∃ command, action.submits = some command ∧ command.Acceptable before.db ∧ after = { before with
        db := command.commit before.db
        accepted := before.accepted ++ [command] }) ∨ before.Rewritten after := by
  cases effect with
  | quiet same =>
    exact .inr (rewritten_of_same same.accepted same.tables.agentSpecs same.tables.operations)
  | putAgent known =>
    obtain ⟨agent, held, same⟩ := duty_putAgent done
    refine .inr { rewritten_of_same rfl rfl rfl with rows := fun id row found => ?_ }
    rw [lookup_insert_eq] at found
    split at found
    · next this =>
      cases found
      exact .inr ⟨agent, held, same, this.symm⟩
    · exact .inl found
  | removeCommunity checked removal =>
    refine .inr ⟨rfl, fun _ _ found => .inl (rows_of_removal removal found), fun id row found => ?_⟩
    rcases removal.operation found with ⟨earlier, present, rfl⟩ | ⟨-, -, unnamed, -⟩
    · exact .inl ⟨earlier, present, DurableOperation.advances_forget _ earlier⟩
    · exact .inr unnamed
  | acceptCommand acceptable => exact .inl ⟨_, rfl, acceptable, rfl⟩
  | transition current permitted =>
    exact .inr { rewritten_of_same rfl rfl rfl with
      operations := fun _ _ found => .inl (Table.lookup_transition current permitted found) }
  | completePurge current names kind permitted present marked removal =>
    refine .inr ⟨rfl, fun _ _ found => .inl (rows_of_removal removal found), fun id row found => ?_⟩
    rcases removal.operation found with ⟨earlier, between, rfl⟩ | ⟨-, -, unnamed, -⟩
    · obtain ⟨first, present, advances⟩ := Table.lookup_transition current permitted between
      exact .inl ⟨first, present, advances.trans (DurableOperation.advances_forget _ earlier) rfl⟩
    · exact .inr unnamed
  | _ => exact .inr (rewritten_of_same rfl rfl rfl)

end

end BuzzServer
